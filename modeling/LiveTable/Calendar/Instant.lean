import LiveTable.Calendar.Timestamp
import LiveTable.Text.Search

namespace LiveTable.Calendar.Instant

open Reading (isDigit natOfDigits)
open Timestamp (digits? sign? separator?)

def pair? (limit : Nat) (cs : List Char) : Option (Nat × List Char) := do
  let (n, rest) ← digits? 2 cs
  if n < limit then return (n, rest) else none

def year? : List Char → Option (Int × List Char)
  | '+' :: rest => (digits? 6 rest).map fun (n, rest) => ((n : Int), rest)
  | '-' :: rest => do
    let (n, rest) ← digits? 6 rest
    if n = 0 then none else return (-(n : Int), rest)
  | cs => (digits? 4 cs).map fun (n, rest) => ((n : Int), rest)

def dash? (extended : Bool) (cs : List Char) : Option (List Char) :=
  if extended then sign? '-' cs else if cs.head? = some '-' then none else some cs

def date? (cs : List Char) : Option (Date × List Char) := do
  let (year, cs) ← year? cs
  let extended := cs.head? = some '-'
  let cs ← dash? extended cs
  let (month, cs) ← digits? 2 cs
  let cs ← dash? extended cs
  let (day, cs) ← digits? 2 cs
  let date : Date := ⟨year, month, day⟩
  if date.isValid && year.natAbs ≤ 9999 then return (date, cs) else none

def next? (extended : Bool) (cs : List Char) : Option (List Char) :=
  if extended then sign? ':' cs
  else if ((cs.take 2).filter isDigit).length = 2 then some cs else none

def fraction? : List Char → Option (Nat × List Char)
  | [] => some (0, [])
  | c :: rest =>
    if c = '.' || c = ',' then
      let found := (rest.takeWhile isDigit).take 9
      if found.isEmpty then none
      else some (natOfDigits found * Nat.pow 10 (9 - found.length), rest.drop found.length)
    else some (0, c :: rest)

def minutes? (extended : Bool) (limit : Nat) (cs : List Char) :
    Option (Nat × Nat × Nat × List Char) :=
  match next? extended cs with
  | none => some (0, 0, 0, cs)
  | some cs => do
    let (minute, cs) ← pair? 60 cs
    match next? extended cs with
    | none => return (minute, 0, 0, cs)
    | some cs =>
      let (second, cs) ← pair? limit cs
      let (nanos, cs) ← fraction? cs
      return (minute, second, nanos, cs)

-- The second of the day, a leap second counted as the one before it, and the nanoseconds.
def time? (cs : List Char) : Option (Nat × Nat × List Char) := do
  let (hour, cs) ← pair? 24 cs
  let (minute, second, nanos, cs) ← minutes? (cs.head? = some ':') 61 cs
  return (hour * 3600 + minute * 60 + min second 59, nanos, cs)

def signedOffset? (sign : Int) (cs : List Char) : Option (Int × List Char) := do
  let (hour, cs) ← pair? 26 cs
  let (minute, second, nanos, cs) ← minutes? (cs.head? = some ':') 60 cs
  let size := hour * 3600 + minute * 60 + second + (if nanos ≥ 500000000 then 1 else 0)
  if size < 26 * 3600 then return (sign * size, cs) else none

def offset? : List Char → Option (Int × List Char)
  | [] => none
  | c :: rest =>
    if c = 'Z' || c = 'z' then some (0, rest)
    else if c = '+' then signedOffset? 1 rest
    else if c = '-' then signedOffset? (-1) rest
    else none

def isAsciiLetter (c : Char) : Bool := ('a' ≤ c && c ≤ 'z') || ('A' ≤ c && c ≤ 'Z')

def isZoneStart (c : Char) : Bool := isAsciiLetter c || c = '.' || c = '_'

def isZonePart (c : Char) : Bool := isZoneStart c || isDigit c || c = '+' || c = '-'

def isZoneName (cs : List Char) : Bool :=
  (Text.splitChars ['/'] cs).all fun part => part.head?.any isZoneStart && part.all isZonePart

def isHourOffset : List Char → Bool
  | [] => false
  | sign :: rest =>
    (sign = '+' || sign = '-') && rest.length ≤ 5 &&
      (signedOffset? 1 rest).any fun (_, more) => more.isEmpty

def isKeyStart (c : Char) : Bool := c = '_' || ('a' ≤ c && c ≤ 'z')

def isKey (cs : List Char) : Bool :=
  cs.head?.any isKeyStart && cs.all fun c => isKeyStart c || c = '-' || isDigit c

def isValue (cs : List Char) : Bool :=
  (Text.splitChars ['-'] cs).all fun part =>
    !part.isEmpty && part.all fun c => isAsciiLetter c || isDigit c

def isKeyedNote (cs : List Char) : Bool :=
  match cs.dropWhile (· != '=') with
  | [] => false
  | _ :: value => isKey (cs.takeWhile (· != '=')) && isValue value

def isZoneNote (cs : List Char) : Bool :=
  let cs := if cs.head? = some '!' then cs.drop 1 else cs
  isHourOffset cs || isZoneName cs

def notes? : Nat → List Char → Option (List (List Char))
  | _, [] => some []
  | 0, _ => none
  | fuel + 1, '[' :: rest =>
    match rest.dropWhile (· != ']') with
    | [] => none
    | _ :: more => (notes? fuel more).map (rest.takeWhile (· != ']') :: ·)
  | _, _ => none

def areNotes (cs : List Char) : Bool :=
  match notes? cs.length cs with
  | none => false
  | some [] => true
  | some (first :: rest) => (isZoneNote first || isKeyedNote first) && rest.all isKeyedNote

def earliest : Int := -377705023201
def latest : Int := 253402207200

-- The second of a moment that is so many seconds and nanoseconds from the start of 1970; moments
-- before it count towards it.
def wholeSecond (seconds : Int) (nanos : Nat) : Int :=
  if seconds < 0 && nanos > 0 then seconds + 1 else seconds

def seconds? (s : String) : Option Int := do
  let (date, cs) ← date? s.toList
  let cs ← separator? cs
  let (second, nanos, cs) ← time? cs
  let (offset, cs) ← offset? cs
  let total := date.toDays * secondsPerDay + second - offset
  if areNotes cs && earliest ≤ total && total ≤ latest then return wholeSecond total nanos else none

end LiveTable.Calendar.Instant
