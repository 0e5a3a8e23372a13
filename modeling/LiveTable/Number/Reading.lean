import LiveTable.Number.Width

namespace LiveTable.Reading

def isDigit (c : Char) : Bool := '0' ≤ c && c ≤ '9'

def digitValue (c : Char) : Nat := c.toNat - '0'.toNat

def natOfDigits (cs : List Char) : Nat := cs.foldl (fun n c => 10 * n + digitValue c) 0

def scaled (digits : Nat) (exponent : Int) : Float :=
  if digits = 0 then 0
  else
    let size : Int := (Nat.toDigits 10 digits).length + exponent
    if size > 400 then 1.0 / 0.0
    else if size < -400 then 0
    else Float.ofScientific digits (exponent < 0) exponent.natAbs

def sign : List Char → Bool × List Char
  | '-' :: cs => (true, cs)
  | '+' :: cs => (false, cs)
  | cs => (false, cs)

def exponent? : List Char → Option Int
  | [] => some 0
  | c :: cs =>
    if c == 'e' || c == 'E' then
      let (negative, digits) := sign cs
      if digits.isEmpty || !digits.all isDigit then none
      else some (if negative then -(natOfDigits digits : Int) else natOfDigits digits)
    else none

def unsignedFloat? (cs : List Char) : Option Float :=
  let whole := cs.takeWhile isDigit
  let rest := cs.dropWhile isDigit
  let (part, rest) := match rest with
    | '.' :: cs => (cs.takeWhile isDigit, cs.dropWhile isDigit)
    | cs => ([], cs)
  if whole.isEmpty && part.isEmpty then none
  else (exponent? rest).map fun e => scaled (natOfDigits (whole ++ part)) (e - part.length)

def word? (cs : List Char) : Option Float :=
  let w := String.ofList (cs.map Char.toLower)
  if w == "inf" || w == "infinity" then some (1.0 / 0.0)
  else if w == "nan" then some (0.0 / 0.0)
  else none

def floatOfChars? (cs : List Char) : Option Float :=
  let (negative, rest) := sign cs
  let value := (unsignedFloat? rest).or (word? rest)
  value.map fun x => if negative then -x else x

def float? (s : String) : Option Float := floatOfChars? s.toList

def intOfChars? (lo hi : Int) (cs : List Char) : Option Int :=
  let (negative, digits) := sign cs
  if digits.isEmpty || !digits.all isDigit then none
  else
    let n : Int := natOfDigits digits
    let n := if negative then -n else n
    if lo ≤ n && n ≤ hi then some n else none

def int64? (s : String) : Option Int := intOfChars? Width.int64Min Width.int64Max s.toList

def uint64? (s : String) : Option Nat :=
  if s.toList.head? == some '-' then none
  else (intOfChars? 0 Width.uint64Max s.toList).map Int.toNat

end LiveTable.Reading
