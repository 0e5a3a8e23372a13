import LiveTable.Calendar.Date
import LiveTable.Number.Reading

namespace LiveTable.Calendar

structure Moment where
  day : Int
  second : Int
  nanos : Int
deriving DecidableEq

namespace Timestamp

open Reading (isDigit natOfDigits)

def digits? (count : Nat) (cs : List Char) : Option (Nat × List Char) :=
  let found := cs.take count
  if found.length = count && found.all isDigit then some (natOfDigits found, cs.drop count) else none

def sign? (c : Char) : List Char → Option (List Char)
  | d :: rest => if d = c then some rest else none
  | [] => none

def separator? : List Char → Option (List Char)
  | 'T' :: rest => some rest
  | 't' :: rest => some rest
  | ' ' :: rest => some rest
  | _ => none

def nanos? : List Char → Option (Nat × List Char)
  | '.' :: rest =>
    let found := (rest.takeWhile isDigit).take 9
    if found.isEmpty then none
    else some (natOfDigits found * Nat.pow 10 (9 - found.length), rest.dropWhile isDigit)
  | rest => some (0, rest)

def offset? : List Char → Option (Int × List Char)
  | [] => none
  | c :: rest =>
    if c = 'Z' || c = 'z' then some (0, rest)
    else if c = '+' || c = '-' || c = '\u2212' then do
      let (hours, rest) ← digits? 2 rest
      let rest ← sign? ':' rest
      let (minutes, rest) ← digits? 2 rest
      if minutes ≥ 60 || hours ≥ 24 then none
      let seconds : Int := hours * 3600 + minutes * 60
      return (if c = '+' then seconds else -seconds, rest)
    else none

def ofChars? (cs : List Char) : Option Moment := do
  let (year, cs) ← digits? 4 cs
  let cs ← sign? '-' cs
  let (month, cs) ← digits? 2 cs
  let cs ← sign? '-' cs
  let (day, cs) ← digits? 2 cs
  let cs ← separator? cs
  let (hour, cs) ← digits? 2 cs
  let cs ← sign? ':' cs
  let (minute, cs) ← digits? 2 cs
  let cs ← sign? ':' cs
  let (second, cs) ← digits? 2 cs
  let (nanos, cs) ← nanos? cs
  let (offset, cs) ← offset? cs
  let date : Date := ⟨year, month, day⟩
  if !cs.isEmpty || !date.isValid || hour ≥ 24 || minute ≥ 60 || second > 60 then none
  let leap := second = 60
  let total : Int := date.toDays * secondsPerDay + hour * 3600 + minute * 60 +
    (if leap then 59 else second) - offset
  return ⟨Int.fdiv total secondsPerDay, Int.fmod total secondsPerDay,
    if leap then nanos + 1000000000 else nanos⟩

def parse? (s : String) : Option Moment := ofChars? s.toList

end Timestamp

namespace Moment

-- Nanoseconds from one moment to another; a leap second inside the same day counts.
def nanosUntil (m n : Moment) : Int :=
  let leap : Int :=
    if m.second < n.second && m.nanos ≥ 1000000000 then 1
    else if n.second < m.second && n.nanos ≥ 1000000000 then -1
    else 0
  ((n.day - m.day) * secondsPerDay + n.second - m.second + leap) * 1000000000 + n.nanos - m.nanos

def secondsUntil (m : Moment) (now : Int) : Int :=
  (m.nanosUntil ⟨Int.fdiv now secondsPerDay, Int.fmod now secondsPerDay, 0⟩).tdiv 1000000000

end Moment

end LiveTable.Calendar
