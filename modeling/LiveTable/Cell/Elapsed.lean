import LiveTable.Cell.Sentinel
import LiveTable.Number.Reading
import LiveTable.Text.Blank

namespace LiveTable.Elapsed

def units (n : Nat) (unit : String) (rest : Nat) (smaller : String) : String :=
  toString n ++ unit ++ (if rest = 0 then "" else toString rest ++ smaller)

def describePast (seconds : Nat) : String :=
  let minutes := seconds / 60
  let hours := minutes / 60
  let days := hours / 24
  let years := days / 365
  if seconds < 120 then toString seconds ++ "s"
  else if minutes < 10 then units minutes "m" (seconds % 60) "s"
  else if minutes < 180 then toString minutes ++ "m"
  else if hours < 8 then units hours "h" (minutes % 60) "m"
  else if hours < 48 then toString hours ++ "h"
  else if hours < 24 * 8 then units days "d" (hours % 24) "h"
  else if hours < 24 * 365 * 2 then toString days ++ "d"
  else if hours < 24 * 365 * 8 then units years "y" (days % 365) "d"
  else toString years ++ "y"

def describe (seconds : Int) : String :=
  if seconds < -1 then "<invalid>"
  else if seconds < 0 then "0s"
  else describePast seconds.toNat

def unit? : List Char → Option (Float × List Char)
  | 'y' :: rest => some (365.0 * 86400.0, rest)
  | 'd' :: rest => some (86400.0, rest)
  | 'h' :: rest => some (3600.0, rest)
  | 'm' :: 's' :: rest => some (0.001, rest)
  | 'm' :: rest => some (60.0, rest)
  | 's' :: rest => some (1.0, rest)
  | _ => none

def isNumeric (c : Char) : Bool := Reading.isDigit c || c == '.'

def sum? : Nat → Float → List Char → Option Float
  | 0, _, _ => none
  | fuel + 1, total, cs =>
    if cs.isEmpty then some total
    else
      let number := cs.takeWhile isNumeric
      if number.isEmpty then none
      else
        match unit? (cs.dropWhile isNumeric) with
        | none => none
        | some (seconds, rest) =>
          match Reading.floatOfChars? number with
          | none => none
          | some x => sum? fuel (total + x * seconds) rest

def seconds? (s : String) : Option Float :=
  let trimmed := Text.trim s
  if trimmed.isEmpty || trimmed == Cell.notApplicable || trimmed == Cell.unknown then none
  else sum? (trimmed.length + 1) 0 trimmed.toList

end LiveTable.Elapsed
