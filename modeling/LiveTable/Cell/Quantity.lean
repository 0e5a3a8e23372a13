import LiveTable.Number.Fixed
import LiveTable.Number.Reading
import LiveTable.Text.Blank

namespace LiveTable.Quantity

def binaryUnits : List (String × Nat) :=
  [("Ei", Nat.pow 2 60), ("Pi", Nat.pow 2 50), ("Ti", Nat.pow 2 40), ("Gi", Nat.pow 2 30),
    ("Mi", Nat.pow 2 20), ("Ki", Nat.pow 2 10)]

def decimalUnits : List (String × Nat) :=
  [("E", Nat.pow 10 18), ("P", Nat.pow 10 15), ("T", Nat.pow 10 12), ("G", Nat.pow 10 9),
    ("M", Nat.pow 10 6), ("K", Nat.pow 10 3), ("k", Nat.pow 10 3)]

def stripEnd? (unit : String) (cs : List Char) : Option (List Char) :=
  if unit.toList.isSuffixOf cs then some (cs.take (cs.length - unit.toList.length)) else none

def splitUnit (cs : List Char) : List Char × Float :=
  let whole := (binaryUnits ++ decimalUnits).findSome? fun (unit, size) =>
    (stripEnd? unit cs).map fun number => (number, Binary64.ofInt size)
  (whole.or ((stripEnd? "m" cs).map fun number => (number, 0.001))).getD (cs, 1.0)

def parse? (s : String) : Option Float :=
  let cs := Text.trimChars s.toList
  if cs.isEmpty then none
  else
    let (number, size) := splitUnit cs
    match Reading.floatOfChars? number with
    | none => none
    | some x =>
      let scaled := x * size
      if Binary64.isFinite scaled && Binary64.key scaled ≥ 0 then some scaled else none

def splitCores (cs : List Char) : List Char × Float :=
  let named := [("m", (1.0 : Float)), ("u", 0.001), ("n", 0.000001)].findSome? fun (unit, size) =>
    (stripEnd? unit cs).map fun number => (number, size)
  named.getD (cs, 1000.0)

def millicores? (s : String) : Option Nat :=
  let cs := Text.trimChars s.toList
  if cs.isEmpty then none
  else
    let (number, size) := splitCores cs
    match Reading.floatOfChars? number with
    | none => none
    | some x =>
      let scaled := x * size
      let rounded := Binary64.round (-1) Width.uint64Max scaled
      if Binary64.isFinite scaled && rounded ≥ 0 then some rounded.toNat else none

def showMillicores (n : Nat) : String :=
  if n ≥ 1000 then Fixed.ofFloat 2 (Binary64.ofInt n / 1000.0) ++ "c" else toString n ++ "m"

-- The nearest whole number of at most 53 significant bits, a half to the even one.
def to53Bits (n : Nat) : Nat :=
  if n < Nat.pow 2 53 then n
  else
    let unit := Nat.pow 2 (Nat.log2 n - 52)
    Fixed.roundDiv n unit * unit

def showBytes (n : Nat) : String :=
  if n = 0 then "0"
  else
    let bytes := to53Bits n
    match binaryUnits.find? fun (_, size) => size ≤ bytes with
    | some (unit, size) => Fixed.ofRatio 1 bytes size ++ unit
    | none => toString n ++ "B"

end LiveTable.Quantity
