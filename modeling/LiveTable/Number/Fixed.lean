import LiveTable.Number.Binary64

namespace LiveTable.Fixed

def roundDiv (num den : Nat) : Nat :=
  let q := num / den
  let r := num % den
  if 2 * r > den || (2 * r == den && q % 2 == 1) then q + 1 else q

def layOut (places units : Nat) : String :=
  let whole := toString (units / Nat.pow 10 places)
  let part := toString (units % Nat.pow 10 places)
  whole ++ "." ++ String.ofList (List.replicate (places - part.length) '0') ++ part

def ofRatio (places num den : Nat) : String := layOut places (roundDiv (num * Nat.pow 10 places) den)

def ofFloat (places : Nat) (x : Float) : String :=
  let (num, den) := (Binary64.magnitude x).ratio
  ofRatio places num den

end LiveTable.Fixed
