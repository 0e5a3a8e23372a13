import LiveTable.Number.Width

namespace LiveTable.Binary64

structure Magnitude where
  mantissa : Nat
  exponent : Int
deriving DecidableEq

def negative (x : Float) : Bool := x.toBits ≥ 0x8000000000000000

def exponentField (x : Float) : Nat := x.toBits.toNat / Nat.pow 2 52 % Nat.pow 2 11

def fractionField (x : Float) : Nat := x.toBits.toNat % Nat.pow 2 52

def isFinite (x : Float) : Bool := exponentField x != 2047

def isNaN (x : Float) : Bool := exponentField x == 2047 && fractionField x != 0

def magnitude (x : Float) : Magnitude :=
  if exponentField x = 0 then ⟨fractionField x, -1074⟩
  else ⟨Nat.pow 2 52 + fractionField x, exponentField x - 1075⟩

def Magnitude.ratio (m : Magnitude) : Nat × Nat :=
  match m.exponent with
  | .ofNat e => (m.mantissa * Nat.pow 2 e, 1)
  | .negSucc e => (m.mantissa, Nat.pow 2 (e + 1))

-- Doubles other than NaN compare as their keys do: the sign and the remaining bits as one integer.
def key (x : Float) : Int :=
  let rest : Int := (x.toBits.toNat % Nat.pow 2 63 : Nat)
  if negative x then -rest else rest

def compare? (x y : Float) : Option Ordering :=
  if isNaN x || isNaN y then none else some (compare (key x) (key y))

def clamp (lo hi n : Int) : Int := max lo (min hi n)

def truncate (lo hi : Int) (x : Float) : Int :=
  if isNaN x then 0
  else if !isFinite x then if negative x then lo else hi
  else
    let (num, den) := (magnitude x).ratio
    clamp lo hi (if negative x then -(num / den : Nat) else (num / den : Nat))

def floor (lo hi : Int) (x : Float) : Int :=
  if isNaN x then 0
  else if !isFinite x then if negative x then lo else hi
  else
    let (num, den) := (magnitude x).ratio
    clamp lo hi (if negative x then -((num + den - 1) / den : Nat) else (num / den : Nat))

def round (lo hi : Int) (x : Float) : Int :=
  if isNaN x then 0
  else if !isFinite x then if negative x then lo else hi
  else
    let (num, den) := (magnitude x).ratio
    let whole := (2 * num + den) / (2 * den)
    clamp lo hi (if negative x then -(whole : Nat) else (whole : Nat))

def isIntegral (x : Float) : Bool :=
  isFinite x && (let (num, den) := (magnitude x).ratio; num % den == 0)

def ofInt (n : Int) : Float :=
  if n < 0 then -(UInt64.ofNat n.natAbs).toFloat else (UInt64.ofNat n.natAbs).toFloat

end LiveTable.Binary64
