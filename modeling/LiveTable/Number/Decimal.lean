import LiveTable.Number.Binary64

namespace LiveTable

structure Decimal where
  digits : Nat
  exponent : Int
deriving DecidableEq

namespace Decimal

def digitCount (n : Nat) : Nat := (Nat.toDigits 10 n).length

def stripZeros : Nat → Nat → Int → Decimal
  | 0, digits, exponent => ⟨digits, exponent⟩
  | fuel + 1, digits, exponent =>
    if digits != 0 && digits % 10 == 0 then stripZeros fuel (digits / 10) (exponent + 1)
    else ⟨digits, exponent⟩

-- The power of ten just above `num / den`: the least `k` with `num / den < 10 ^ k`.
def pointPosition (num den : Nat) : Int :=
  let k : Int := digitCount num - digitCount den
  let below : Bool := match k with
    | .ofNat e => num < den * Nat.pow 10 e
    | .negSucc e => num * Nat.pow 10 (e + 1) < den
  if below then k else k + 1

-- The values that round to a double, in quarters of the unit of its last place.
structure Interval where
  low : Nat
  middle : Nat
  high : Nat
  closed : Bool

def interval (x : Float) : Interval :=
  let m := (Binary64.magnitude x).mantissa
  let narrow := Binary64.fractionField x == 0 && Binary64.exponentField x > 1
  ⟨4 * m - (if narrow then 1 else 2), 4 * m, 4 * m + 2, m % 2 == 0⟩

def Interval.contains (i : Interval) (unit place candidate : Nat) : Bool :=
  let c := candidate * place
  let lo := i.low * unit
  let hi := i.high * unit
  if i.closed then lo ≤ c && c ≤ hi else lo < c && c < hi

inductive Tie where
  | toEven | up
deriving DecidableEq

def onGrid? (tie : Tie) (i : Interval) (exponent k : Int) (n : Nat) : Option Decimal :=
  let place := k - n
  let (binaryUp, binaryDown) := match exponent with
    | .ofNat e => (Nat.pow 2 e, 1)
    | .negSucc e => (1, Nat.pow 2 (e + 1))
  let (decimalUp, decimalDown) := match place with
    | .ofNat e => (Nat.pow 10 e, 1)
    | .negSucc e => (1, Nat.pow 10 (e + 1))
  let unit := binaryUp * decimalDown
  let step := 4 * decimalUp * binaryDown
  let value := i.middle * unit
  let down := value / step
  let up := down + 1
  match i.contains unit step down && down != 0, i.contains unit step up with
  | false, false => none
  | true, false => some ⟨down, place⟩
  | false, true => some ⟨up, place⟩
  | true, true =>
    let below := value - down * step
    let above := up * step - value
    let tied := below == above && tie == .toEven && down % 2 == 0
    some ⟨if below < above || tied then down else up, place⟩

def ofFloat (tie : Tie) (x : Float) : Decimal :=
  let m := Binary64.magnitude x
  if m.mantissa = 0 then ⟨0, 0⟩
  else
    let (num, den) := m.ratio
    let k := pointPosition num den
    match (List.range 17).findSome? fun n => onGrid? tie (interval x) m.exponent k (n + 1) with
    | some d => stripZeros 20 d.digits d.exponent
    | none => ⟨num, 0⟩

structure Layout where
  -- The least position of the point, counted from the first digit, that is written out.
  lowest : Option Int
  highest : Option Int
  plusSign : Bool
  pointZero : Bool
  tie : Tie

def zeros (n : Int) : String := String.ofList (List.replicate n.toNat '0')

def layOut (style : Layout) (d : Decimal) : String :=
  let digits := toString d.digits
  if d.digits = 0 then if style.pointZero then "0.0" else "0"
  else
    let point : Int := digits.length + d.exponent
    if (style.lowest.all (· ≤ point)) && (style.highest.all (point ≤ ·)) then
      if d.exponent ≥ 0 then digits ++ zeros d.exponent ++ (if style.pointZero then ".0" else "")
      else if point > 0 then
        let (whole, part) := digits.toList.splitAt point.toNat
        String.ofList whole ++ "." ++ String.ofList part
      else "0." ++ zeros (-point) ++ digits
    else
      let head := String.ofList (digits.toList.take 1)
      let tail := String.ofList (digits.toList.drop 1)
      let power := point - 1
      head ++ (if tail.isEmpty then "" else "." ++ tail) ++ "e" ++
        (if style.plusSign && power ≥ 0 then "+" else "") ++ toString power

def render (style : Layout) (x : Float) : String :=
  if Binary64.isNaN x then "NaN"
  else (if Binary64.negative x then "-" else "") ++
    (if Binary64.isFinite x then layOut style (ofFloat style.tie x) else "inf")

def plain : Layout := ⟨some (-3), some 16, false, true, .up⟩

def positional : Layout := ⟨none, none, false, false, .up⟩

end Decimal

def plainNumber (x : Float) : String := Decimal.render Decimal.plain x

end LiveTable
