import LiveTable.Json.Basic

namespace LiveTable.Json.Parser

def isSpace (c : Char) : Bool := c == ' ' || c == '\n' || c == '\t' || c == '\r'

def isDigit (c : Char) : Bool := '0' ≤ c && c ≤ '9'

def skip (cs : List Char) : List Char := cs.dropWhile isSpace

-- The digits read so far, as far as they fit 64 bits, and the power of ten they still want.
structure Scaled where
  digits : Nat
  exponent : Int
  full : Bool

def fits (n : Nat) : Bool := n ≤ Width.uint64Max

def Scaled.pushWhole (s : Scaled) (c : Char) : Scaled :=
  let n := 10 * s.digits + (c.toNat - '0'.toNat)
  if !s.full && fits n then { s with digits := n } else ⟨s.digits, s.exponent + 1, true⟩

def Scaled.pushPart (s : Scaled) (c : Char) : Scaled :=
  let n := 10 * s.digits + (c.toNat - '0'.toNat)
  if !s.full && fits n then ⟨n, s.exponent - 1, false⟩ else { s with full := true }

def powerOfTen (n : Nat) : Float := Float.ofScientific 1 false n

def scale? : Nat → Float → Int → Option Float
  | 0, x, _ => some x
  | fuel + 1, x, e =>
    if e.natAbs ≤ 308 then
      let y := if e ≥ 0 then x * powerOfTen e.natAbs else x / powerOfTen e.natAbs
      if Binary64.isFinite y then some y else none
    else if x == 0 then some x
    else if e > 0 then none
    else scale? fuel (x / powerOfTen 308) (e + 308)

def exponent? : List Char → Option (Option Int × List Char)
  | [] => some (none, [])
  | c :: cs =>
    if c == 'e' || c == 'E' then
      let (negative, rest) := match cs with
        | '-' :: rest => (true, rest)
        | '+' :: rest => (false, rest)
        | rest => (false, rest)
      let digits := rest.takeWhile isDigit
      let n : Int := (digits.foldl (fun (n : Nat) c => 10 * n + (c.toNat - '0'.toNat)) 0 : Nat)
      if digits.isEmpty then none
      else some (some (if negative then -n else n), rest.dropWhile isDigit)
    else some (none, c :: cs)

def float? (negative : Bool) (s : Scaled) (e : Int) : Option Number :=
  (scale? 4 (UInt64.ofNat s.digits).toFloat (s.exponent + e)).map fun x =>
    .float (if negative then -x else x)

def whole? (negative : Bool) (s : Scaled) : Option Number :=
  if s.full then float? negative s 0
  else if !negative then some (.int s.digits)
  else if s.digits = 0 || -(s.digits : Int) < Width.int64Min then float? true s 0
  else some (.int (-(s.digits : Int)))

def number? (cs : List Char) : Option (Number × List Char) :=
  let (negative, cs) := match cs with
    | '-' :: rest => (true, rest)
    | rest => (false, rest)
  let digits := cs.takeWhile isDigit
  if digits.isEmpty || (digits.head? == some '0' && digits.length > 1) then none
  else
    let s := digits.foldl Scaled.pushWhole ⟨0, 0, false⟩
    match cs.dropWhile isDigit with
    | '.' :: rest =>
      let part := rest.takeWhile isDigit
      if part.isEmpty then none
      else
        let s := part.foldl Scaled.pushPart { s with full := false }
        match exponent? (rest.dropWhile isDigit) with
        | none => none
        | some (e, rest) => (float? negative s (e.getD 0)).map (·, rest)
    | rest =>
      match exponent? rest with
      | none => none
      | some (none, rest) => (whole? negative s).map (·, rest)
      | some (some e, rest) => (float? negative s e).map (·, rest)

def hexValue? (c : Char) : Option Nat :=
  if isDigit c then some (c.toNat - '0'.toNat)
  else if 'a' ≤ c && c ≤ 'f' then some (c.toNat - 'a'.toNat + 10)
  else if 'A' ≤ c && c ≤ 'F' then some (c.toNat - 'A'.toNat + 10)
  else none

def hex4? : List Char → Option (Nat × List Char)
  | a :: b :: c :: d :: rest => do
    let a ← hexValue? a
    let b ← hexValue? b
    let c ← hexValue? c
    let d ← hexValue? d
    return (((a * 16 + b) * 16 + c) * 16 + d, rest)
  | _ => none

def escaped? (cs : List Char) : Option (Char × List Char) :=
  match hex4? cs with
  | none => none
  | some (n, rest) =>
    if 0xD800 ≤ n && n < 0xDC00 then
      match rest with
      | '\\' :: 'u' :: more =>
        match hex4? more with
        | some (m, rest) =>
          if 0xDC00 ≤ m && m < 0xE000 then
            some (Char.ofNat (0x10000 + (n - 0xD800) * 0x400 + (m - 0xDC00)), rest)
          else none
        | none => none
      | _ => none
    else if 0xDC00 ≤ n && n < 0xE000 then none
    else some (Char.ofNat n, rest)

def escapeValue? : Char → Option Char
  | '"' => some '"'
  | '\\' => some '\\'
  | '/' => some '/'
  | 'b' => some (Char.ofNat 8)
  | 'f' => some (Char.ofNat 12)
  | 'n' => some '\n'
  | 'r' => some '\r'
  | 't' => some '\t'
  | _ => none

-- The text up to the closing quote, for which so many characters may be read; `acc` holds what was
-- read, last first.
def text? : Nat → List Char → List Char → Option (String × List Char)
  | 0, _, _ => none
  | fuel + 1, acc, cs =>
    match cs with
    | [] => none
    | '"' :: rest => some (String.ofList acc.reverse, rest)
    | '\\' :: 'u' :: rest =>
      match escaped? rest with
      | some (c, rest) => text? fuel (c :: acc) rest
      | none => none
    | '\\' :: c :: rest =>
      match escapeValue? c with
      | some c => text? fuel (c :: acc) rest
      | none => none
    | c :: rest => if c.toNat < 32 then none else text? fuel (c :: acc) rest

mutual

def value? : Nat → List Char → Option (Json × List Char)
  | 0, _ => none
  | fuel + 1, cs =>
    match skip cs with
    | 'n' :: 'u' :: 'l' :: 'l' :: rest => some (.null, rest)
    | 't' :: 'r' :: 'u' :: 'e' :: rest => some (.bool true, rest)
    | 'f' :: 'a' :: 'l' :: 's' :: 'e' :: rest => some (.bool false, rest)
    | '"' :: rest => (text? (fuel + 1) [] rest).map fun (s, rest) => (.string s, rest)
    | '[' :: rest =>
      match skip rest with
      | ']' :: rest => some (.array [], rest)
      | rest => items? fuel [] rest
    | '\x7b' :: rest =>
      match skip rest with
      | '\x7d' :: rest => some (.object [], rest)
      | rest => members? fuel [] rest
    | rest => (number? rest).map fun (n, rest) => (.number n, rest)

def items? : Nat → List Json → List Char → Option (Json × List Char)
  | 0, _, _ => none
  | fuel + 1, acc, cs =>
    match value? fuel cs with
    | none => none
    | some (v, rest) =>
      match skip rest with
      | ',' :: rest => items? fuel (v :: acc) rest
      | ']' :: rest => some (.array (v :: acc).reverse, rest)
      | _ => none

def members? : Nat → List (String × Json) → List Char → Option (Json × List Char)
  | 0, _, _ => none
  | fuel + 1, acc, cs =>
    match skip cs with
    | '"' :: rest =>
      match text? (fuel + 1) [] rest with
      | none => none
      | some (key, rest) =>
        match skip rest with
        | ':' :: rest =>
          match value? fuel rest with
          | none => none
          | some (v, rest) =>
            match skip rest with
            | ',' :: rest => members? fuel ((key, v) :: acc) rest
            | '\x7d' :: rest => some (ofMembers ((key, v) :: acc).reverse, rest)
            | _ => none
        | _ => none
    | _ => none

end

end Parser

def parse? (s : String) : Option Json :=
  let cs := s.toList
  match Parser.value? (2 * cs.length + 2) cs with
  | some (v, rest) => if (Parser.skip rest).isEmpty then some v else none
  | none => none

end LiveTable.Json
