namespace LiveTable.Base64

def digit? (c : Char) : Option Nat :=
  if 'A' ≤ c && c ≤ 'Z' then some (c.toNat - 'A'.toNat)
  else if 'a' ≤ c && c ≤ 'z' then some (c.toNat - 'a'.toNat + 26)
  else if '0' ≤ c && c ≤ '9' then some (c.toNat - '0'.toNat + 52)
  else if c = '+' then some 62
  else if c = '/' then some 63
  else none

def isDigit (c : Char) : Bool := (digit? c).isSome

def endsClean (unit : Nat) (c : Char) : Bool := (digit? c).any (· % unit == 0)

def isValidChars : List Char → Bool
  | [] => true
  | [a, b, '=', '='] => isDigit a && endsClean 16 b
  | [a, b, c, '='] => isDigit a && isDigit b && endsClean 4 c
  | a :: b :: c :: d :: rest => [a, b, c, d].all isDigit && isValidChars rest
  | _ => false

def isValid (s : String) : Bool := isValidChars s.toList

end LiveTable.Base64
