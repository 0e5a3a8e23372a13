import LiveTable.Keyed
import LiveTable.Number.Binary64

namespace LiveTable

-- A JSON number: a whole number from `-2 ^ 63` to `2 ^ 64 - 1`, or a finite double.
inductive Number where
  | int (n : Int)
  | float (x : Float)

inductive Json where
  | null
  | bool (b : Bool)
  | number (n : Number)
  | string (s : String)
  | array (items : List Json)
  | object (members : List (String × Json))
deriving Inhabited

namespace Number

def toFloat : Number → Float
  | int n => Binary64.ofInt n
  | float x => x

def same : Number → Number → Bool
  | int m, int n => m == n
  | float x, float y => Binary64.compare? x y == some .eq
  | _, _ => false

def index? : Number → Option Nat
  | int n => if n < 0 then none else some n.toNat
  | float _ => none

def wholeLimit : Float := 9223372036854775808

-- The number a double stands for: a whole one if it is whole and below `2 ^ 63` in size.
def ofFloat? (x : Float) : Option Number :=
  if !Binary64.isFinite x then none
  else if Binary64.isIntegral x && (Binary64.key x).natAbs < (Binary64.key wholeLimit).natAbs then
    some (.int (Binary64.truncate Width.int64Min Width.int64Max x))
  else some (.float x)

end Number

namespace Json

inductive Kind where
  | null | boolean | number | string | array | object
deriving DecidableEq

def Kind.name : Kind → String
  | null => "null"
  | boolean => "boolean"
  | number => "number"
  | string => "string"
  | array => "array"
  | object => "object"

def kind : Json → Kind
  | null => .null
  | bool _ => .boolean
  | number _ => .number
  | string _ => .string
  | array _ => .array
  | object _ => .object

def nat (n : Nat) : Json := number (.int n)

def ofFloat (x : Float) : Json :=
  match Number.ofFloat? x with
  | some n => number n
  | none => null

-- The object with these members; of members with one key the last one stays.
def ofMembers (members : List (String × Json)) : Json :=
  object (members.foldl (fun acc (k, v) => Keyed.insert k v acc) [])

def lookup (key : String) (members : List (String × Json)) : Option Json :=
  (members.find? (·.1 == key)).map (·.2)

def get? (key : String) : Json → Option Json
  | object members => lookup key members
  | _ => none

def isNull : Json → Bool
  | null => true
  | _ => false

def truthy : Json → Bool
  | null => false
  | bool b => b
  | _ => true

def string? : Json → Option String
  | string s => some s
  | _ => none

mutual

-- Two values are the same when they agree part by part; `1` and `1.0` differ.
def same : Json → Json → Bool
  | null, null => true
  | bool a, bool b => a == b
  | number a, number b => a.same b
  | string a, string b => a == b
  | array a, array b => sameItems a b
  | object a, object b => sameMembers a b
  | _, _ => false

def sameItems : List Json → List Json → Bool
  | [], [] => true
  | a :: as, b :: bs => same a b && sameItems as bs
  | _, _ => false

def sameMembers : List (String × Json) → List (String × Json) → Bool
  | [], [] => true
  | (j, a) :: as, (k, b) :: bs => j == k && same a b && sameMembers as bs
  | _, _ => false

end

end Json

end LiveTable
