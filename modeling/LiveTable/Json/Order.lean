import LiveTable.Json.Basic

namespace LiveTable.Json

def rank : Json → Nat
  | null => 0
  | bool false => 1
  | bool true => 2
  | number _ => 3
  | string _ => 4
  | array _ => 5
  | object _ => 6

def compareKeys : List (String × Json) → List (String × Json) → Ordering
  | [], [] => .eq
  | [], _ => .lt
  | _, [] => .gt
  | (j, _) :: as, (k, _) :: bs => (compare j k).then (compareKeys as bs)

mutual

def order : Json → Json → Ordering
  | number a, number b => compare (Binary64.key a.toFloat) (Binary64.key b.toFloat)
  | string a, string b => compare a b
  | array a, array b => orderItems a b
  | object a, object b => (compareKeys a b).then (orderValues a b)
  | a, b => compare a.rank b.rank

def orderItems : List Json → List Json → Ordering
  | [], [] => .eq
  | [], _ => .lt
  | _, [] => .gt
  | a :: as, b :: bs => (order a b).then (orderItems as bs)

def orderValues : List (String × Json) → List (String × Json) → Ordering
  | (_, a) :: as, (_, b) :: bs => (order a b).then (orderValues as bs)
  | _, _ => .eq

end

def sorted (items : List Json) : List Json := items.mergeSort fun a b => order a b != .gt

end LiveTable.Json
