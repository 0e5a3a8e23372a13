import LiveTable.Json.Basic
import LiveTable.Query.Filter.Basic

namespace LiveTable.Path

inductive Literal where
  | text (s : String)
  | number (x : Float)
  | bool (b : Bool)
  | null
deriving DecidableEq

inductive Step where
  | child (name : String)
  | index (i : Int)
  | slice (first last : Option Int)
  | children
  | descend (name : String)
  | matching (path : List Step) (test : Option (Comparison × Literal))
deriving Inhabited

def Literal.order? : Literal → Json → Option Ordering
  | number y, .number n => Binary64.compare? n.toFloat y
  | text t, .string s => some (compare s t)
  | bool c, .bool b => some (compare b c)
  | null, .null => some .eq
  | _, _ => none

def comparisonHolds (c : Comparison) : Option Ordering → Bool
  | some o => c.holds o
  | none => c == .ne

-- The place an index names in a list of `size` items; negative ones count from the end.
def place? (size : Nat) (i : Int) : Option Nat :=
  let p := if i < 0 then size + i else i
  if p < 0 then none else some p.toNat

def bound (size : Nat) (i : Int) : Nat := min size ((place? size i).getD 0)

def checkedSpan? {α : Type} (items : List α) (start stop : Nat) : Option (List α) :=
  if start ≤ stop ∧ stop ≤ items.length then some ((items.take stop).drop start) else none

def spanStart (size : Nat) (first : Option Int) : Nat := (first.map (bound size)).getD 0

def spanStop (size : Nat) (last : Option Int) : Nat := (last.map (bound size)).getD size

theorem stop_inside (size : Nat) (last : Option Int) : spanStop size last ≤ size := by
  cases last with
  | none => exact Nat.le_refl size
  | some i => exact Nat.min_le_left size _

theorem span_inside {α : Type} (items : List α) (first last : Option Int)
    (ordered : spanStart items.length first < spanStop items.length last) :
    (checkedSpan? items (spanStart items.length first) (spanStop items.length last)).isSome := by
  rw [checkedSpan?, if_pos ⟨Nat.le_of_lt ordered, stop_inside items.length last⟩]
  rfl

def slice {α : Type} (items : List α) (first last : Option Int) : List α :=
  if ordered : spanStart items.length first < spanStop items.length last then
    (checkedSpan? items (spanStart items.length first) (spanStop items.length last)).get
      (span_inside items first last ordered)
  else []

def itemAt? {α : Type} (items : List α) (i : Int) : Option α := (place? items.length i).bind (items[·]?)

mutual

-- All members of the given name at any depth; the name `*` stands for all members and items.
def descendants (name : String) : Json → List Json
  | .object members =>
    (if name = "*" then members.map (·.2) else (Json.lookup name members).toList) ++
      descendantsOfMembers name members
  | .array items => (if name = "*" then items else []) ++ descendantsOfItems name items
  | _ => []

def descendantsOfItems (name : String) : List Json → List Json
  | [] => []
  | v :: rest => descendants name v ++ descendantsOfItems name rest

def descendantsOfMembers (name : String) : List (String × Json) → List Json
  | [] => []
  | (_, v) :: rest => descendants name v ++ descendantsOfMembers name rest

end

def accepts (selected : List Json) (test : Option (Comparison × Literal)) : Bool :=
  match selected.head?, test with
  | none, _ => false
  | some v, none => v.truthy
  | some v, some (c, literal) => comparisonHolds c (literal.order? v)

mutual

def Step.select : Step → Json → List Json
  | .child name, v => (v.get? name).toList
  | .index i, .array items => (itemAt? items i).toList
  | .slice first last, .array items => Path.slice items first last
  | .children, .array items => items
  | .children, .object members => members.map (·.2)
  | .descend name, v => descendants name v
  | .matching path test, .array items => items.filter fun v => accepts (selectFrom path [v]) test
  | .matching path test, v => if accepts (selectFrom path [v]) test then [v] else []
  | _, _ => []

def selectFrom : List Step → List Json → List Json
  | [], values => values
  | step :: rest, values => selectFrom rest (values.flatMap step.select)

end

end LiveTable.Path

namespace LiveTable

structure Path where
  steps : List Path.Step

def Path.find (path : Path) (root : Json) : List Json := Path.selectFrom path.steps [root]

end LiveTable
