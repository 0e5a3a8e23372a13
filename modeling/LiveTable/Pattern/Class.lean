import LiveTable.Pattern.Escape

namespace LiveTable.Pattern

def nestLimit : Nat := 250

def asciiClasses : List (String × CharSet) := [
  ("alnum", ⟨[(0x30, 0x39), (0x41, 0x5a), (0x61, 0x7a)]⟩),
  ("alpha", ⟨[(0x41, 0x5a), (0x61, 0x7a)]⟩),
  ("ascii", ⟨[(0, 0x7f)]⟩),
  ("blank", ⟨[(9, 9), (0x20, 0x20)]⟩),
  ("cntrl", ⟨[(0, 0x1f), (0x7f, 0x7f)]⟩),
  ("digit", ⟨[(0x30, 0x39)]⟩),
  ("graph", ⟨[(0x21, 0x7e)]⟩),
  ("lower", ⟨[(0x61, 0x7a)]⟩),
  ("print", ⟨[(0x20, 0x7e)]⟩),
  ("punct", ⟨[(0x21, 0x2f), (0x3a, 0x40), (0x5b, 0x60), (0x7b, 0x7e)]⟩),
  ("space", ⟨[(9, 13), (0x20, 0x20)]⟩),
  ("upper", ⟨[(0x41, 0x5a)]⟩),
  ("word", ⟨[(0x30, 0x39), (0x41, 0x5a), (0x5f, 0x5f), (0x61, 0x7a)]⟩),
  ("xdigit", ⟨[(0x30, 0x39), (0x41, 0x46), (0x61, 0x66)]⟩)]

def asciiClass? (cs : Rest) : Option ((CharSet × Bool) × Rest) :=
  match cs with
  | ':' :: rest =>
    let negated := rest.head? = some '^'
    let rest := if negated then rest.drop 1 else rest
    match rest.dropWhile (· != ':') with
    | ':' :: ']' :: after =>
      (asciiClasses.lookup (String.ofList (rest.takeWhile (· != ':')))).map fun s => ((s, negated), after)
    | _ => none
  | _ => none

structure Items where
  set : CharSet := .empty
  count : Nat := 0
  depth : Nat := 0

def Items.add (items : Items) (s : CharSet) (depth : Nat) : Items :=
  ⟨items.set.union s, items.count + 1, max items.depth depth⟩

def Items.height (items : Items) : Nat := if items.count < 2 then items.depth else items.depth + 1

inductive Operation where
  | inter | diff | symmDiff

def Operation.apply : Operation → CharSet → CharSet → CharSet
  | inter => CharSet.inter
  | diff => CharSet.diff
  | symmDiff => CharSet.symmDiff

structure Pending where
  operation : Operation
  left : CharSet
  depth : Nat

def operand (flags : Flags) (pending : Option Pending) (items : Items) : CharSet × Nat :=
  match pending with
  | none => (items.set, items.height)
  | some p =>
    (p.operation.apply (flags.fold p.left) (flags.fold items.set), 1 + max p.depth items.height)

def classItem? (verbose : Bool) : Rest → Option (Escaped × Rest)
  | [] => none
  | '\\' :: rest => escape? verbose rest
  | c :: rest => some (.char c false, rest)

def Flags.member? (flags : Flags) : Escaped → Option Char
  | .char c _ => if flags.scripts || c.toNat < 128 then some c else none
  | _ => none

def Flags.members? (flags : Flags) : Escaped → Option CharSet
  | .shorthand name negated => flags.shorthand? name negated
  | .property name negated => flags.property? name negated
  | e => (flags.member? e).map .char

-- One item of a class, or a range of characters. A dash before the end of the class or another dash
-- begins no range.
def classRange? (flags : Flags) (cs : Rest) : Option (CharSet × Rest) := do
  let (first, rest) ← classItem? flags.verbose cs
  let rest := skip flags.verbose rest
  let ahead := peek flags.verbose rest
  if rest.isEmpty then none
  else if rest.head? != some '-' || ahead == some ']' || ahead == some '-' then
    return (← flags.members? first, rest)
  else
    let (last, rest) ← classItem? flags.verbose (next flags.verbose rest)
    let lo ← flags.member? first
    let hi ← flags.member? last
    if lo ≤ hi then return (.range lo.toNat hi.toNat, rest) else none

def dashes (verbose : Bool) : (fuel : Nat) → Items → Rest → Items × Rest
  | 0, items, cs => (items, cs)
  | fuel + 1, items, cs =>
    if cs.head? = some '-' then dashes verbose fuel (items.add (.char '-') 0) (next verbose cs)
    else (items, cs)

mutual

def class? (flags : Flags) : (fuel depth : Nat) → Rest → Option ((CharSet × Nat) × Rest)
  | 0, _, _ => none
  | fuel + 1, depth, cs => do
    if depth > nestLimit then none
    let cs := next flags.verbose cs
    let negated := cs.head? = some '^'
    let cs := if negated then next flags.verbose cs else cs
    let (items, cs) := dashes flags.verbose cs.length {} cs
    let (items, cs) :=
      if items.count = 0 && cs.head? = some ']' then (items.add (.char ']') 0, next flags.verbose cs)
      else (items, cs)
    let ((s, height), rest) ← classItems? flags fuel depth none items cs
    return ((← flags.foldSet? negated s, height + 1), rest)

def classItems? (flags : Flags) :
    (fuel depth : Nat) → Option Pending → Items → Rest → Option ((CharSet × Nat) × Rest)
  | 0, _, _, _, _ => none
  | fuel + 1, depth, pending, items, cs =>
    let operate (operation : Operation) (rest : Rest) :=
      let (left, height) := operand flags pending items
      classItems? flags fuel depth (some ⟨operation, left, height⟩) {} rest
    match skip flags.verbose cs with
    | [] => none
    | '[' :: rest =>
      match asciiClass? rest with
      | some ((s, negated), rest) => do
        classItems? flags fuel depth pending (items.add (← flags.foldSet? negated s) 0) rest
      | none => do
        let ((s, height), rest) ← class? flags fuel (depth + 1) ('[' :: rest)
        classItems? flags fuel depth pending (items.add s height) rest
    | ']' :: rest => some (operand flags pending items, rest)
    | '&' :: '&' :: rest => operate .inter rest
    | '-' :: '-' :: rest => operate .diff rest
    | '~' :: '~' :: rest => operate .symmDiff rest
    | rest => do
      let (s, rest) ← classRange? flags rest
      classItems? flags fuel depth pending (items.add s 0) rest

end

end LiveTable.Pattern
