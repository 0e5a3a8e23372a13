import LiveTable.Pattern.Basic
import LiveTable.Pattern.ByteRange
import Std.Data.HashMap

namespace LiveTable.Pattern

structure Tally where
  states : Nat
  extra : Nat

namespace Tally

def bytes (t : Tally) : Nat := 32 * t.states + t.extra

def limit : Nat := 10485760

def add? (states extra : Nat) (t : Tally) : Option Tally :=
  let t : Tally := ⟨t.states + states, t.extra + extra⟩
  if t.bytes ≤ limit then some t else none

def repeat? (step : Tally → Option Tally) : Nat → Tally → Option Tally
  | 0, t => some t
  | n + 1, t =>
    match step t with
    | some t => repeat? step n t
    | none => none

end Tally

def mix (hash value : UInt64) : UInt64 := (hash ^^^ value) * 1099511628211

def slot (values : List Nat) (slots : Nat) : Nat :=
  (values.foldl (fun hash value => mix hash value.toUInt64) 14695981039346656037).toNat % slots

structure Shared where
  tally : Tally
  slots : Std.HashMap Nat (List Nat × Nat)

def Shared.state (count : Nat) (key : List Nat) (extra : Nat) (s : Shared) : Nat × Shared :=
  let place := slot key count
  let fresh := s.tally.states
  match s.slots[place]? with
  | some (old, state) =>
    if old = key then (state, s)
    else (fresh, ⟨⟨fresh + 1, s.tally.extra + extra⟩, s.slots.insert place (key, fresh)⟩)
  | none => (fresh, ⟨⟨fresh + 1, s.tally.extra + extra⟩, s.slots.insert place (key, fresh)⟩)

-- The state from which some sequences lead to `target`. Sequences that begin alike share a
-- transition.
def forwardState (target : Nat) : Nat → List (List ByteRange) → Shared → Nat × Shared
  | 0, _, s => (target, s)
  | fuel + 1, sequences, s =>
    let groups := sequences.splitBy fun a b => a.head? == b.head?
    let (edges, s) := groups.foldl (fun (edges, s) group =>
      match group with
      | ((lo, hi) :: rest) :: _ =>
        let (next, s) :=
          if rest.isEmpty then (target, s) else forwardState target fuel (group.map (·.drop 1)) s
        (edges ++ [lo, hi, next], s)
      | _ => (edges, s)) (([] : List Nat), s)
    s.state 10000 edges (8 * (edges.length / 3))

def backwardStates (target : Nat) (sequences : List (List ByteRange)) (s : Shared) : Shared :=
  sequences.foldl (fun s ranges =>
    let (_, s) := ranges.foldl (fun (state, s) (lo, hi) => s.state 1000 [state, lo, hi] 0) (target, s)
    { s with tally.extra := s.tally.extra + 4 }) s

def Tally.addSet? (backward : Bool) (set : CharSet) (t : Tally) : Option Tally :=
  if set.isAscii then t.add? 2 (8 * set.ranges.length)
  else
    let sequences := byteSequences set
    let tally :=
      if backward then
        (backwardStates (t.states + 1) sequences ⟨⟨t.states + 2, t.extra⟩, ∅⟩).tally
      else (forwardState t.states 5 sequences ⟨⟨t.states + 1, t.extra⟩, ∅⟩).2.tally
    tally.add? 0 0

-- The words in their order, cut where one ends; a word that ends where nothing has come since the
-- last one does not count.
def wordLists (words : List (List Nat)) : List (List (List Nat)) :=
  let (lists, last) := words.foldl (fun (lists, last) word =>
    if !word.isEmpty then (lists, last ++ [word])
    else if last.isEmpty && !lists.isEmpty && lists.all List.isEmpty then (lists, last)
    else (lists ++ [last], [])) (([] : List (List (List Nat))), ([] : List (List Nat)))
  lists ++ [last]

def firstBytes (words : List (List Nat)) : List Nat := (words.filterMap List.head?).eraseDups

def Tally.addWords : Nat → List (List Nat) → Tally → Tally
  | 0, _, t => t
  | fuel + 1, words, t =>
    let lists := wordLists words
    let alternatives := (lists.filter fun list => !list.isEmpty).length + (lists.length - 1)
    let t : Tally := ⟨t.states + 1, t.extra + 4 * alternatives⟩
    lists.foldl (fun t list =>
      let bytes := firstBytes list
      let t : Tally :=
        if bytes.isEmpty then t
        else ⟨t.states + 1, t.extra + if bytes.length = 1 then 0 else 8 * bytes.length⟩
      bytes.foldl (fun t byte =>
        let rests := list.filterMap fun word => if word.head? = some byte then some (word.drop 1) else none
        if rests.all List.isEmpty then t else Tally.addWords fuel rests t) t) t

def wordOf? : Pattern → Option (List Nat)
  | literal cs => some (cs.flatMap fun c => encode c.toNat)
  | _ => none

def Tally.addChoice? (backward : Bool) (words : List (List Nat)) (t : Tally) : Option Tally :=
  let words := if backward then words.map List.reverse else words
  let longest := (words.map List.length).foldl max 0
  (Tally.addWords (longest + 1) words (⟨t.states + 1, t.extra⟩ : Tally)).add? 0 0

inductive Role where
  | alone | second | later

def Role.join? : Role → Tally → Option Tally
  | alone, t => some t
  | second, t => t.add? 2 8
  | later, t => t.add? 0 4

def tally? (backward : Bool) : Pattern → Role → Tally → Option Tally
  | empty, role, t => (t.add? 1 0).bind role.join?
  | literal cs, role, t => (t.add? (textSize cs) 0).bind role.join?
  | one s, role, t => (t.addSet? backward s).bind role.join?
  | assertion _, role, t => (t.add? 1 0).bind role.join?
  | group _ p, role, t => do
    let ends := if backward then 0 else 1
    let t ← t.add? ends 0
    let t ← tally? backward p .alone t
    role.join? (← t.add? ends 0)
  | seq p q, role, t => do
    let t ←
      if backward then (tally? backward q .alone t).bind (tally? backward p .alone)
      else (tally? backward p .alone t).bind (tally? backward q .alone)
    role.join? t
  | either p q, role, t =>
    match role, (either p q).branches.mapM wordOf? with
    | .alone, some words => t.addChoice? backward words
    | .alone, none => (tally? backward p .alone t).bind (tally? backward q .second)
    | role, _ => do role.join? (← tally? backward p .alone t) >>= tally? backward q .later
  | times p least most _, role, t => do
    let once := tally? backward p .alone
    let t ← match least, most with
      | 0, some 1 => do once (← t.add? 1 8) >>= (Tally.add? 1 0)
      | 0, none =>
        if p.minSize.any (0 < ·) then do once (← t.add? 1 8)
        else do (← once t).add? 3 16
      | least, none => do (← Tally.repeat? once least t).add? 1 8
      | least, some most => do
        let t ← if least = 0 then t.add? 1 0 else Tally.repeat? once least t
        if least = most then return t
        let t ← t.add? 1 0
        Tally.repeat? (fun t => do once (← t.add? 1 8)) (most - least) t
    role.join? t

def isAnchored : Pattern → Bool
  | assertion a => a = .textStart
  | times p least _ _ => 0 < least && p.isAnchored
  | group _ p => p.isAnchored
  | seq p q => p.isAnchored || (p.maxSize == some 0 && q.isAnchored)
  | either p q => p.isAnchored && q.isAnchored
  | _ => false

def isAnchoredAtEnd : Pattern → Bool
  | assertion a => a = .textEnd
  | times p least _ _ => 0 < least && p.isAnchoredAtEnd
  | group _ p => p.isAnchoredAtEnd
  | seq p q => q.isAnchoredAtEnd || (q.maxSize == some 0 && p.isAnchoredAtEnd)
  | either p q => p.isAnchoredAtEnd && q.isAnchoredAtEnd
  | _ => false

def automaton? (backward : Bool) (p : Pattern) : Option Tally := do
  let anchored := if backward then p.isAnchoredAtEnd else p.isAnchored
  let t ← if anchored then (⟨0, 0⟩ : Tally).add? 1 0 else (⟨0, 0⟩ : Tally).add? 3 16
  (← tally? backward (.group 0 p) .alone t).add? 1 0

def sizeBound : Pattern → Nat
  | empty => 32
  | literal cs => 96 * textSize cs
  | one s => 64 + 160 * (byteSequences s).length + 8 * s.ranges.length
  | assertion _ => 32
  | times p least most _ => (max (max least 1) (most.getD 0)) * (sizeBound p + 40) + 112
  | group _ p => sizeBound p + 64
  | seq p q => sizeBound p + sizeBound q
  | either p q => sizeBound p + sizeBound q + 72

def fits (p : Pattern) : Bool :=
  sizeBound p + 256 ≤ Tally.limit || ((automaton? false p).isSome && (automaton? true p).isSome)

end LiveTable.Pattern
