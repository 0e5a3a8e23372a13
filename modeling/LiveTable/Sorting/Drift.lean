import LiveTable.Sorting.Small

namespace LiveTable.Sorting

variable {α : Type} (less : α → α → Bool)

def smallSize : Nat := 32

def lessAt (v : List α) (i j : Nat) : Bool :=
  match v[i]?, v[j]? with
  | some a, some b => less a b
  | _, _ => false

section

variable (below : Nat → Nat → Bool)

def median (a b c : Nat) : Nat :=
  if below a b = below a c then if below b c = below a b then b else c else a

def pseudoMedian (n a b c : Nat) : Nat :=
  if n < 8 then median below a b c
  else
    let part := n / 8
    median below (pseudoMedian part a (a + part * 4) (a + part * 7))
      (pseudoMedian part b (b + part * 4) (b + part * 7)) (pseudoMedian part c (c + part * 4) (c + part * 7))
termination_by n

end

def pivotPlace (v : List α) : Nat :=
  let part := v.length / 8
  if v.length < 64 then median (lessAt less v) 0 (part * 4) (part * 7)
  else pseudoMedian (lessAt less v) part 0 (part * 4) (part * 7)

-- The members that go left, in their order, and the others; the pivot goes where it is told to.
def partition (goesLeft : α → Bool) (place : Nat) (pivotLeft : Bool) (v : List α) : List α × List α :=
  let (left, right) := v.zipIdx.partition fun (a, i) => if i = place then pivotLeft else goesLeft a
  (left.map (·.1), right.map (·.1))

inductive Run (α : Type) where
  | sorted (items : List α)
  | unsorted (items : List α)

namespace Run

def items : Run α → List α
  | sorted items | unsorted items => items

def size (run : Run α) : Nat := run.items.length

def isSorted : Run α → Bool
  | sorted _ => true
  | unsorted _ => false

end Run

def runLength (follows : α → α → Bool) : List α → Nat
  | a :: b :: rest => if follows a b then runLength follows (b :: rest) + 1 else 1
  | v => v.length

def leadingRun (v : List α) : Nat × Bool :=
  match v with
  | a :: b :: _ =>
      if less b a then (runLength (fun a b => less b a) v, true) else (runLength (fun a b => !less b a) v, false)
  | v => (v.length, false)

def squareRoot (n : Nat) : Nat :=
  let shift := (1 + n.log2) / 2
  (Nat.pow 2 shift + n / Nat.pow 2 shift) / 2

def goodRun (n : Nat) : Nat := if n ≤ 4096 then min (n - n / 2) 64 else squareRoot n

def nextRun? (eager : Bool) (good : Nat) (v : List α) : Option (Run α) :=
  let (found, reversed) := leadingRun less v
  if good ≤ v.length ∧ good ≤ found then
    some (.sorted (if reversed then (v.take found).reverse else v.take found))
  else if eager then (smallSort? less (v.take smallSize)).map .sorted
  else some (.unsorted (v.take good))

-- Every run takes one member at least, so there are no more runs than members.
def cutRuns? (eager : Bool) (good : Nat) : Nat → List α → Option (List (Run α))
  | _, [] => some []
  | 0, _ => some []
  | n + 1, v => do
      let run ← nextRun? less eager good v
      let rest ← cutRuns? eager good n (v.drop run.size)
      return run :: rest

def leadingZeros (n : Nat) : Nat := if n = 0 then 64 else 63 - n.log2

-- How deep the merge of two neighbouring runs lies in the balanced tree over all members.
def mergeDepth (n start middle stop : Nat) : Nat :=
  let scale := (4611686018427387904 + n - 1) / n
  leadingZeros ((scale * (start + middle)) ^^^ (scale * (middle + stop)))

def roomFor (n : Nat) : Nat := max (n - n / 2) (min n 1000000)

section

variable (quick? : List α → Option (List α)) (room : Nat)

def settle? : Run α → Option (List α)
  | .sorted items => some items
  | .unsorted items => quick? items

def mergeRuns (left right : List α) : List α :=
  if left.length ≤ right.length then mergeLeft less left right else mergeRight less left right

def unite? (left right : Run α) : Option (Run α) :=
  if left.size + right.size ≤ room ∧ !left.isSorted ∧ !right.isSorted then
    some (.unsorted (left.items ++ right.items))
  else do
    let l ← settle? quick? left
    let r ← settle? quick? right
    return .sorted (mergeRuns less l r)

-- Merges the waiting runs that lie as deep as this or deeper into the run behind them.
def climb? (depth : Nat) : List (Run α × Nat) → Run α → Option (List (Run α × Nat) × Run α)
  | [], run => some ([], run)
  | (left, deep) :: waiting, run =>
      if depth ≤ deep then do climb? depth waiting (← unite? less quick? room left run)
      else some ((left, deep) :: waiting, run)

def mergeTree? (n : Nat) : Nat → List (Run α × Nat) → Run α → List (Run α) → Option (Run α)
  | _, waiting, last, [] => (climb? less quick? room 0 waiting last).map (·.2)
  | start, waiting, last, next :: rest => do
      let middle := start + last.size
      let depth := mergeDepth n start middle (middle + next.size)
      let (waiting, merged) ← climb? less quick? room depth waiting last
      mergeTree? n middle ((merged, depth) :: waiting) next rest

def drift? (eager : Bool) (v : List α) : Option (List α) := do
  match ← cutRuns? less eager (goodRun v.length) v.length v with
  | [] => return []
  | first :: rest => settle? quick? (← mergeTree? less quick? room v.length 0 [] first rest)

end

def eagerSort? (room : Nat) (v : List α) : Option (List α) := drift? less (smallSort? less) room true v

def quickSort? (room : Nat) : Nat → Option α → List α → Option (List α)
  | limit, ancestor, v =>
      if v.length ≤ smallSize then smallSort? less v
      else
        match limit with
        | 0 => eagerSort? less room v
        | limit + 1 => do
            let place := pivotPlace less v
            let pivot ← v[place]?
            let (left, right) := partition (less · pivot) place false v
            if (ancestor.any fun a => !less a pivot) || left.isEmpty then
              let (even, rest) := partition (fun a => !less pivot a) place true v
              return even ++ (← quickSort? room limit none rest)
            else
              let behind ← quickSort? room limit (some pivot) right
              return (← quickSort? room limit ancestor left) ++ behind

def stableQuickSort? (room : Nat) (v : List α) : Option (List α) :=
  quickSort? less room (2 * v.length.log2) none v

-- The stable sort of the standard library. For a comparison that is no order it may come to any arrangement, or it
-- stops.
def sort? (v : List α) : Option (List α) :=
  if v.length ≤ 20 then some (insertionSort less v)
  else
    let room := roomFor v.length
    drift? less (stableQuickSort? less room) room (v.length ≤ 2 * smallSize) v

end LiveTable.Sorting
