namespace LiveTable

structure CharSet where
  ranges : List (Nat × Nat)
deriving DecidableEq, Inhabited

namespace CharSet

def empty : CharSet := ⟨[]⟩

def range (lo hi : Nat) : CharSet := ⟨[(lo, hi)]⟩

def char (c : Char) : CharSet := range c.toNat c.toNat

def isEmpty (s : CharSet) : Bool := s.ranges.isEmpty

def inRanges (n : Nat) : List (Nat × Nat) → Bool
  | [] => false
  | (lo, hi) :: rest => if n < lo then false else n ≤ hi || inRanges n rest

def hasPoint (s : CharSet) (n : Nat) : Bool := inRanges n s.ranges

def contains (s : CharSet) (c : Char) : Bool := s.hasPoint c.toNat

def joinFrom (first : Nat × Nat) : List (Nat × Nat) → List (Nat × Nat)
  | [] => [first]
  | (lo, hi) :: rest =>
    if lo ≤ first.2 + 1 then joinFrom (first.1, max first.2 hi) rest
    else first :: joinFrom (lo, hi) rest

def join : List (Nat × Nat) → List (Nat × Nat)
  | [] => []
  | first :: rest => joinFrom first rest

def ofRanges (ranges : List (Nat × Nat)) : CharSet :=
  ⟨join (ranges.mergeSort fun a b => a.1 ≤ b.1)⟩

def union (s t : CharSet) : CharSet := ⟨join (s.ranges.merge t.ranges fun a b => a.1 ≤ b.1)⟩

def unions (sets : List CharSet) : CharSet := sets.foldr union empty

def gapsFrom (start : Nat) : List (Nat × Nat) → List (Nat × Nat)
  | [] => if start ≤ 0x10ffff then [(start, 0x10ffff)] else []
  | (lo, hi) :: rest => (if start < lo then [(start, lo - 1)] else []) ++ gapsFrom (hi + 1) rest

def scalars : Nat × Nat → List (Nat × Nat)
  | (lo, hi) => [(lo, min hi 0xd7ff), (max lo 0xe000, hi)].filter fun (lo, hi) => lo ≤ hi

def complement (s : CharSet) : CharSet := ⟨(gapsFrom 0 s.ranges).flatMap scalars⟩

def inter (s t : CharSet) : CharSet := (s.complement.union t.complement).complement

def diff (s t : CharSet) : CharSet := s.inter t.complement

def symmDiff (s t : CharSet) : CharSet := (s.union t).diff (s.inter t)

def isAscii (s : CharSet) : Bool := s.ranges.all fun (_, hi) => hi < 128

def runsFrom (start : Nat) : List Nat → List (Nat × Nat)
  | gap :: run :: rest => (start + gap, start + gap + run - 1) :: runsFrom (start + gap + run) rest
  | _ => []

-- The set that gaps and runs describe: so many code points outside, then so many inside, and so on
-- from zero.
def ofRuns (runs : List Nat) : CharSet := ⟨runsFrom 0 runs⟩

end CharSet

end LiveTable
