import LiveTable.Character.CharSet

namespace LiveTable

-- Conditions on a place between two characters. Words are those of all scripts or, if `ascii`, of
-- ASCII letters, digits and underscores.
inductive Assertion where
  | textStart | textEnd | lineStart | lineEnd | lineStartCrlf | lineEndCrlf
  | wordBoundary (ascii : Bool) | noWordBoundary (ascii : Bool)
  | wordStart (ascii : Bool) | wordEnd (ascii : Bool)
  | wordStartHalf (ascii : Bool) | wordEndHalf (ascii : Bool)
deriving DecidableEq

inductive Pattern where
  | empty
  | literal (text : List Char)
  | one (set : CharSet)
  | assertion (a : Assertion)
  | times (p : Pattern) (least : Nat) (most : Option Nat) (greedy : Bool)
  | group (index : Nat) (p : Pattern)
  | seq (p q : Pattern)
  | either (p q : Pattern)
deriving DecidableEq, Inhabited

namespace Pattern

def pointSize (n : Nat) : Nat :=
  if n < 0x80 then 1 else if n < 0x800 then 2 else if n < 0x10000 then 3 else 4

def textSize (cs : List Char) : Nat := cs.foldl (fun n c => n + pointSize c.toNat) 0

def minSize : Pattern → Option Nat
  | empty => some 0
  | literal cs => some (textSize cs)
  | one s => s.ranges.head?.map fun (lo, _) => pointSize lo
  | assertion _ => some 0
  | times p least _ _ => p.minSize.map (least * ·)
  | group _ p => p.minSize
  | seq p q => do return (← p.minSize) + (← q.minSize)
  | either p q => do return min (← p.minSize) (← q.minSize)

def maxSize : Pattern → Option Nat
  | empty => some 0
  | literal cs => some (textSize cs)
  | one s => s.ranges.getLast?.map fun (_, hi) => pointSize hi
  | assertion _ => some 0
  | times p _ most _ => do return (← most) * (← p.maxSize)
  | group _ p => p.maxSize
  | seq p q => do return (← p.maxSize) + (← q.maxSize)
  | either p q => do return max (← p.maxSize) (← q.maxSize)

def oneOf (s : CharSet) : Pattern :=
  match s.ranges with
  | [(lo, hi)] => if lo = hi then literal [Char.ofNat lo] else one s
  | _ => one s

def parts : Pattern → List Pattern
  | empty => []
  | seq p q => p.parts ++ q.parts
  | p => [p]

def branches : Pattern → List Pattern
  | either p q => p.branches ++ q.branches
  | p => [p]

def fuse : List Pattern → List Pattern
  | [] => []
  | p :: rest =>
    match p, fuse rest with
    | literal cs, literal ds :: more => literal (cs ++ ds) :: more
    | p, more => p :: more

def chain : List Pattern → Pattern
  | [] => empty
  | [p] => p
  | p :: rest => seq p (chain rest)

def sequence (ps : List Pattern) : Pattern := chain (fuse (ps.flatMap parts))

def repeated (p : Pattern) (least : Nat) (most : Option Nat) (greedy : Bool) : Pattern :=
  let isEmpty := p.maxSize == some 0
  let least := if isEmpty then min least 1 else least
  let most := if isEmpty then some (min (most.getD 1) 1) else most
  if least = 0 && most = some 0 then empty
  else if least = 1 && most = some 1 then p
  else times p least most greedy

def single? : Pattern → Option CharSet
  | literal [c] => some (.char c)
  | _ => none

def set? : Pattern → Option CharSet
  | one s => some s
  | _ => none

def commonStart : List (List Pattern) → List Pattern
  | [] => []
  | [ps] => ps
  | ps :: rest =>
    ((ps.zip (commonStart rest)).takeWhile fun (p, q) => p = q).map (·.1)

def isSequence : Pattern → Bool
  | seq _ _ => true
  | _ => false

def alternate : List Pattern → Pattern
  | [] => one .empty
  | [p] => p
  | p :: rest => either p (alternate rest)

def choiceOf : Nat → List Pattern → Pattern
  | 0, ps => alternate ps
  | fuel + 1, ps =>
    let ps := ps.flatMap branches
    if ps.length < 2 then alternate ps
    else
      match (ps.mapM single?).orElse fun _ => ps.mapM set? with
      | some sets => oneOf (.unions sets)
      | none =>
        let start := if ps.all isSequence then commonStart (ps.map parts) else []
        if start.isEmpty then alternate ps
        else
          let rests := ps.map fun p => sequence (p.parts.drop start.length)
          sequence (start ++ [choiceOf fuel rests])

def choice (ps : List Pattern) : Pattern := choiceOf ((ps.map fun p => p.parts.length).foldl (· + ·) 1) ps

end Pattern

end LiveTable
