import LiveTable.Character.Case.Table
import LiveTable.Character.Edition

namespace LiveTable.Character

namespace CaseRun

def target? (n : Nat) : CaseRun → Option Nat
  | (first, last, step, shift) =>
    if first ≤ n && n ≤ last && (n - first) % step == 0 then some ((n : Int) + shift).toNat else none

def pairs : CaseRun → List (Nat × Nat)
  | (first, last, step, shift) =>
    (List.range ((last - first) / step + 1)).map fun k =>
      (first + step * k, ((first + step * k : Nat) + shift : Int).toNat)

end CaseRun

def lowerPoint (n : Nat) : Nat := (lowerCaseRuns.findSome? (CaseRun.target? n)).getD n

def Edition.pairs (e : Edition) (runs : List CaseRun) : List (Nat × Nat) :=
  (runs.flatMap CaseRun.pairs).filter fun (n, m) =>
    e == .seventeenth || !(added.hasPoint n || added.hasPoint m)

def points (ns : List Nat) : CharSet := .ofRanges (ns.map fun n => (n, n))

def closeUnder (pairs : List (Nat × Nat)) (s : CharSet) : CharSet :=
  let folded := s.union (points ((pairs.filter fun (n, _) => s.hasPoint n).map (·.2)))
  folded.union (points ((pairs.filter fun (_, m) => folded.hasPoint m).map (·.1)))

end LiveTable.Character
