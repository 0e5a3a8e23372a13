import LiveTable.Character.Property

namespace LiveTable.Pattern

def digitSet : CharSet := Character.Category.set .sixteenth .decimal

def blankSet : CharSet := Character.Property.blanks

def wordSet : CharSet :=
  .unions [
    Character.Property.set .sixteenth .alphabetic,
    Character.Category.sets .sixteenth (.decimal :: .connector :: Character.Category.marks),
    Character.Property.set .sixteenth .joinControl]

def asciiDigitSet : CharSet := .range 0x30 0x39

def asciiBlankSet : CharSet := ⟨[(9, 13), (0x20, 0x20)]⟩

def asciiWordSet : CharSet := ⟨[(0x30, 0x39), (0x41, 0x5a), (0x5f, 0x5f), (0x61, 0x7a)]⟩

def casePairs : List (Nat × Nat) := Character.Edition.sixteenth.pairs Character.caseFoldRuns

def asciiCasePairs : List (Nat × Nat) := (List.range 26).map fun k => (0x41 + k, 0x61 + k)

end LiveTable.Pattern
