import LiveTable.Character.Edition
import LiveTable.Character.Script.Shared
import LiveTable.Character.Script.Table

namespace LiveTable.Character.Script

def code? (name : String) : Option String :=
  (table.find? fun (names, _) => names.contains name).bind fun (names, _) => names.head?

def set? (name : String) : Option CharSet :=
  (table.find? fun (names, _) => names.contains name).map fun (_, runs) => .ofRuns runs

def sharedRanges : List (Nat × Nat) := shared.map (·.1)

def extended? (name : String) : Option CharSet := do
  let code ← code? name
  let own ← set? name
  let users := (shared.filter fun (_, codes) => codes.contains code).map (·.1)
  return (own.diff (.ofRanges sharedRanges)).union (.ofRanges users)

end LiveTable.Character.Script
