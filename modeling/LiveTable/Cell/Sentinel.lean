namespace LiveTable.Cell

def notApplicable : String := "n/a"

def missing : String := "<none>"

def unknown : String := "<unknown>"

def orElse (sentinel s : String) : String := if s.isEmpty then sentinel else s

def orNotApplicable (s : String) : String := orElse notApplicable s

def orMissing (s : String) : String := orElse missing s

def ofBool (b : Bool) : String := if b then "true" else "false"

def truncate (limit : Nat) (s : String) : String :=
  let cs := s.toList
  if cs.length ≤ limit then s else String.ofList (cs.take (limit - 1) ++ ['…'])

end LiveTable.Cell
