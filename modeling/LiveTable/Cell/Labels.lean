import LiveTable.Text.Blank
import LiveTable.Text.Search

namespace LiveTable.Labels

def pair? (cs : List Char) : Option (String × String) :=
  match cs.dropWhile (· != '=') with
  | [] => none
  | _ :: value =>
    let key := Text.trimChars (cs.takeWhile (· != '='))
    if key.isEmpty || value.contains '=' then none
    else some (String.ofList key, String.ofList (Text.trimChars value))

-- The labels of a cell in their order; a later one of the same key counts.
def parse (cell : String) : List (String × String) :=
  (Text.splitChars [','] cell.toList).filterMap pair?

def lookup (key : String) (labels : List (String × String)) : Option String :=
  (labels.reverse.find? (·.1 == key)).map (·.2)

def write (labels : List (String × String)) : String :=
  ",".intercalate (labels.map fun (key, value) => key ++ "=" ++ value)

end LiveTable.Labels
