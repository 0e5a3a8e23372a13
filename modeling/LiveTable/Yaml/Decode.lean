import LiveTable.Yaml.Node

namespace LiveTable.Yaml

abbrev Decoder (α : Type) := ReaderT Document (StateT Nat Option) α

namespace Decoder

def fail {α : Type} : Decoder α := fun _ _ => none

def follow : Node → Decoder Node
  | .alias number => fun document left =>
    match left, document.targets.lookup number with
    | left + 1, some n => some (n, left)
    | _, _ => none
  | n => return n

def text (n : Node) : Decoder String := do
  match ← follow n with
  | .scalar text _ _ => return text
  | _ => fail

def isNull (text : String) : Bool := text == "~" || text == "null" || text == "Null" || text == "NULL"

def nullTag : Bytes := bytesOf "tag:yaml.org,2002:null"

def textIfAny (n : Node) : Decoder (Option String) := do
  match ← follow n with
  | .scalar text true none => return if text.isEmpty || isNull text then none else some text
  | .scalar text true (some tag) =>
    if tag != nullTag then return some text else if isNull text then return none else fail
  | .scalar text false _ => return some text
  | _ => fail

def isEmptyScalar : Node → Bool
  | .scalar text isPlain _ => isPlain && text.isEmpty
  | _ => false

def members (n : Node) : Decoder (List (String × Node)) := do
  match ← follow n with
  | .mapping entries => entries.mapM fun (key, value) => return (← text key, value)
  | n => if isEmptyScalar n then return [] else fail

def items (n : Node) : Decoder (List Node) := do
  match ← follow n with
  | .sequence items => return items
  | n => if isEmptyScalar n then return [] else fail

def optional {α : Type} (fallback : α) (read : Node → Decoder α) (names : List String)
    (ms : List (String × Node)) : Decoder α :=
  match ms.filter fun (name, _) => names.contains name with
  | [] => return fallback
  | [(_, n)] => read n
  | _ => fail

-- Reads a document. A hundred aliases may be followed for each mark that writes it.
def run {α : Type} (read : Node → Decoder α) (document : Document) : Option α :=
  (read document.root document (100 * document.root.size)).map (·.1)

end Decoder

end LiveTable.Yaml
