import LiveTable.Character.Age
import LiveTable.Character.Boundary

namespace LiveTable.Character

-- A name without its case, blanks, hyphens, underscores and a leading "is"; letters of other
-- alphabets do not count.
def normalName (name : String) : String :=
  let cs := name.toList
  let start := (cs.take 2).map Char.toLower
  let kept := (if start = ['i', 's'] then cs.drop 2 else cs).filter fun c =>
    c.toNat < 128 && c != ' ' && c != '_' && c != '-'
  let normal := kept.map Char.toLower
  String.ofList (if start = ['i', 's'] && normal = ['c'] then ['i', 's', 'c'] else normal)

def named? {α : Type} (entries : List (List String × α)) (name : String) : Option α :=
  (entries.find? fun (names, _) => names.contains name).map (·.2)

def categorySet? (name : String) : Option CharSet :=
  if name = "any" then some CharSet.empty.complement
  else if name = "assigned" then some (Category.set .sixteenth .unassigned).complement
  else if name = "ascii" then some (.range 0 127)
  else (named? Category.named name).map (Category.sets .sixteenth)

def categoryNames : List String := ["cf", "sc", "lc"]

def setNamed? (name : String) : Option CharSet :=
  let name := normalName name
  let property := if categoryNames.contains name then none else named? Property.named name
  match property with
  | some p => some (p.set .sixteenth)
  | none => (categorySet? name).orElse fun _ => Script.set? name

def valued : List (List String × (String → Option CharSet)) := [
  (["gc", "generalcategory"], categorySet?), (["sc", "script"], Script.set?),
  (["scx", "scriptextensions"], Script.extended?), (["age"], Age.set?),
  (["gcb", "graphemeclusterbreak"], fun v => (named? Boundary.Grapheme.named v).map (·.set)),
  (["wb", "wordbreak"], fun v => (named? Boundary.Word.named v).map (·.set)),
  (["sb", "sentencebreak"], fun v => (named? Boundary.Sentence.named v).map (·.set))]

def setOfValue? (property value : String) : Option CharSet :=
  (named? valued (normalName property)).bind fun sets => sets (normalName value)

end LiveTable.Character
