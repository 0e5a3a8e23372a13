import LiveTable.Pattern.Parser
import LiveTable.Pattern.Reach
import LiveTable.Table.Basic

namespace LiveTable

structure RowFilter where
  toast : Bool
  query : String
deriving DecidableEq

namespace RowFilter

def isEmpty (f : RowFilter) : Bool := !f.toast && Text.isBlankText f.query

inductive Selection where
  | all
  | fuzzy (part : String)
  | pattern (inverse : Bool) (text : String)
deriving DecidableEq

-- Text behind `-f ` is looked for as a subsequence of identities, other text as a pattern in the
-- cells, or with `!` in front as one that no cell holds.
def selection (query : String) : Selection :=
  match Text.trimChars query.toList with
  | [] => .all
  | '-' :: 'f' :: ' ' :: rest => .fuzzy (String.ofList (Text.trimChars rest))
  | '!' :: rest => .pattern true (String.ofList rest)
  | cs => .pattern false (String.ofList cs)

end RowFilter

namespace Table

def project (t : Table) (columns : List String) (wide : Bool) : Table :=
  if columns.isEmpty then t
  else
    { t with
      header := t.header.project columns wide
      events := t.events.project (t.header.places columns wide) }

def labelPlaces (t : Table) : List Nat :=
  (if isNamespaced t.ns then [] else (t.header.indexOf? namespaceName true).toList) ++
    (t.header.indexOf? nameName true).toList

def labelize (t : Table) (labels : List String) : Table :=
  match t.header.indexOf? labelsName true with
  | none => t
  | some labelColumn =>
    if labels.isEmpty then t
    else
      { t with
        header := t.header.labelize t.labelPlaces labels
        events := t.events.labelize t.labelPlaces labelColumn labels }

def arrange (t : Table) (columns labels : List String) (wide : Bool) : Table :=
  if labels.isEmpty then t.project columns wide else t.labelize labels

def keep (t : Table) (p : RowEvent → Bool) : Table := { t with events := t.events.filter p }

def toast (t : Table) : Table :=
  match t.header.validIndex? with
  | none => t
  | some valid => t.keep fun e => e.row.fields[valid]?.any fun cell => !Text.isBlankText cell

def fuzzy (t : Table) (part : String) : Table :=
  t.keep fun e => Text.isSubsequence (Text.lower part).toList (Text.lower e.id).toList

def searchable (t : Table) : List Nat :=
  (List.range t.header.length).filter fun i =>
    t.header[i]?.any fun c => c.name != ageName && !(isNamespaced t.ns && c.name == namespaceName)

-- The rows with a cell that the pattern occurs in, or those without; a text that is no pattern
-- selects everything.
def matching (t : Table) (inverse : Bool) (text : String) : Table :=
  match Pattern.parse? true text with
  | none => t
  | some p => t.keep fun e => (t.searchable.any fun i => e.row.fields[i]?.any p.occursIn) != inverse

def select (t : Table) (query : String) : Table :=
  match RowFilter.selection query with
  | .all => t
  | .fuzzy part => t.fuzzy part
  | .pattern inverse text => t.matching inverse text

def filter (t : Table) (f : RowFilter) : Table := (if f.toast then t.toast else t).select f.query

end Table

end LiveTable
