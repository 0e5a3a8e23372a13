import LiveTable.Table.Event
import LiveTable.Theme.Colour

namespace LiveTable

structure Theme where
  added : Colour
  updated : Colour
  deleted : Colour
  error : Colour
  standard : Colour
  pending : Colour
  highlight : Colour
  completed : Colour
deriving DecidableEq

namespace Theme

def default : Theme where
  added := .rgb 30 144 255
  updated := .rgb 173 255 47
  deleted := .rgb 147 112 219
  error := .rgb 255 69 0
  standard := .rgb 135 206 250
  pending := .rgb 255 140 0
  highlight := .rgb 0 255 255
  completed := .rgb 119 136 153

def colours (t : Theme) : List Colour :=
  [t.added, t.updated, t.deleted, t.error, t.standard, t.pending, t.highlight, t.completed]

def slots : List (String × (Theme → Colour → Theme)) :=
  [("add", fun t c => { t with added := c }), ("update", fun t c => { t with updated := c }),
    ("delete", fun t c => { t with deleted := c }), ("error", fun t c => { t with error := c }),
    ("std", fun t c => { t with standard := c }), ("pending", fun t c => { t with pending := c }),
    ("highlight", fun t c => { t with highlight := c }),
    ("completed", fun t c => { t with completed := c })]

structure Error where
  slot : String
  text : String
deriving DecidableEq

def Error.causes (e : Error) : List String :=
  ["invalid theme color for " ++ e.slot, Colour.unknownMessage e.text]

def ofSettings (settings : String → Option String) : Except Error Theme :=
  slots.foldlM (fun theme (slot, set) =>
    match settings slot with
    | none => .ok theme
    | some text =>
      match Colour.parse? text with
      | some c => .ok (set theme c)
      | none => .error ⟨slot, text⟩) default

end Theme

abbrev Colorer := Theme → String → Header → RowEvent → Colour

namespace Colorer

def isValid (h : Header) (r : Row) : Bool :=
  match h.validIndex? with
  | none => true
  | some i => r.fields.isEmpty || r.fields[i]?.all Text.isBlankText

def byChange : Colorer := fun theme _ h e =>
  if !isValid h e.row then theme.error
  else
    match e.change with
    | .added => theme.added
    | .updated => theme.updated
    | .deleted => theme.deleted
    | .unchanged | .cleared => theme.standard

end Colorer

end LiveTable
