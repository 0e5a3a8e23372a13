import LiveTable.Console.Key
import LiveTable.Number.Width
import LiveTable.ResourceKind
import LiveTable.Table.Projection
import LiveTable.Theme.Basic

namespace LiveTable

structure ViewOptions where
  columns : List String := []
  labels : List String := []
  wide : Bool := false
  sort : Option SortColumn := none
deriving DecidableEq, Inhabited

structure Console where
  kind : ResourceKind
  scope : Scope
  cluster : String
  context : String
  theme : Theme
  colorer : Colorer
  columns : List String
  labels : List String
  wide : Bool
  configuredSort : Option SortColumn
  running : Bool := true
  mode : Mode := .normal
  toast : Bool := false
  filter : String := ""
  input : String := ""
  status : String := "Loading…"
  sort : SortColumn := .none
  source : Table := Table.new ""
  view : Table := Table.new ""
  selected : Nat := 0
  pageSize : Nat := 10
  refreshed : Option Int := none

namespace Console

def start (cluster context : String) (kind : ResourceKind) (scope : Scope) (theme : Theme)
    (colorer : Colorer) (options : ViewOptions) : Console where
  kind := kind
  scope := scope
  cluster := cluster
  context := context
  theme := theme
  colorer := colorer
  columns := options.columns
  labels := options.labels
  wide := options.wide
  configuredSort := options.sort

def rowCount (c : Console) : Nat := c.view.events.size

def selectedRow? (c : Console) : Option RowEvent := c.view.events.at? c.selected

def selectedIndex? (c : Console) : Option Nat := if c.view.events.isEmpty then none else some c.selected

def rowColour (c : Console) (e : RowEvent) : Colour := c.colorer c.theme c.view.ns c.view.header e

def visibleColumns (c : Console) : List Nat := c.view.header.visible c.view.ns c.wide

def rowFilter (c : Console) : RowFilter := ⟨c.toast, c.filter⟩

def shown (c : Console) : Table := (c.source.arrange c.columns c.labels c.wide).filter c.rowFilter

def preferredSort (c : Console) : Option SortColumn :=
  if c.sort.isNone then c.configuredSort else some c.sort

def reselect (id : Option String) (before : Nat) (t : Table) : Nat :=
  min ((id.bind t.events.findIndex?).getD before) (t.events.size - 1)

def rebuild? (c : Console) : Option Console := do
  let sort := c.shown.defaultSort c.preferredSort
  let view ← c.shown.sort? sort
  return { c with
    sort := sort
    view := view
    selected := reselect (c.selectedRow?.map (·.id)) c.selected view }

def setTable? (c : Console) (now : Int) (t : Table) : Option Console :=
  rebuild? { c with
    source := t
    refreshed := some now
    status := toString t.events.size ++ " " ++ c.kind.title }

def setTheme (c : Console) (theme : Theme) : Console := { c with theme := theme }

def setStatus (c : Console) (status : String) : Console := { c with status := status }

def setPageSize (c : Console) (rows : Nat) : Console := { c with pageSize := max rows 1 }

def move? (c : Console) (distance : Int64) : Option Console :=
  if c.view.events.isEmpty then some { c with selected := 0 }
  else do
    let next ← Width.add64? (Int64.ofNat c.selected) distance
    return { c with selected := min next.toInt.toNat (c.rowCount - 1) }

def orderName (ascending : Bool) : String := if ascending then "asc" else "desc"

def sortBy? (c : Console) (name : String) : Option Console :=
  if (c.view.header.indexOf? name true).isNone then
    some (c.setStatus ("No " ++ name ++ " column to sort on"))
  else
    let ascending := c.sort.name != name || !c.sort.ascending
    rebuild? { c with
      sort := ⟨name, ascending⟩
      status := "Sorted by " ++ name ++ " " ++ orderName ascending }

def sortPlace (c : Console) : Nat :=
  (c.visibleColumns.findIdx? fun i => c.view.header[i]?.any (·.name == c.sort.name)).getD 0

def sortByOffset? (c : Console) (offset : Int) : Option Console :=
  let visible := c.visibleColumns
  let next := ((c.sortPlace + offset) % visible.length).toNat
  match visible[next]?.bind (c.view.header[·]?) with
  | none => some c
  | some column =>
    rebuild? { c with
      sort := ⟨column.name, c.sort.ascending⟩
      status := "Sorted by " ++ column.name }

def toggleWide? (c : Console) : Option Console :=
  rebuild? { c with wide := !c.wide, status := if c.wide then "Wide off" else "Wide on" }

def toggleToast? (c : Console) : Option Console :=
  rebuild? { c with
    toast := !c.toast
    status := if c.toast then "Showing all" else "Showing unhealthy only" }

def startFilter (c : Console) : Console :=
  { c with mode := .filter, input := c.filter, status := "Filter mode" }

def filterCleared : String := "Filter cleared"

def clearFilter? (c : Console) : Option Console :=
  if c.filter.isEmpty then some c else rebuild? { c with filter := "", status := filterCleared }

def submitInput? (c : Console) : Option Console :=
  let filter := Text.trim c.input
  rebuild? { c with
    mode := .normal
    filter := filter
    input := ""
    status := if filter.isEmpty then filterCleared else "Filter: " ++ filter }

def cancelInput (c : Console) : Console :=
  { c with mode := .normal, input := "", status := "Input cancelled" }

def withoutLast (s : String) : String := String.ofList s.toList.dropLast

def act? (c : Console) : Action → Option Console
  | .quit => some { c with running := false, status := "Exit requested" }
  | .down => c.move? 1
  | .up => c.move? (-1)
  | .pageDown => c.move? (Int64.ofNat c.pageSize)
  | .pageUp => do c.move? (← Width.negate64? (Int64.ofNat c.pageSize))
  | .top => some { c with selected := 0 }
  | .bottom => some { c with selected := c.rowCount - 1 }
  | .toggleWide => c.toggleWide?
  | .toggleToast => c.toggleToast?
  | .startFilter => some c.startFilter
  | .clearFilter => c.clearFilter?
  | .sortBy name => c.sortBy? name
  | .sortNext => c.sortByOffset? 1
  | .sortPrevious => c.sortByOffset? (-1)
  | .submitInput => c.submitInput?
  | .cancelInput => some c.cancelInput
  | .backspace => some { c with input := withoutLast c.input }
  | .inputChar char => some { c with input := c.input.push char }

end Console

end LiveTable
