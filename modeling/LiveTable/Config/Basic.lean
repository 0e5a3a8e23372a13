import LiveTable.Config.Settings
import LiveTable.Query.ColumnSpecs
import LiveTable.ResourceKind
import LiveTable.Table.SortColumn

namespace LiveTable

structure ViewConfig where
  columns : ColumnSpecs
  sortColumn : Option SortColumn

structure Config where
  source : Option String
  theme : Theme
  views : List (String × ViewConfig)

namespace Config

def default : Config := ⟨none, Theme.default, []⟩

def view? (c : Config) (key : String) : Option ViewConfig := c.views.lookup key

inductive ViewError where
  | columns (key : String) (error : ColumnSpec.Error)
  | sortColumn (key : String) (error : SortColumn.Error)

def ViewError.causes : ViewError → List String
  | columns key e => ("invalid columns for " ++ key) :: e.causes
  | sortColumn key e => ["invalid sort column for " ++ key, e.message]

inductive Error where
  | unreadable (path : String)
  | malformed (path : String)
  | theme (path : String) (error : Theme.Error)
  | view (path key : String) (error : ViewError)
  | unknownKind (path key : String)

def Error.causes : Error → List String
  | unreadable path => ["failed to read runtime config " ++ path]
  | malformed path => ["failed to parse runtime config " ++ path]
  | theme path e => ("invalid theme in " ++ path) :: e.causes
  | view path key e => ("invalid view " ++ Text.quoted key ++ " in " ++ path) :: e.causes
  | unknownKind path key => ["unknown resource " ++ Text.quoted key ++ " in " ++ path]

def sortOf (raw : Option String) : Except SortColumn.Error (Option SortColumn) :=
  match raw with
  | none => .ok none
  | some raw => if Text.isBlankText raw then .ok none else (SortColumn.parse raw).map some

def viewOf (key : String) (settings : ViewSettings) : Except ViewError ViewConfig := do
  let columns ← (ColumnSpecs.parse settings.columns).mapError (ViewError.columns key)
  let sortColumn ← (sortOf settings.sortColumn).mapError (ViewError.sortColumn key)
  return ⟨columns, sortColumn⟩

def addView (path : String) (views : List (String × ViewConfig)) (key : String)
    (settings : ViewSettings) : Except Error (List (String × ViewConfig)) := do
  let view ← (viewOf key settings).mapError (Error.view path key)
  match ResourceKind.parse? key with
  | some kind => return Keyed.insert kind.key view views
  | none => throw (.unknownKind path key)

def ofSettings (path : String) (s : Settings) : Except Error Config := do
  let theme ← (Theme.ofSettings fun slot => s.theme.lookup slot).mapError (Error.theme path)
  let views ← s.views.foldlM (fun views (key, view) => addView path views key view) []
  return ⟨some path, theme, views⟩

end Config

end LiveTable
