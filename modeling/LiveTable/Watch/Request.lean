import LiveTable.Arguments.Basic
import LiveTable.Config.Basic
import LiveTable.Console.Basic
import LiveTable.Resource.Registry
import LiveTable.Table.PlainText
import LiveTable.Watch.Basic

namespace LiveTable

structure Request where
  kind : ResourceKind
  scope : Scope
  columns : ColumnSpecs
  options : ViewOptions

namespace Request

inductive Error where
  | unknownKind (name : String)
  | sortColumn (error : SortColumn.Error)
deriving DecidableEq

def Error.causes : Error → List String
  | unknownKind name => ["unknown resource " ++ Text.quoted name]
  | sortColumn e => ["invalid --sort", e.message]

def defaultNamespace : String := "default"

def scopeOf (a : Arguments) : Scope :=
  if a.allNamespaces then .all else .named (a.namespaceName.getD defaultNamespace)

def sortOf (a : Arguments) : Except Error (Option SortColumn) :=
  match a.sort with
  | none => .ok none
  | some raw => ((SortColumn.parse raw).mapError Error.sortColumn).map some

def kindOf (a : Arguments) : Except Error ResourceKind :=
  match ResourceKind.parse? a.kind with
  | some kind => .ok kind
  | none => .error (.unknownKind a.kind)

def ofArguments (c : Config) (a : Arguments) : Except Error Request := do
  let kind ← kindOf a
  let sort ← sortOf a
  let view := c.view? kind.key
  return {
    kind
    scope := scopeOf a
    columns := (view.map (·.columns)).getD []
    options := ⟨a.columns, a.labels, a.wide, sort.or (view.bind (·.sortColumn))⟩ }

def watched (r : Request) : WatchedView :=
  ⟨r.kind, r.scope, Renderer.ofKey r.kind.key, r.columns⟩

def arrange? (r : Request) (t : Table) : Option Table :=
  let arranged := t.arrange r.options.columns r.options.labels r.options.wide
  arranged.sort? (arranged.defaultSort r.options.sort)

def text? (r : Request) (t : Table) : Option String :=
  (r.arrange? t).map (·.plainText r.options.wide)

end Request

end LiveTable
