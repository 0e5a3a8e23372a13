import LiveTable.Json.Basic
import LiveTable.Query.ColumnSpecs
import LiveTable.Resource.Renderer
import LiveTable.Table.RowEvents

namespace LiveTable

structure Table where
  header : Header
  events : RowEvents
  ns : String

namespace Table

def new (ns : String) : Table := ⟨[], .empty, ns⟩

def eventOf (t : Table) (events : RowEvents) (row : Row) : RowEvent :=
  match events.get? row.id with
  | none => .plain .added row
  | some previous => .ofNext t.header previous.row row

-- The events after all rows of a snapshot, before any is dropped. A first snapshot only adds.
def merge (t : Table) (rows : List Row) : RowEvents :=
  if t.events.isEmpty then rows.foldl (fun es row => es.upsert (.plain .added row)) t.events
  else rows.foldl (fun es row => es.upsert (t.eventOf es row)) t.events

def update (t : Table) (rows : List Row) : Table :=
  { t with events := (t.merge rows).retain (rows.map (·.id)) }

def layout (builtin : Header) (specs : ColumnSpecs) : Header :=
  if specs.isEmpty then builtin else specs.header builtin

def layRows? (now : Int) (builtin : Header) (specs : ColumnSpecs) (objects : List Json)
    (rendered : List (Nat × Row)) : Option (List Row) :=
  if specs.isEmpty then some (rendered.map (·.2))
  else rendered.mapM fun (place, row) => do
    let object ← objects[place]?
    return specs.realize now object builtin row

-- Replaces the header; a different one drops all rows.
def relayout (t : Table) (h : Header) : Table :=
  if t.header.same h then t else { t with header := h, events := .empty }

def emptyHeaderMessage (ns : String) : String :=
  "renderer produced an empty header for " ++ Text.quoted ns

-- The table beside the error, if there is one; nothing where the program stops.
def reconcile? (now : Int) (t : Table) (renderer : Renderer) (specs : ColumnSpecs)
    (objects : List Json) : Option (Table × Except String Unit) := do
  let builtin := renderer.header t.ns
  let rendered ← renderer.hydrate? now t.ns objects
  let rows ← layRows? now builtin specs objects rendered
  let h := layout builtin specs
  if h.isEmpty then return (t, .error (emptyHeaderMessage t.ns))
  return ((t.relayout h).update rows, .ok ())

def delete (t : Table) (id : String) : Table := { t with events := (t.events.delete? id).getD t.events }

def clear (t : Table) : Table := { t with header := [], events := .empty }

def reset (ns : String) : Table := new ns

def differs (t u : Table) : Bool :=
  t.ns != u.ns || !t.header.same u.header || t.events.differs u.events t.header.ageIndex?

def cellOrder (c : Column) : CellOrder := ⟨c.align == .right, c.time, c.capacity⟩

def sort? (t : Table) (column : SortColumn) : Option Table :=
  match t.header.indexOf? column.name true with
  | none => some t
  | some i =>
    match t.header[i]? with
    | none => some t
    | some c =>
      (t.events.sort? (cellOrder c) i column.ascending).map fun events => { t with events }

-- The column to sort by: the configured one if the table has it, else the namespace where there
-- are several, else the name, else the first column.
def defaultSort (t : Table) (configured : Option SortColumn) : SortColumn :=
  let has (name : String) : Bool := (t.header.indexOf? name true).isSome
  let fallback : SortColumn :=
    if isAllNamespaces t.ns && has namespaceName then ⟨namespaceName, true⟩
    else if has nameName then ⟨nameName, true⟩
    else
      match t.header with
      | c :: _ => ⟨c.name, true⟩
      | [] => .none
  match configured with
  | some c => if !c.isNone && has c.name then c else fallback
  | none => fallback

end Table

end LiveTable
