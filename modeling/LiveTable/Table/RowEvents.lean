import LiveTable.Sorting.Drift
import LiveTable.Table.Event

namespace LiveTable

-- Places by identity; each identity once.
abbrev PlaceIndex := List (String × Nat)

namespace PlaceIndex

def find? (index : PlaceIndex) (id : String) : Option Nat := (List.find? (·.1 == id) index).map (·.2)

def erase (index : PlaceIndex) (id : String) : PlaceIndex := index.filter (·.1 != id)

def insert (index : PlaceIndex) (id : String) (place : Nat) : PlaceIndex :=
  (id, place) :: index.erase id

def ofIds (ids : List String) : PlaceIndex :=
  ids.zipIdx.foldl (fun index (id, place) => index.insert id place) []

end PlaceIndex

structure RowEvents where
  toList : List RowEvent
  index : PlaceIndex
deriving DecidableEq, Inhabited

namespace RowEvents

def empty : RowEvents := ⟨[], []⟩

def size (es : RowEvents) : Nat := es.toList.length

def isEmpty (es : RowEvents) : Bool := es.toList.isEmpty

def ids (es : RowEvents) : List String := es.toList.map RowEvent.id

def at? (es : RowEvents) (place : Nat) : Option RowEvent := es.toList[place]?

def findIndex? (es : RowEvents) (id : String) : Option Nat := es.index.find? id

def get? (es : RowEvents) (id : String) : Option RowEvent := (es.findIndex? id).bind es.at?

def add (es : RowEvents) (e : RowEvent) : RowEvents :=
  ⟨es.toList ++ [e], es.index.insert e.id es.size⟩

def set (es : RowEvents) (place : Nat) (e : RowEvent) : RowEvents :=
  if place < es.size then ⟨es.toList.set place e, es.index.insert e.id place⟩ else es.add e

def upsert (es : RowEvents) (e : RowEvent) : RowEvents :=
  match es.findIndex? e.id with
  | some place => es.set place e
  | none => es.add e

def reindex (events : List RowEvent) : RowEvents :=
  ⟨events, PlaceIndex.ofIds (events.map RowEvent.id)⟩

def delete? (es : RowEvents) (id : String) : Option RowEvents :=
  (es.findIndex? id).map fun place => reindex (es.toList.eraseIdx place)

def deleteMessage (id : String) : String := "unable to delete row with id " ++ Text.quoted id

def retain (es : RowEvents) (ids : List String) : RowEvents :=
  let kept := es.toList.filter fun e => ids.contains e.id
  if kept.length = es.size then es else reindex kept

def ofList (events : List RowEvent) : RowEvents := events.foldl add empty

def map (es : RowEvents) (f : RowEvent → RowEvent) : RowEvents := ofList (es.toList.map f)

def filter (es : RowEvents) (p : RowEvent → Bool) : RowEvents := ofList (es.toList.filter p)

def project (es : RowEvents) (places : List (Option Nat)) : RowEvents := es.map (·.project places)

def labelize (es : RowEvents) (places : List Nat) (labelColumn : Nat) (labels : List String) :
    RowEvents := es.map (·.labelize places labelColumn labels)

def differs (es fs : RowEvents) (age : Option Nat) : Bool :=
  es.size != fs.size || (es.toList.zip fs.toList).any fun (e, f) => e.differs f age

-- Nothing where the program stops, as it may when the cells of the column are no order.
def sort? (es : RowEvents) (o : CellOrder) (column : Nat) (ascending : Bool) : Option RowEvents :=
  let before (e f : RowEvent) : Bool := RowEvent.directed o column ascending e f == .lt
  (Sorting.sort? before es.toList).map reindex

end RowEvents

end LiveTable
