import LiveTable.Table.Row
import LiveTable.Table.SortColumn

namespace LiveTable

inductive Change where
  | unchanged | added | updated | deleted | cleared
deriving DecidableEq, Inhabited

structure RowEvent where
  change : Change
  row : Row
  delta : Delta
deriving DecidableEq, Inhabited

namespace RowEvent

def plain (change : Change) (row : Row) : RowEvent := ⟨change, row, Delta.blank row.fields.length⟩

def id (e : RowEvent) : String := e.row.id

def project (e : RowEvent) (places : List (Option Nat)) : RowEvent :=
  ⟨e.change, e.row.project places, e.delta.project places⟩

def labelize (e : RowEvent) (places : List Nat) (labelColumn : Nat) (labels : List String) : RowEvent :=
  ⟨e.change, e.row.labelize places labelColumn labels, e.delta.labelize places labelColumn e.row labels⟩

def differs (e f : RowEvent) (age : Option Nat) : Bool :=
  e.change != f.change || e.delta.differs f.delta age || e.row.differs f.row age

def ofNext (h : Header) (old new : Row) : RowEvent :=
  let delta := Delta.between old new h
  if delta.isBlank then plain .unchanged new else ⟨.updated, new, delta⟩

def order (o : CellOrder) (column : Nat) (e f : RowEvent) : Ordering :=
  match e.row.fields[column]?, f.row.fields[column]? with
  | some s, some t =>
    if o.precedes e.id f.id s t then .lt else if o.precedes f.id e.id t s then .gt else .eq
  | _, _ => Text.naturalOrder e.id f.id

def directed (o : CellOrder) (column : Nat) (ascending : Bool) (e f : RowEvent) : Ordering :=
  if ascending then order o column e f else (order o column e f).swap

end RowEvent

end LiveTable
