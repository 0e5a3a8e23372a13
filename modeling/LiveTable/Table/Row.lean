import LiveTable.Cell.Labels
import LiveTable.Cell.Sentinel
import LiveTable.Table.Header

namespace LiveTable

structure Row where
  id : String
  fields : List String
deriving DecidableEq, Inhabited

def fieldsDiffer (left right : List String) (skip : Option Nat) : Bool :=
  left.length != right.length ||
    (List.range left.length).any fun i => some i != skip && left[i]? != right[i]?

namespace Row

def field (r : Row) (i : Nat) : String := r.fields.getD i ""

def project (r : Row) (places : List (Option Nat)) : Row :=
  ⟨r.id, places.map fun
    | some i => r.field i
    | none => Cell.notApplicable⟩

def labelize (r : Row) (places : List Nat) (labelColumn : Nat) (labels : List String) : Row :=
  let values := Labels.parse (r.field labelColumn)
  ⟨r.id, places.map r.field ++ labels.map fun label => (Labels.lookup label values).getD ""⟩

def differs (r s : Row) (age : Option Nat) : Bool := r.id != s.id || fieldsDiffer r.fields s.fields age

end Row

abbrev Delta := List String

namespace Delta

def blank (size : Nat) : Delta := List.replicate size ""

def between (old new : Row) (h : Header) : Delta :=
  (List.range new.fields.length).map fun i =>
    match old.fields[i]? with
    | some previous => if some previous != new.fields[i]? && !h.isTime i then previous else ""
    | none => ""

def isBlank (d : Delta) : Bool := d.all String.isEmpty

def project (d : Delta) (places : List (Option Nat)) : Delta :=
  if d.isBlank then blank places.length
  else places.map fun place => (place.bind (d[·]?)).getD ""

def ofLabel (previous current : List (String × String)) (label : String) : String :=
  if Labels.lookup label previous == Labels.lookup label current then ""
  else (Labels.lookup label previous).getD Cell.missing

def labelize (d : Delta) (places : List Nat) (labelColumn : Nat) (current : Row)
    (labels : List String) : Delta :=
  if d.isBlank then blank (places.length + labels.length)
  else
    let cell := d.getD labelColumn ""
    places.map (d.getD · "") ++
      labels.map fun label =>
        if cell.isEmpty then ""
        else ofLabel (Labels.parse cell) (Labels.parse (current.field labelColumn)) label

def differs (d e : Delta) (age : Option Nat) : Bool := fieldsDiffer d e age

end Delta

end LiveTable
