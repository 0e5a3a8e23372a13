import LiveTable.Scope
import LiveTable.Table.Column

namespace LiveTable

def ageName : String := "AGE"
def nameName : String := "NAME"
def namespaceName : String := "NAMESPACE"
def validName : String := "VALID"
def labelsName : String := "LABELS"

namespace Header

def indexOf? (h : Header) (name : String) (wide : Bool) : Option Nat :=
  h.findIdx? fun c => (wide || !c.wide) && c.name == name

def names (h : Header) (wide : Bool) : List String := (h.filter fun c => wide || !c.wide).map (·.name)

def unrequested (h : Header) (requested : List String) : List Nat :=
  (List.range h.length).filter fun i => !requested.any fun name => h.indexOf? name true == some i

def places (h : Header) (requested : List String) (wide : Bool) : List (Option Nat) :=
  requested.map (h.indexOf? · true) ++ (if wide then (h.unrequested requested).map some else [])

def requestedColumn (h : Header) (name : String) : Column :=
  match (h.indexOf? name true).bind (h[·]?) with
  | some c => c.narrow
  | none => Column.named name

def project (h : Header) (requested : List String) (wide : Bool) : Header :=
  if requested.isEmpty then h
  else
    requested.map h.requestedColumn ++
      (if wide then (h.unrequested requested).filterMap fun i => h[i]?.map Column.widened else [])

def labelize (h : Header) (places : List Nat) (labels : List String) : Header :=
  (places.filterMap fun i => h[i]?.map Column.narrow) ++ labels.map Column.named

def same (h k : Header) : Bool := h.length == k.length && (h.zip k).all fun (c, d) => c.same d

def ageIndex? (h : Header) : Option Nat := h.indexOf? ageName true

def validIndex? (h : Header) : Option Nat := h.indexOf? validName true

def isTime (h : Header) (i : Nat) : Bool := h[i]?.any (·.time)

def isCapacity (h : Header) (i : Nat) : Bool := h[i]?.any (·.capacity)

end Header

-- The places to show: no hidden column, wide ones only in the wide layout, and no namespace when
-- there is just one.
def Header.visible (h : Header) (ns : String) (wide : Bool) : List Nat :=
  (List.range h.length).filter fun i =>
    h[i]?.any fun c => !c.hidden && (wide || !c.wide) && !(isNamespaced ns && c.name == namespaceName)

end LiveTable
