import LiveTable.Resource.Metadata
import LiveTable.Resource.Renderer

namespace LiveTable

def decodeTyped {α : Type} (kind apiVersion : String) (decode : Decode.Members → Option α)
    (object : Json) : Option α :=
  Decode.record (fun ms => do
    Decode.fixed kind ms "kind"
    Decode.fixed apiVersion ms "apiVersion"
    decode ms) object

def readTyped {α : Type} (kind apiVersion : String) (decode : Decode.Members → Option α)
    (object : Json) : Except ReadError α :=
  let found := ((object.get? "kind").bind Json.string?).getD kind
  if found != kind then .error (.otherKind kind found)
  else
    match decodeTyped kind apiVersion decode object with
    | some a => .ok a
    | none => .error (.malformed kind)

namespace Renderer

variable {α : Type} (read : Json → Except ReadError α)

def rendering (row? : α → Option Row) (object : Json) : Option (Except ReadError Row) :=
  match read object with
  | .ok a => (row? a).map .ok
  | .error e => some (.error e)

def checking (check? : α → Option (Option Fault)) (object : Json) :
    Option (Except Unhealthy Unit) :=
  match read object with
  | .ok a => (check? a).map Unhealthy.judge
  | .error e => some (.error (.unreadable e))

end Renderer

namespace Metadata

def ofMembers (ms : Decode.Members) : Option Metadata :=
  Decode.orElse {} (Decode.record decode) ms "metadata"

def displayName (m : Metadata) : String := (m.name.or m.generatedName).getD ""

def qualifiedId (m : Metadata) : String := qualifiedName m.namespaceName m.displayName

end Metadata

def RowEvent.cell? (h : Header) (name : String) (e : RowEvent) : Option String :=
  (h.indexOf? name true).bind (e.row.fields[·]?)

end LiveTable
