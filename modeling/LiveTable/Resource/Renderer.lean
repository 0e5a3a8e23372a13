import LiveTable.Json.Basic
import LiveTable.Resource.Health
import LiveTable.Theme.Basic

namespace LiveTable

inductive ReadError where
  | otherKind (expected found : String)
  | malformed (kind : String)
  | noMetadata
  | invalidMetadata
deriving DecidableEq

def ReadError.message : ReadError → String
  | otherKind expected found => "expected " ++ expected ++ " but got " ++ found
  | malformed kind => "expected " ++ kind ++ " object"
  | noMetadata => "object has no metadata"
  | invalidMetadata => "invalid object metadata"

inductive Unhealthy where
  | unreadable (error : ReadError)
  | faulty (fault : Fault)
deriving DecidableEq

namespace Unhealthy

def message : Unhealthy → String
  | unreadable error => error.message
  | faulty fault => fault.message

def judge : Option Fault → Except Unhealthy Unit
  | none => .ok ()
  | some fault => .error (.faulty fault)

def status : Except Unhealthy Unit → String
  | .ok () => ""
  | .error unhealthy => unhealthy.message

end Unhealthy

-- What a renderer makes of an object is `none` where the program stops.
structure Renderer where
  header : String → Header
  render : Int → String → Json → Option (Except ReadError Row)
  healthy : Json → Option (Except Unhealthy Unit) := fun _ => some (.ok ())
  colorer : Colorer := Colorer.byChange

namespace Renderer

def hydrate? (r : Renderer) (now : Int) (ns : String) (objects : List Json) :
    Option (List (Nat × Row)) := do
  let rendered ← objects.mapM (r.render now ns)
  return rendered.zipIdx.filterMap fun (result, place) => result.toOption.map (place, ·)

end Renderer

end LiveTable
