import LiveTable.Resource.Typed
import LiveTable.Text.LetterCase

namespace LiveTable

open Decode

structure ClusterEvent where
  metadata : Metadata
  type : String
  reason : String
  message : String
  count : Int32
  source : String
  target : String × String
  last : Option Int
  moment : Option Int
  first : Option Int
deriving DecidableEq, Inhabited

namespace ClusterEvent

def decodeTarget (ms : Members) : Option (String × String) := do
  checked text ms "namespace"
  checked text ms "apiVersion"
  checked text ms "uid"
  return (← textOf ms "kind", ← textOf ms "name")

def decodeSource (ms : Members) : Option String := do
  checked text ms "host"
  textOf ms "component"

def decode (ms : Members) : Option ClusterEvent := do
  return {
    metadata := ← Metadata.ofMembers ms
    type := ← textOf ms "type"
    reason := ← textOf ms "reason"
    message := ← textOf ms "message"
    count := ← orElse 1 int32 ms "count"
    source := ← orElse "" (record decodeSource) ms "source"
    target := ← orElse ("", "") (record decodeTarget) ms "involvedObject"
    last := ← optional Decode.moment ms "lastTimestamp"
    moment := ← optional Decode.moment ms "eventTime"
    first := ← optional Decode.moment ms "firstTimestamp" }

def lastSeen (e : ClusterEvent) : Option Int :=
  (e.last.or e.moment).or (e.first.or e.metadata.created)

def targetName (e : ClusterEvent) : String := Text.lower e.target.1 ++ "/" ++ e.target.2

def header : Header :=
  [.named namespaceName, (Column.named nameName).concealed, (Column.named "LAST SEEN").timed,
    .named "TYPE", .named "REASON", .named "OBJECT", (Column.named "COUNT").onRight,
    .named "MESSAGE", (Column.named "SOURCE").widened, (Column.named labelsName).widened,
    (Column.named validName).widened, (Column.named ageName).timed]

def row (now : Int) (e : ClusterEvent) : Row :=
  ⟨e.metadata.qualifiedId,
    [e.metadata.namespaceName,
      e.metadata.displayName,
      Cell.age now e.lastSeen,
      e.type,
      e.reason,
      e.targetName,
      toString e.count,
      Text.trim e.message,
      Cell.orMissing e.source,
      Labels.write e.metadata.labels,
      "",
      Cell.age now e.metadata.created]⟩

def colorer : Colorer := fun theme ns h e =>
  if e.cell? h "TYPE" = some "Warning" then theme.error else Colorer.byChange theme ns h e

def read : Json → Except ReadError ClusterEvent := readTyped "Event" "v1" decode

def renderer : Renderer where
  header _ := header
  render now _ := Renderer.rendering read (some ∘ row now)
  colorer := colorer

end ClusterEvent

end LiveTable
