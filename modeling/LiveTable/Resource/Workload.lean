import LiveTable.Resource.Container
import LiveTable.Resource.Typed

namespace LiveTable

open Decode

structure Requirement where
  key : String
  operator : String
  values : List String
deriving DecidableEq, Inhabited

structure Selector where
  labels : List (String × String) := []
  requirements : List Requirement := []
deriving DecidableEq, Inhabited

def Requirement.decode (ms : Members) : Option Requirement := do
  return ⟨← textOf ms "key", ← textOf ms "operator", ← listOf text ms "values"⟩

namespace Selector

def decode (ms : Members) : Option Selector := do
  return ⟨← mapOf text ms "matchLabels",
    ← listOf (record Requirement.decode) ms "matchExpressions"⟩

def showRequirement (r : Requirement) : String :=
  r.key ++ " " ++ r.operator ++ " (" ++ ",".intercalate r.values ++ ")"

def describe (s : Selector) : String :=
  if s.labels.isEmpty then " ".intercalate (s.requirements.map showRequirement)
  else Labels.write s.labels

def describe? (s : Option Selector) : String := (s.map describe).getD Cell.missing

end Selector

abbrev PodTemplate := Option PodSpec

namespace PodTemplate

def decode (ms : Members) : Option PodTemplate := do
  checked (record Metadata.decode) ms "metadata"
  optional (record PodSpec.decode) ms "spec"

def capped (texts : List String) : String :=
  let more := texts.length - 2
  ",".intercalate (texts.take 2 ++ if more = 0 then [] else ["(+" ++ toString more ++ ")..."])

def summary (f : Container → String) (t : PodTemplate) : String :=
  match t with
  | some spec => capped ((spec.initContainers ++ spec.containers).map f)
  | none => Cell.missing

def names (t : PodTemplate) : String := t.summary (·.name)

def images (t : PodTemplate) : String := t.summary (·.image)

end PodTemplate

def replicaFault (ready desired : Int32) : Option Fault :=
  if ready = desired then none else some (.replicasNotReady ready desired)

structure WorkloadSpec where
  replicas : Int32 := 1
  selector : Selector := {}
  template : PodTemplate := none
deriving DecidableEq, Inhabited

def WorkloadSpec.decode (ms : Members) : Option WorkloadSpec := do
  return {
    replicas := ← orElse 1 int32 ms "replicas"
    selector := ← orElse {} (record Selector.decode) ms "selector"
    template := ← orElse none (record PodTemplate.decode) ms "template" }

structure Workload where
  metadata : Metadata
  spec : Option WorkloadSpec
  counts : List (String × Int32)
deriving DecidableEq, Inhabited

namespace Workload

def decode (counts : List String) (ms : Members) : Option Workload := do
  return {
    metadata := ← Metadata.ofMembers ms
    spec := ← optional (record WorkloadSpec.decode) ms "spec"
    counts := ← orElse [] (record fun status =>
      counts.mapM fun name => (countOf status name).map (name, ·)) ms "status" }

def count (w : Workload) (name : String) : Int32 := (w.counts.lookup name).getD 0

def desired (w : Workload) : Int32 := (w.spec.map (·.replicas)).getD 1

def ready (w : Workload) : Int32 := w.count "readyReplicas"

def template (w : Workload) : PodTemplate := w.spec.bind (·.template)

def selector (w : Workload) : String := Selector.describe? (w.spec.map (·.selector))

def read (kind : String) (counts : List String) : Json → Except ReadError Workload :=
  readTyped kind "apps/v1" (decode counts)

end Workload

open Workload

namespace Deployment

def header : Header :=
  [.named namespaceName, .named nameName, (Column.named "READY").onRight,
    (Column.named "UP-TO-DATE").onRight, (Column.named "AVAILABLE").onRight,
    (Column.named "CONTAINERS").widened, (Column.named "IMAGES").widened,
    (Column.named labelsName).widened, (Column.named validName).widened,
    (Column.named ageName).timed]

def row (now : Int) (w : Workload) : Row :=
  ⟨w.metadata.qualifiedId,
    [w.metadata.namespaceName,
      w.metadata.displayName,
      toString w.ready ++ "/" ++ toString w.desired,
      toString (w.count "updatedReplicas"),
      toString (w.count "availableReplicas"),
      w.template.names,
      w.template.images,
      Labels.write w.metadata.labels,
      Fault.status (replicaFault w.ready w.desired),
      Cell.age now w.metadata.created]⟩

def read : Json → Except ReadError Workload :=
  Workload.read "Deployment" ["readyReplicas", "updatedReplicas", "availableReplicas"]

def renderer : Renderer where
  header _ := header
  render now _ := Renderer.rendering read (some ∘ row now)
  healthy := Renderer.checking read fun w => some (replicaFault w.ready w.desired)

end Deployment

namespace StatefulSet

def header : Header :=
  [.named namespaceName, .named nameName, (Column.named "READY").onRight,
    (Column.named "CURRENT").onRight, (Column.named "SELECTOR").widened,
    (Column.named "CONTAINERS").widened, (Column.named "IMAGES").widened,
    (Column.named labelsName).widened, (Column.named validName).widened,
    (Column.named ageName).timed]

def row (now : Int) (w : Workload) : Row :=
  ⟨w.metadata.qualifiedId,
    [w.metadata.namespaceName,
      w.metadata.displayName,
      toString w.ready ++ "/" ++ toString w.desired,
      toString (w.count "currentReplicas"),
      w.selector,
      w.template.names,
      w.template.images,
      Labels.write w.metadata.labels,
      Fault.status (replicaFault w.ready w.desired),
      Cell.age now w.metadata.created]⟩

def read : Json → Except ReadError Workload :=
  Workload.read "StatefulSet" ["readyReplicas", "currentReplicas", "replicas"]

def renderer : Renderer where
  header _ := header
  render now _ := Renderer.rendering read (some ∘ row now)
  healthy := Renderer.checking read fun w => some (replicaFault w.ready w.desired)

end StatefulSet

namespace DaemonSet

def scheduled (w : Workload) : Int32 := w.count "desiredNumberScheduled"

def ready (w : Workload) : Int32 := w.count "numberReady"

def nodeSelector (w : Workload) : String :=
  Cell.orMissing ((w.template.map fun spec => Labels.write spec.nodeSelector).getD "")

def header : Header :=
  [.named namespaceName, .named nameName, (Column.named "DESIRED").onRight,
    (Column.named "CURRENT").onRight, (Column.named "READY").onRight,
    (Column.named "UP-TO-DATE").onRight, (Column.named "AVAILABLE").onRight,
    (Column.named "NODE SELECTOR").widened, (Column.named labelsName).widened,
    (Column.named validName).widened, (Column.named ageName).timed]

def row (now : Int) (w : Workload) : Row :=
  ⟨w.metadata.qualifiedId,
    [w.metadata.namespaceName,
      w.metadata.displayName,
      toString (scheduled w),
      toString (w.count "currentNumberScheduled"),
      toString (ready w),
      toString (w.count "updatedNumberScheduled"),
      toString (w.count "numberAvailable"),
      nodeSelector w,
      Labels.write w.metadata.labels,
      Fault.status (replicaFault (ready w) (scheduled w)),
      Cell.age now w.metadata.created]⟩

def read : Json → Except ReadError Workload :=
  Workload.read "DaemonSet" ["desiredNumberScheduled", "currentNumberScheduled", "numberReady",
    "updatedNumberScheduled", "numberAvailable", "numberMisscheduled"]

def renderer : Renderer where
  header _ := header
  render now _ := Renderer.rendering read (some ∘ row now)
  healthy := Renderer.checking read fun w => some (replicaFault (ready w) (scheduled w))

end DaemonSet

namespace ReplicaSet

def header : Header :=
  [.named namespaceName, .named nameName, (Column.named "DESIRED").onRight,
    (Column.named "CURRENT").onRight, (Column.named "READY").onRight,
    (Column.named labelsName).widened, (Column.named validName).widened,
    (Column.named ageName).timed]

def row (now : Int) (w : Workload) : Row :=
  ⟨w.metadata.qualifiedId,
    [w.metadata.namespaceName,
      w.metadata.displayName,
      toString w.desired,
      toString (w.count "replicas"),
      toString w.ready,
      Labels.write w.metadata.labels,
      Fault.status (replicaFault w.ready w.desired),
      Cell.age now w.metadata.created]⟩

def read : Json → Except ReadError Workload :=
  Workload.read "ReplicaSet" ["readyReplicas", "replicas"]

def renderer : Renderer where
  header _ := header
  render now _ := Renderer.rendering read (some ∘ row now)
  healthy := Renderer.checking read fun w => some (replicaFault w.ready w.desired)

end ReplicaSet

end LiveTable
