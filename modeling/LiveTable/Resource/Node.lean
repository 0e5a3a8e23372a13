import LiveTable.Cell.Quantity
import LiveTable.Resource.Typed

namespace LiveTable

open Decode

structure NodeInfo where
  architecture : String := ""
  kubeletVersion : String := ""
  osImage : String := ""
  kernelVersion : String := ""
deriving DecidableEq, Inhabited

structure Node where
  metadata : Metadata
  unschedulable : Bool := false
  taints : Nat := 0
  conditions : List (String × String) := []
  addresses : List (String × String) := []
  allocatable : List (String × String) := []
  info : NodeInfo := {}
deriving DecidableEq, Inhabited

namespace Node

def decodeInfo (ms : Members) : Option NodeInfo := do
  return {
    architecture := ← textOf ms "architecture"
    kubeletVersion := ← textOf ms "kubeletVersion"
    osImage := ← textOf ms "osImage"
    kernelVersion := ← textOf ms "kernelVersion" }

def decodeTaint (ms : Members) : Option Unit := do
  checked text ms "effect"
  checked text ms "key"
  checked text ms "value"
  checked moment ms "timeAdded"

def decodeEntry (name : String) (ms : Members) : Option (String × String) := do
  return (← textOf ms "type", ← textOf ms name)

def decodeSpec (ms : Members) : Option (Bool × Nat) := do
  let taints ← listOf (record decodeTaint) ms "taints"
  return (← flagOf ms "unschedulable", taints.length)

def decodeStatus (node : Node) (ms : Members) : Option Node := do
  return { node with
    conditions := ← listOf (record (decodeEntry "status")) ms "conditions"
    addresses := ← listOf (record (decodeEntry "address")) ms "addresses"
    allocatable := ← mapOf quantity ms "allocatable"
    info := ← orElse {} (record decodeInfo) ms "nodeInfo" }

def decode (ms : Members) : Option Node := do
  let metadata ← Metadata.ofMembers ms
  let (unschedulable, taints) ← orElse (false, 0) (record decodeSpec) ms "spec"
  let node : Node := { metadata, unschedulable, taints }
  orElse node (record (decodeStatus node)) ms "status"

def readiness (n : Node) : String :=
  match n.conditions.lookup "Ready" with
  | some "True" => "Ready"
  | some _ => "NotReady"
  | none => "Unknown"

def statuses (n : Node) : List String :=
  n.readiness :: if n.unschedulable then ["SchedulingDisabled"] else []

def diagnose (statuses : List String) : Option Fault :=
  if statuses.contains "SchedulingDisabled" then some .nodeCordoned
  else if !statuses.contains "Ready" then some .nodeNotReady
  else none

def rolePath : String := "node-role.kubernetes.io/"

def role? (key value : String) : Option String :=
  if Text.startsWith rolePath key then
    let role := String.ofList (key.toList.drop rolePath.toList.length)
    if role.isEmpty then none else some role
  else if Text.endsWith "kubernetes.io/role" key && !value.isEmpty then some value
  else none

def dedup : List String → List String
  | [] => []
  | [a] => [a]
  | a :: b :: rest => if a = b then dedup (b :: rest) else a :: dedup (b :: rest)

def roles (n : Node) : List String :=
  dedup ((n.metadata.labels.filterMap fun (key, value) => role? key value).mergeSort fun a b =>
    compare a b != .gt)

def address (n : Node) (type : String) : String := (n.addresses.reverse.lookup type).getD ""

def processor (n : Node) : String :=
  match (n.allocatable.lookup "cpu").bind Quantity.millicores? with
  | some millicores => Quantity.showMillicores millicores
  | none => Cell.notApplicable

def memory (n : Node) : String :=
  match (n.allocatable.lookup "memory").bind Quantity.parse? with
  | some bytes => Quantity.showBytes (Binary64.round 0 Width.uint64Max bytes).toNat
  | none => Cell.notApplicable

def header : Header :=
  [.named nameName, .named "STATUS", .named "ROLE", (Column.named "ARCH").widened,
    (Column.named "TAINTS").onRight, .named "VERSION", (Column.named "OS-IMAGE").widened,
    (Column.named "KERNEL").widened, (Column.named "INTERNAL-IP").widened,
    (Column.named "EXTERNAL-IP").widened, (Column.named "CPU/A").onRight,
    (Column.named "MEM/A").onRight.measured, (Column.named labelsName).widened,
    (Column.named validName).widened, (Column.named ageName).timed]

def row (now : Int) (n : Node) : Row :=
  ⟨n.metadata.displayName,
    [n.metadata.displayName,
      ",".intercalate n.statuses,
      Cell.orMissing (",".intercalate n.roles),
      Cell.orNotApplicable n.info.architecture,
      toString n.taints,
      Cell.orNotApplicable n.info.kubeletVersion,
      Cell.orNotApplicable n.info.osImage,
      Cell.orNotApplicable n.info.kernelVersion,
      Cell.orMissing (n.address "InternalIP"),
      Cell.orMissing (n.address "ExternalIP"),
      n.processor,
      n.memory,
      Labels.write n.metadata.labels,
      Fault.status (diagnose n.statuses),
      Cell.age now n.metadata.created]⟩

def read : Json → Except ReadError Node := readTyped "Node" "v1" decode

def renderer : Renderer where
  header _ := header
  render now _ := Renderer.rendering read (some ∘ row now)
  healthy := Renderer.checking read fun n => some (diagnose n.statuses)

end Node

structure Namespace where
  metadata : Metadata
  phase : String
deriving DecidableEq, Inhabited

namespace Namespace

def active : String := "Active"

def decode (ms : Members) : Option Namespace := do
  checked (record (checked (list text) · "finalizers")) ms "spec"
  return {
    metadata := ← Metadata.ofMembers ms
    phase := ← orElse active (record (textOr active · "phase")) ms "status" }

def diagnose (phase : String) : Option Fault :=
  if phase = active || phase = "Terminating" then none else some .namespaceNotReady

def header : Header :=
  [.named nameName, .named "STATUS", (Column.named labelsName).widened,
    (Column.named validName).widened, (Column.named ageName).timed]

def row (now : Int) (n : Namespace) : Row :=
  ⟨n.metadata.displayName,
    [n.metadata.displayName,
      n.phase,
      Labels.write n.metadata.labels,
      Fault.status (diagnose n.phase),
      Cell.age now n.metadata.created]⟩

def read : Json → Except ReadError Namespace := readTyped "Namespace" "v1" decode

def renderer : Renderer where
  header _ := header
  render now _ := Renderer.rendering read (some ∘ row now)
  healthy := Renderer.checking read fun n => some (diagnose n.phase)

end Namespace

end LiveTable
