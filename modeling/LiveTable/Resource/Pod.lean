import LiveTable.Number.Width
import LiveTable.Resource.Container
import LiveTable.Resource.Typed

namespace LiveTable

open Decode

structure PodStatus where
  phase : String := ""
  reason : String := ""
  podIP : String := ""
  nominatedNode : String := ""
  quality : String := ""
  conditions : List (String × String) := []
  containers : List ContainerStatus := []
  initContainers : List ContainerStatus := []
deriving DecidableEq, Inhabited

structure Pod where
  metadata : Metadata
  spec : PodSpec
  status : PodStatus
deriving DecidableEq, Inhabited

def decodeCondition (ms : Members) : Option (String × String) := do
  checked text ms "message"
  checked text ms "reason"
  return (← textOf ms "type", ← textOf ms "status")

def PodStatus.decode (ms : Members) : Option PodStatus := do
  checked text ms "message"
  checked text ms "hostIP"
  checked moment ms "startTime"
  return {
    phase := ← textOf ms "phase"
    reason := ← textOf ms "reason"
    podIP := ← textOf ms "podIP"
    nominatedNode := ← textOf ms "nominatedNodeName"
    quality := ← textOf ms "qosClass"
    conditions := ← listOf (record decodeCondition) ms "conditions"
    containers := ← listOf (record ContainerStatus.decode) ms "containerStatuses"
    initContainers := ← listOf (record ContainerStatus.decode) ms "initContainerStatuses" }

namespace Pod

def decode (ms : Members) : Option Pod := do
  return {
    metadata := ← Metadata.ofMembers ms
    spec := ← orElse {} (record PodSpec.decode) ms "spec"
    status := ← orElse {} (record PodStatus.decode) ms "status" }

def sidecars (p : Pod) : List ContainerStatus := p.status.initContainers.filter p.spec.isSidecar

def readyCount (p : Pod) : Nat := p.status.containers.countP (·.ready) + p.sidecars.countP (·.ready)

def totalCount (p : Pod) : Nat := p.spec.containers.length + p.sidecars.length

def sumRestarts? (statuses : List ContainerStatus) : Option Int32 :=
  statuses.foldlM (fun sum s => Width.add32? sum s.restarts) 0

def restarts? (p : Pod) : Option Int32 := do
  Width.add32? (← sumRestarts? p.status.containers) (← sumRestarts? p.sidecars)

def later : Option Int → Option Int → Option Int
  | some a, some b => some (max a b)
  | a, none => a
  | none, b => b

def lastRestart (p : Pod) : Option Int :=
  p.status.containers.foldl (fun latest s => later latest s.lastFinished) none

def isDeleted (p : Pod) : Bool := p.metadata.isDeleted

def describeEnd (t : Termination) : String :=
  if !t.reason.isEmpty then t.reason
  else if t.signal != 0 then "Signal:" ++ toString t.signal
  else "ExitCode:" ++ toString t.exitCode

def completed : String := "Completed"
def terminating : String := "Terminating"
def initializing : String := "PodInitializing"

def containerPhase? (s : ContainerStatus) : Option String :=
  if !s.state.waiting.isEmpty then some s.state.waiting else s.state.terminated.map describeEnd

def isRunning (s : ContainerStatus) : Bool :=
  s.state.waiting.isEmpty && s.state.terminated.isNone && s.ready && s.state.running

def initPhase? (count place : Nat) (sidecar : Bool) (s : ContainerStatus) : Option String :=
  let progress := "Init:" ++ toString place ++ "/" ++ toString count
  match s.state.terminated with
  | some t => if t.exitCode = 0 then none else some ("Init:" ++ describeEnd t)
  | none =>
    if sidecar && s.started then if s.ready then none else some progress
    else if !s.state.waiting.isEmpty && s.state.waiting != initializing then
      some ("Init:" ++ s.state.waiting)
    else some progress

def initPhases (p : Pod) : List String :=
  p.status.initContainers.zipIdx.filterMap fun (s, place) =>
    initPhase? p.spec.initContainers.length place (p.spec.isSidecar s) s

def runPhase (p : Pod) (reported : String) : String :=
  ((p.status.containers.filterMap containerPhase?).head?).getD reported

def mainPhase (p : Pod) : String :=
  let reported := if p.status.reason.isEmpty then p.status.phase else p.status.reason
  let phase := p.runPhase reported
  if p.isDeleted then terminating
  else if p.status.containers.any isRunning && phase == completed then "Running"
  else phase

def phase (p : Pod) : String :=
  if p.isDeleted && p.status.reason == "NodeLost" then "Unknown"
  else (p.initPhases.head?).getD p.mainPhase

def diagnose (phase : String) (ready total : Nat) : Option Fault :=
  if phase == completed then none
  else if ready != total || total == 0 then some (.containersNotReady ready total)
  else if phase == terminating then some .podTerminating
  else none

-- The restarts are counted along with the containers that are ready.
def check? (p : Pod) : Option (Option Fault) := do
  let _ ← sumRestarts? p.status.containers
  let _ ← sumRestarts? p.sidecars
  return diagnose p.phase p.readyCount p.totalCount

structure Amounts where
  processor : UInt64
  memory : UInt64
deriving DecidableEq, Inhabited

def Amounts.add? (a b : Amounts) : Option Amounts := do
  return ⟨← Width.addUnsigned64? a.processor b.processor, ← Width.addUnsigned64? a.memory b.memory⟩

def bytesOf (quantity : String) : UInt64 :=
  match Quantity.parse? quantity with
  | some x => UInt64.ofNat (Binary64.round 0 Width.uint64Max x).toNat
  | none => 0

def amountsOf (quantities : List (String × String)) : Amounts where
  processor := UInt64.ofNat (((quantities.lookup "cpu").bind Quantity.millicores?).getD 0)
  memory := ((quantities.lookup "memory").map bytesOf).getD 0

def sumAmounts? (amounts : List Amounts) : Option Amounts := amounts.foldlM Amounts.add? ⟨0, 0⟩

def requested? (p : Pod) : Option Amounts :=
  sumAmounts? (p.spec.containers.map fun c => amountsOf c.requests)

def limited? (p : Pod) : Option Amounts :=
  sumAmounts? (p.spec.containers.map fun c => amountsOf c.limits)

def showProcessor (millicores : UInt64) : String :=
  if millicores = 0 then "0" else Quantity.showMillicores millicores.toNat

def showMemory (bytes : UInt64) : String := Quantity.showBytes bytes.toNat

def passes (p : Pod) (gate : String) : Bool := p.status.conditions.lookup gate == some "True"

def gates (p : Pod) : String :=
  let gates := p.spec.readinessGates
  if gates.isEmpty then Cell.missing
  else toString (gates.countP p.passes) ++ "/" ++ toString gates.length

def qualityCode (quality : String) : String :=
  if quality = "Guaranteed" then "GA" else if quality = "Burstable" then "BU" else "BE"

def header : Header :=
  [.named namespaceName, .named nameName, .named "READY", .named "STATUS",
    (Column.named "RESTARTS").onRight, (Column.named "LAST RESTART").onRight.timed.widened,
    (Column.named "CPU/RL").onRight.widened, (Column.named "MEM/RL").onRight.widened, .named "IP",
    .named "NODE", (Column.named "SERVICE-ACCOUNT").widened, (Column.named "NOMINATED NODE").widened,
    (Column.named "READINESS GATES").widened, (Column.named "QOS").widened,
    (Column.named labelsName).widened, (Column.named validName).widened,
    (Column.named ageName).timed]

def row? (now : Int) (p : Pod) : Option Row := do
  let restarts ← p.restarts?
  let requested ← p.requested?
  let limited ← p.limited?
  return ⟨p.metadata.qualifiedId,
    [p.metadata.namespaceName,
      p.metadata.displayName,
      toString p.readyCount ++ "/" ++ toString p.totalCount,
      p.phase,
      toString restarts,
      Cell.age now p.lastRestart,
      showProcessor requested.processor ++ ":" ++ showProcessor limited.processor,
      showMemory requested.memory ++ ":" ++ showMemory limited.memory,
      Cell.orNotApplicable p.status.podIP,
      Cell.orNotApplicable p.spec.nodeName,
      Cell.orNotApplicable p.spec.serviceAccount,
      Cell.orMissing p.status.nominatedNode,
      p.gates,
      qualityCode p.status.quality,
      Labels.write p.metadata.labels,
      Fault.status (diagnose p.phase p.readyCount p.totalCount),
      Cell.age now p.metadata.created]⟩

def colorer : Colorer := fun theme ns h e =>
  let colour := Colorer.byChange theme ns h e
  match (e.cell? h "STATUS").map Text.trim with
  | some "Pending" => theme.pending
  | some "ContainerCreating" => theme.pending
  | some "PodInitializing" => theme.added
  | some "Initialized" => theme.highlight
  | some "Completed" => theme.completed
  | some "Running" => if colour != theme.error then theme.standard else colour
  | some "Terminating" => theme.deleted
  | _ => colour

def read : Json → Except ReadError Pod := readTyped "Pod" "v1" decode

def renderer : Renderer where
  header _ := header
  render now _ := Renderer.rendering read (row? now)
  healthy := Renderer.checking read check?
  colorer := colorer

end Pod

end LiveTable
