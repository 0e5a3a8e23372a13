import LiveTable.Json.Decode
import LiveTable.Cell.Quantity

namespace LiveTable

open Decode

-- A declared container. One that is restarted always runs beside the others even if it is listed
-- among those that start first.
structure Container where
  name : String := ""
  image : String := ""
  alwaysRestarted : Bool := false
  requests : List (String × String) := []
  limits : List (String × String) := []
deriving DecidableEq, Inhabited

namespace Container

def decodeResources (ms : Members) : Option (List (String × String) × List (String × String)) := do
  return (← mapOf quantity ms "requests", ← mapOf quantity ms "limits")

def decode (ms : Members) : Option Container := do
  let (requests, limits) ← orElse ([], []) (record decodeResources) ms "resources"
  return {
    name := ← textOf ms "name"
    image := ← textOf ms "image"
    alwaysRestarted := (← textOf ms "restartPolicy") == "Always"
    requests, limits }

end Container

structure Termination where
  reason : String := ""
  signal : Int32 := 0
  exitCode : Int32 := 0
  finished : Option Int := none
deriving DecidableEq, Inhabited

def Termination.decode (ms : Members) : Option Termination := do
  checked text ms "containerID"
  checked text ms "message"
  checked moment ms "startedAt"
  return {
    reason := ← textOf ms "reason"
    signal := ← countOf ms "signal"
    exitCode := ← countOf ms "exitCode"
    finished := ← optional moment ms "finishedAt" }

structure ContainerState where
  waiting : String := ""
  running : Bool := false
  terminated : Option Termination := none
deriving DecidableEq, Inhabited

namespace ContainerState

def decodeWaiting (ms : Members) : Option String := do
  checked text ms "message"
  textOf ms "reason"

def decodeRunning (ms : Members) : Option Unit := checked moment ms "startedAt"

def decode (ms : Members) : Option ContainerState := do
  return {
    waiting := ← orElse "" (record decodeWaiting) ms "waiting"
    running := (← optional (record decodeRunning) ms "running").isSome
    terminated := ← optional (record Termination.decode) ms "terminated" }

end ContainerState

structure ContainerStatus where
  name : String := ""
  ready : Bool := false
  started : Bool := false
  restarts : Int32 := 0
  state : ContainerState := {}
  last : ContainerState := {}
deriving DecidableEq, Inhabited

namespace ContainerStatus

def decode (ms : Members) : Option ContainerStatus := do
  checked text ms "image"
  checked text ms "imageID"
  checked text ms "containerID"
  return {
    name := ← textOf ms "name"
    ready := ← flagOf ms "ready"
    started := ← flagOf ms "started"
    restarts := ← countOf ms "restartCount"
    state := ← orElse {} (record ContainerState.decode) ms "state"
    last := ← orElse {} (record ContainerState.decode) ms "lastState" }

def lastFinished (s : ContainerStatus) : Option Int := s.last.terminated.bind (·.finished)

end ContainerStatus

structure PodSpec where
  containers : List Container := []
  initContainers : List Container := []
  nodeName : String := ""
  serviceAccount : String := ""
  readinessGates : List String := []
  nodeSelector : List (String × String) := []
deriving DecidableEq, Inhabited

namespace PodSpec

def decode (ms : Members) : Option PodSpec := do
  return {
    containers := ← listOf (record Container.decode) ms "containers"
    initContainers := ← listOf (record Container.decode) ms "initContainers"
    nodeName := ← textOf ms "nodeName"
    serviceAccount := ← textOf ms "serviceAccountName"
    readinessGates := ← listOf (record (textOf · "conditionType")) ms "readinessGates"
    nodeSelector := ← mapOf text ms "nodeSelector" }

def isSidecar (spec : PodSpec) (status : ContainerStatus) : Bool :=
  (spec.initContainers.find? (·.name == status.name)).any (·.alwaysRestarted)

end PodSpec

end LiveTable
