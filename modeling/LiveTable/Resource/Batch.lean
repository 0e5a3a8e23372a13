import LiveTable.Resource.Workload

namespace LiveTable

open Decode

structure JobSpec where
  completions : Option Int32 := none
  parallelism : Option Int32 := none
  selector : Option Selector := none
  template : PodTemplate := none
deriving DecidableEq, Inhabited

def JobSpec.decode (ms : Members) : Option JobSpec := do
  return {
    completions := ← optional int32 ms "completions"
    parallelism := ← optional int32 ms "parallelism"
    selector := ← optional (record Selector.decode) ms "selector"
    template := ← orElse none (record PodTemplate.decode) ms "template" }

structure JobStatus where
  succeeded : Int32 := 0
  failed : Int32 := 0
  started : Option Int := none
  ended : Option Int := none
deriving DecidableEq, Inhabited

def JobStatus.decode (ms : Members) : Option JobStatus := do
  checked int32 ms "active"
  return {
    succeeded := ← countOf ms "succeeded"
    failed := ← countOf ms "failed"
    started := ← optional moment ms "startTime"
    ended := ← optional moment ms "completionTime" }

structure Job where
  metadata : Metadata
  spec : JobSpec
  status : JobStatus
deriving DecidableEq, Inhabited

namespace Job

def decode (ms : Members) : Option Job := do
  return ⟨← Metadata.ofMembers ms, ← orElse {} (record JobSpec.decode) ms "spec",
    ← orElse {} (record JobStatus.decode) ms "status"⟩

def completions (j : Job) : String :=
  let total := match j.spec.completions, j.spec.parallelism with
    | some n, _ => toString n
    | none, some n => if n > 1 then "1 of " ++ toString n else "1"
    | none, none => "1"
  toString j.status.succeeded ++ "/" ++ total

def duration (j : Job) (now : Int) : String :=
  match j.status.started with
  | some start => Elapsed.describe (j.status.ended.getD now - start)
  | none => Cell.missing

def diagnose (spec : JobSpec) (status : JobStatus) : Option Fault :=
  if status.succeeded != spec.completions.getD 1 && status.failed > 0 then
    some (.podsFailed status.failed)
  else none

def header : Header :=
  [.named namespaceName, .named nameName, .named "COMPLETIONS", .named "DURATION",
    (Column.named "SELECTOR").widened, (Column.named "CONTAINERS").widened,
    (Column.named "IMAGES").widened, (Column.named validName).widened,
    (Column.named ageName).timed]

def row (now : Int) (j : Job) : Row :=
  ⟨j.metadata.qualifiedId,
    [j.metadata.namespaceName,
      j.metadata.displayName,
      j.completions,
      j.duration now,
      Selector.describe? j.spec.selector,
      j.spec.template.names,
      j.spec.template.images,
      Fault.status (diagnose j.spec j.status),
      Cell.age now j.metadata.created]⟩

def read : Json → Except ReadError Job := readTyped "Job" "batch/v1" decode

def renderer : Renderer where
  header _ := header
  render now _ := Renderer.rendering read (some ∘ row now)
  healthy := Renderer.checking read fun j => some (diagnose j.spec j.status)

end Job

structure CronJob where
  metadata : Metadata
  schedule : String := ""
  suspended : Bool := false
  job : JobSpec := {}
  active : Nat := 0
  lastScheduled : Option Int := none
deriving DecidableEq, Inhabited

namespace CronJob

def decodeTemplate (ms : Members) : Option JobSpec := do
  checked (record Metadata.decode) ms "metadata"
  orElse {} (record JobSpec.decode) ms "spec"

def decodeSpec (c : CronJob) (ms : Members) : Option CronJob := do
  return { c with
    schedule := ← textOf ms "schedule"
    suspended := ← flagOf ms "suspend"
    job := ← orElse {} (record decodeTemplate) ms "jobTemplate" }

def decodeStatus (c : CronJob) (ms : Members) : Option CronJob := do
  let active ← listOf anyRecord ms "active"
  return { c with
    active := active.length
    lastScheduled := ← optional moment ms "lastScheduleTime" }

def decode (ms : Members) : Option CronJob := do
  let bare : CronJob := { metadata := ← Metadata.ofMembers ms }
  let declared ← orElse bare (record (decodeSpec bare)) ms "spec"
  orElse declared (record (decodeStatus declared)) ms "status"

def lastSchedule (c : CronJob) (now : Int) : String :=
  if c.lastScheduled.isNone then Cell.missing else Cell.age now c.lastScheduled

def header : Header :=
  [.named namespaceName, .named nameName, .named "SCHEDULE", .named "SUSPEND",
    (Column.named "ACTIVE").onRight, (Column.named "LAST_SCHEDULE").timed,
    (Column.named "SELECTOR").widened, (Column.named "CONTAINERS").widened,
    (Column.named "IMAGES").widened, (Column.named labelsName).widened,
    (Column.named validName).widened, (Column.named ageName).timed]

def row (now : Int) (c : CronJob) : Row :=
  ⟨c.metadata.qualifiedId,
    [c.metadata.namespaceName,
      c.metadata.displayName,
      c.schedule,
      Cell.ofBool c.suspended,
      toString c.active,
      c.lastSchedule now,
      Selector.describe? c.job.selector,
      c.job.template.names,
      c.job.template.images,
      Labels.write c.metadata.labels,
      "",
      Cell.age now c.metadata.created]⟩

def read : Json → Except ReadError CronJob := readTyped "CronJob" "batch/v1" decode

def renderer : Renderer where
  header _ := header
  render now _ := Renderer.rendering read (some ∘ row now)

end CronJob

end LiveTable
