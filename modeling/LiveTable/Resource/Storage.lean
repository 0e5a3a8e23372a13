import LiveTable.Resource.Typed

namespace LiveTable

open Decode

namespace AccessMode

def abbreviation? (mode : String) : Option String :=
  [("ReadWriteOnce", "RWO"), ("ReadOnlyMany", "ROX"), ("ReadWriteMany", "RWX"),
    ("ReadWriteOncePod", "RWOP")].lookup mode

def describe (modes : List String) : String :=
  ",".intercalate ((modes.filterMap abbreviation?).foldl (fun shown mode =>
    if shown.contains mode then shown else shown ++ [mode]) [])

end AccessMode

def storageClass (metadata : Metadata) (declared : String) : String :=
  (metadata.annotation? "volume.beta.kubernetes.io/storage-class").getD declared

structure Volume where
  metadata : Metadata
  capacity : String := ""
  accessModes : List String := []
  reclaimPolicy : String := ""
  claim : Option (String × String) := none
  className : String := ""
  mode : String := ""
  phase : String := ""
  reason : String := ""
deriving DecidableEq, Inhabited

def storageOf (quantities : List (String × String)) : String := (quantities.lookup "storage").getD ""

namespace Volume

def decodeClaim (ms : Members) : Option (String × String) := do
  return (← textOf ms "namespace", ← textOf ms "name")

def decodeSpec (volume : Volume) (ms : Members) : Option Volume := do
  return { volume with
    capacity := storageOf (← mapOf quantity ms "capacity")
    accessModes := ← listOf text ms "accessModes"
    reclaimPolicy := ← textOf ms "persistentVolumeReclaimPolicy"
    claim := ← optional (record decodeClaim) ms "claimRef"
    className := ← textOf ms "storageClassName"
    mode := ← textOf ms "volumeMode" }

def decodeStatus (ms : Members) : Option (String × String) := do
  checked text ms "message"
  return (← textOf ms "phase", ← textOf ms "reason")

def decode (ms : Members) : Option Volume := do
  let metadata ← Metadata.ofMembers ms
  let (phase, reason) ← orElse ("", "") (record decodeStatus) ms "status"
  let volume : Volume := { metadata, phase, reason }
  orElse volume (record (decodeSpec volume)) ms "spec"

def shownPhase (v : Volume) : String := if v.metadata.isDeleted then "Terminating" else v.phase

def diagnose (phase : String) : Option Fault :=
  if phase = "Failed" then some .volumeFailed else none

def header : Header :=
  [.named nameName, (Column.named "CAPACITY").measured, .named "ACCESS MODES",
    .named "RECLAIM POLICY", .named "STATUS", .named "CLAIM", .named "STORAGECLASS", .named "REASON",
    (Column.named "VOLUMEMODE").widened, (Column.named labelsName).widened,
    (Column.named validName).widened, (Column.named ageName).timed]

def row (now : Int) (v : Volume) : Row :=
  ⟨v.metadata.displayName,
    [v.metadata.displayName,
      v.capacity,
      AccessMode.describe v.accessModes,
      v.reclaimPolicy,
      v.shownPhase,
      (v.claim.map fun (ns, name) => ns ++ "/" ++ name).getD "",
      storageClass v.metadata v.className,
      v.reason,
      Cell.orMissing v.mode,
      Labels.write v.metadata.labels,
      Fault.status (diagnose v.shownPhase),
      Cell.age now v.metadata.created]⟩

def colorer : Colorer := fun theme ns h e =>
  match (e.cell? h "STATUS").map Text.trim with
  | some "Bound" => theme.standard
  | some "Available" => .green
  | some "Pending" => theme.pending
  | some "Terminating" => theme.completed
  | _ => Colorer.byChange theme ns h e

def read : Json → Except ReadError Volume := readTyped "PersistentVolume" "v1" decode

def renderer : Renderer where
  header _ := header
  render now _ := Renderer.rendering read (some ∘ row now)
  healthy := Renderer.checking read fun v => some (diagnose v.shownPhase)
  colorer := colorer

end Volume

structure VolumeClaim where
  metadata : Metadata
  volume : String := ""
  className : String := ""
  phase : String := ""
  capacity : String := ""
  accessModes : List String := []
deriving DecidableEq, Inhabited

namespace VolumeClaim

def decodeSpec (claim : VolumeClaim) (ms : Members) : Option VolumeClaim := do
  checked (list text) ms "accessModes"
  checked text ms "volumeMode"
  return { claim with
    volume := ← textOf ms "volumeName"
    className := ← textOf ms "storageClassName" }

def decodeStatus (claim : VolumeClaim) (ms : Members) : Option VolumeClaim := do
  return { claim with
    phase := ← textOf ms "phase"
    capacity := storageOf (← mapOf quantity ms "capacity")
    accessModes := ← listOf text ms "accessModes" }

def decode (ms : Members) : Option VolumeClaim := do
  let bare : VolumeClaim := { metadata := ← Metadata.ofMembers ms }
  let declared ← orElse bare (record (decodeSpec bare)) ms "spec"
  orElse declared (record (decodeStatus declared)) ms "status"

def shownPhase (c : VolumeClaim) : String := if c.metadata.isDeleted then "Terminating" else c.phase

def isBound (c : VolumeClaim) : Bool := c.shownPhase == "Bound"

def diagnose (phase : String) : Option Fault :=
  if phase = "Bound" then none else some (.claimNotBound phase)

def header : Header :=
  [.named namespaceName, .named nameName, .named "STATUS", .named "VOLUME",
    (Column.named "CAPACITY").measured, .named "ACCESS MODES", .named "STORAGECLASS",
    (Column.named labelsName).widened, (Column.named validName).widened,
    (Column.named ageName).timed]

def row (now : Int) (c : VolumeClaim) : Row :=
  ⟨c.metadata.qualifiedId,
    [c.metadata.namespaceName,
      c.metadata.displayName,
      c.shownPhase,
      c.volume,
      if c.isBound then c.capacity else "",
      if c.isBound then AccessMode.describe c.accessModes else "",
      storageClass c.metadata c.className,
      Labels.write c.metadata.labels,
      Fault.status (diagnose c.shownPhase),
      Cell.age now c.metadata.created]⟩

def read : Json → Except ReadError VolumeClaim := readTyped "PersistentVolumeClaim" "v1" decode

def renderer : Renderer where
  header _ := header
  render now _ := Renderer.rendering read (some ∘ row now)
  healthy := Renderer.checking read fun c => some (diagnose c.shownPhase)

end VolumeClaim

end LiveTable
