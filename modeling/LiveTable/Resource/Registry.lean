import LiveTable.Resource.Batch
import LiveTable.Resource.ClusterEvent
import LiveTable.Resource.Configuration
import LiveTable.Resource.Network
import LiveTable.Resource.Node
import LiveTable.Resource.Pod
import LiveTable.Resource.Storage
import LiveTable.Resource.Workload

namespace LiveTable.Renderer

def readMetadata (object : Json) : Except ReadError Metadata :=
  match object.get? "metadata" with
  | none => .error .noMetadata
  | some v =>
    match Decode.record Metadata.decode v with
    | some metadata => .ok metadata
    | none => .error .invalidMetadata

def plainHeader (ns : String) : Header :=
  (if isClusterScoped ns then [] else [.named namespaceName]) ++
    [.named nameName, (Column.named labelsName).widened, (Column.named validName).widened,
      (Column.named ageName).timed]

def plainRow (now : Int) (ns : String) (m : Metadata) : Row :=
  let name := m.name.getD ""
  ⟨qualifiedName m.namespaceName name,
    (if isClusterScoped ns then [] else [m.namespaceName]) ++
      [name, Labels.write m.labels, "", Cell.age now m.created]⟩

def plain : Renderer where
  header := plainHeader
  render now ns := rendering readMetadata (some ∘ plainRow now ns)

def registered : List (String × Renderer) :=
  [("v1/pods", Pod.renderer), ("v1/services", Service.renderer), ("v1/nodes", Node.renderer),
    ("v1/namespaces", Namespace.renderer), ("v1/configmaps", ConfigMap.renderer),
    ("v1/secrets", Secret.renderer), ("v1/serviceaccounts", ServiceAccount.renderer),
    ("v1/persistentvolumes", Volume.renderer),
    ("v1/persistentvolumeclaims", VolumeClaim.renderer), ("v1/events", ClusterEvent.renderer),
    ("apps/v1/deployments", Deployment.renderer), ("apps/v1/statefulsets", StatefulSet.renderer),
    ("apps/v1/daemonsets", DaemonSet.renderer), ("apps/v1/replicasets", ReplicaSet.renderer),
    ("batch/v1/jobs", Job.renderer), ("batch/v1/cronjobs", CronJob.renderer),
    ("networking.k8s.io/v1/ingresses", Ingress.renderer)]

def isRegistered (key : String) : Bool := registered.any (·.1 == key)

def ofKey (key : String) : Renderer := (registered.lookup key).getD plain

end LiveTable.Renderer
