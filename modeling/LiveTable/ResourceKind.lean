import LiveTable.Text.Blank
import LiveTable.Text.LetterCase
import LiveTable.Text.Search

namespace LiveTable

-- A kind of resource by its place in the interface of a cluster. Its name is empty as long as only
-- its coordinates are known.
structure ResourceKind where
  group : String
  version : String
  name : String
  plural : String
  namespaced : Bool
deriving DecidableEq, Inhabited

namespace ResourceKind

structure Known where
  kind : ResourceKind
  names : List String

def known : List Known := [
  ⟨⟨"", "v1", "Pod", "pods", true⟩,
    ["po", "pod", "pods"]⟩,
  ⟨⟨"batch", "v1", "CronJob", "cronjobs", true⟩,
    ["cj", "cronjob", "cronjobs", "cron-job", "cron-jobs"]⟩,
  ⟨⟨"apps", "v1", "DaemonSet", "daemonsets", true⟩,
    ["ds", "daemonset", "daemonsets", "daemon-set", "daemon-sets"]⟩,
  ⟨⟨"apps", "v1", "Deployment", "deployments", true⟩,
    ["deploy", "deployment", "deployments", "dp"]⟩,
  ⟨⟨"apps", "v1", "ReplicaSet", "replicasets", true⟩,
    ["rs", "replicaset", "replicasets", "replica-set", "replica-sets"]⟩,
  ⟨⟨"", "v1", "ReplicationController", "replicationcontrollers", true⟩,
    ["rc", "replicationcontroller", "replicationcontrollers", "replication-controller",
       "replication-controllers"]⟩,
  ⟨⟨"apps", "v1", "StatefulSet", "statefulsets", true⟩,
    ["sts", "statefulset", "statefulsets"]⟩,
  ⟨⟨"batch", "v1", "Job", "jobs", true⟩,
    ["job", "jobs"]⟩,
  ⟨⟨"", "v1", "Service", "services", true⟩,
    ["svc", "service", "services"]⟩,
  ⟨⟨"networking.k8s.io", "v1", "Ingress", "ingresses", true⟩,
    ["ing", "ingress", "ingresses"]⟩,
  ⟨⟨"networking.k8s.io", "v1", "IngressClass", "ingressclasses", false⟩,
    ["ingclass", "ingressclass", "ingressclasses", "ingress-class", "ingress-classes", "ic"]⟩,
  ⟨⟨"", "v1", "ConfigMap", "configmaps", true⟩,
    ["cm", "configmap", "configmaps", "config-map", "config-maps"]⟩,
  ⟨⟨"", "v1", "PersistentVolumeClaim", "persistentvolumeclaims", true⟩,
    ["pvc", "persistentvolumeclaim", "persistentvolumeclaims", "persistent-volume-claim",
       "persistent-volume-claims"]⟩,
  ⟨⟨"", "v1", "Secret", "secrets", true⟩,
    ["secret", "secrets"]⟩,
  ⟨⟨"storage.k8s.io", "v1", "StorageClass", "storageclasses", false⟩,
    ["sc", "storageclass", "storageclasses", "storage-class", "storage-classes"]⟩,
  ⟨⟨"", "v1", "PersistentVolume", "persistentvolumes", false⟩,
    ["pv", "persistentvolume", "persistentvolumes", "persistent-volume", "persistent-volumes"]⟩,
  ⟨⟨"", "v1", "ServiceAccount", "serviceaccounts", true⟩,
    ["sa", "serviceaccount", "serviceaccounts", "service-account", "service-accounts"]⟩,
  ⟨⟨"rbac.authorization.k8s.io", "v1", "Role", "roles", true⟩,
    ["role", "roles"]⟩,
  ⟨⟨"rbac.authorization.k8s.io", "v1", "RoleBinding", "rolebindings", true⟩,
    ["rb", "rolebinding", "rolebindings", "role-binding", "role-bindings"]⟩,
  ⟨⟨"rbac.authorization.k8s.io", "v1", "ClusterRole", "clusterroles", false⟩,
    ["crole", "clusterrole", "clusterroles", "cluster-role", "cluster-roles"]⟩,
  ⟨⟨"rbac.authorization.k8s.io", "v1", "ClusterRoleBinding", "clusterrolebindings", false⟩,
    ["crb", "clusterrolebinding", "clusterrolebindings", "cluster-role-binding",
       "cluster-role-bindings"]⟩,
  ⟨⟨"networking.k8s.io", "v1", "NetworkPolicy", "networkpolicies", true⟩,
    ["np", "networkpolicy", "networkpolicies", "network-policy", "network-policies"]⟩,
  ⟨⟨"", "v1", "Node", "nodes", false⟩,
    ["node", "nodes", "no"]⟩,
  ⟨⟨"", "v1", "Event", "events", true⟩,
    ["event", "events", "ev"]⟩,
  ⟨⟨"", "v1", "Namespace", "namespaces", false⟩,
    ["ns", "namespace", "namespaces"]⟩,
  ⟨⟨"apiextensions.k8s.io", "v1", "CustomResourceDefinition", "customresourcedefinitions", false⟩,
    ["crd", "crds", "customresourcedefinition", "customresourcedefinitions"]⟩]

def ofName? (name : String) : Option Known :=
  let name := Text.asciiLower (Text.trim name)
  known.find? (·.names.contains name)

def ofCoordinates? (group version plural : String) : Option ResourceKind :=
  if version.isEmpty || plural.isEmpty then none
  else
    let plural := Text.asciiLower plural
    let found := known.find? fun k =>
      k.kind.group == group && k.kind.version == version && k.kind.plural == plural
    some ((found.map (·.kind)).getD ⟨group, version, "", plural, true⟩)

def parse? (token : String) : Option ResourceKind :=
  match ofName? token with
  | some k => some k.kind
  | none =>
    match Text.splitOnChar '/' (Text.trim token) with
    | [version, plural] => ofCoordinates? "" version plural
    | [group, version, plural] => ofCoordinates? group version plural
    | _ => none

def apiVersion (k : ResourceKind) : String :=
  if k.group.isEmpty then k.version else k.group ++ "/" ++ k.version

def key (k : ResourceKind) : String := k.apiVersion ++ "/" ++ k.plural

def isResolved (k : ResourceKind) : Bool := !k.name.isEmpty

def title (k : ResourceKind) : String := if k.name.isEmpty then k.plural else k.name

end ResourceKind

end LiveTable
