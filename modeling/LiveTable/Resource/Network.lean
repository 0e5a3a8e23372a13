import LiveTable.Resource.Typed

namespace LiveTable

open Decode

def decodeBalancer (ms : Members) : Option (List String) := do
  let entries ← listOf (record fun entry => do
    return (← optional text entry "ip").or (← optional text entry "hostname")) ms "ingress"
  return entries.filterMap id

def decodeBalanced (ms : Members) : Option (List String) :=
  orElse [] (record decodeBalancer) ms "loadBalancer"

structure ServicePort where
  name : String
  port : Int32
  nodePort : Option Int32
  protocol : String
deriving DecidableEq, Inhabited

namespace ServicePort

def decode (ms : Members) : Option ServicePort := do
  return ⟨← textOf ms "name", ← countOf ms "port", ← optional int32 ms "nodePort",
    ← textOr "TCP" ms "protocol"⟩

def describe (p : ServicePort) : String :=
  (if p.name.isEmpty then "" else p.name ++ ":") ++ toString p.port ++
    ((p.nodePort.map fun n => "►" ++ toString n).getD "") ++
    (if p.protocol = "TCP" then "" else "/" ++ p.protocol)

end ServicePort

structure Service where
  metadata : Metadata
  type : String := "ClusterIP"
  clusterIP : String := ""
  externalIPs : List String := []
  externalName : Option String := none
  selector : List (String × String) := []
  ports : List ServicePort := []
  balanced : List String := []
deriving DecidableEq, Inhabited

namespace Service

def decodeSpec (service : Service) (ms : Members) : Option Service := do
  return { service with
    type := ← textOr "ClusterIP" ms "type"
    clusterIP := ← textOf ms "clusterIP"
    externalIPs := ← listOf text ms "externalIPs"
    externalName := ← optional text ms "externalName"
    selector := ← mapOf text ms "selector"
    ports := ← listOf (record ServicePort.decode) ms "ports" }

def decode (ms : Members) : Option Service := do
  let metadata ← Metadata.ofMembers ms
  let balanced ← orElse [] (record decodeBalanced) ms "status"
  let service : Service := { metadata, balanced }
  orElse service (record (decodeSpec service)) ms "spec"

def addresses (s : Service) : List String :=
  if s.type = "LoadBalancer" then s.balanced ++ s.externalIPs
  else if s.type = "ExternalName" then s.externalName.toList
  else s.externalIPs

def external (s : Service) : String :=
  if s.addresses.isEmpty then if s.type = "LoadBalancer" then "<pending>" else ""
  else ",".intercalate (s.addresses.mergeSort fun a b => compare a b != .gt)

def header : Header :=
  [.named namespaceName, .named nameName, .named "TYPE", .named "CLUSTER-IP", .named "EXTERNAL-IP",
    (Column.named "SELECTOR").widened, .named "PORTS", (Column.named labelsName).widened,
    (Column.named validName).widened, (Column.named ageName).timed]

def row (now : Int) (s : Service) : Row :=
  ⟨s.metadata.qualifiedId,
    [s.metadata.namespaceName,
      s.metadata.displayName,
      s.type,
      if s.clusterIP = "None" then "" else s.clusterIP,
      s.external,
      Labels.write s.selector,
      " ".intercalate (s.ports.map ServicePort.describe),
      Labels.write s.metadata.labels,
      "",
      Cell.age now s.metadata.created]⟩

def read : Json → Except ReadError Service := readTyped "Service" "v1" decode

def renderer : Renderer where
  header _ := header
  render now _ := Renderer.rendering read (some ∘ row now)

end Service

structure Ingress where
  metadata : Metadata
  className : String := ""
  hosts : List String := []
  encrypted : Bool := false
  balanced : List String := []
deriving DecidableEq, Inhabited

namespace Ingress

def decodeEncryption (ms : Members) : Option Unit := do
  checked (list text) ms "hosts"
  checked text ms "secretName"

def decodeSpec (ingress : Ingress) (ms : Members) : Option Ingress := do
  let rules ← listOf (record (optional text · "host")) ms "rules"
  let encryption ← listOf (record decodeEncryption) ms "tls"
  return { ingress with
    className := ← textOf ms "ingressClassName"
    hosts := rules.filterMap id
    encrypted := !encryption.isEmpty }

def decode (ms : Members) : Option Ingress := do
  let metadata ← Metadata.ofMembers ms
  let balanced ← orElse [] (record decodeBalanced) ms "status"
  let ingress : Ingress := { metadata, balanced }
  orElse ingress (record (decodeSpec ingress)) ms "spec"

def header : Header :=
  [.named namespaceName, .named nameName, .named "CLASS", .named "HOSTS", .named "ADDRESS",
    .named "PORTS", (Column.named labelsName).widened, (Column.named validName).widened,
    (Column.named ageName).timed]

def row (now : Int) (i : Ingress) : Row :=
  ⟨i.metadata.qualifiedId,
    [i.metadata.namespaceName,
      i.metadata.displayName,
      Cell.orMissing i.className,
      Cell.orMissing (",".intercalate i.hosts),
      ",".intercalate i.balanced,
      if i.encrypted then "80, 443" else "80",
      Labels.write i.metadata.labels,
      "",
      Cell.age now i.metadata.created]⟩

def read : Json → Except ReadError Ingress := readTyped "Ingress" "networking.k8s.io/v1" decode

def renderer : Renderer where
  header _ := header
  render now _ := Renderer.rendering read (some ∘ row now)

end Ingress

end LiveTable
