import LiveTable.Resource.Typed

namespace LiveTable

open Decode

structure ConfigMap where
  metadata : Metadata
  entries : Nat
deriving DecidableEq, Inhabited

namespace ConfigMap

def decode (ms : Members) : Option ConfigMap := do
  checked flag ms "immutable"
  let data ← mapOf text ms "data"
  let binary ← mapOf bytes ms "binaryData"
  return ⟨← Metadata.ofMembers ms, data.length + binary.length⟩

def header : Header :=
  [.named namespaceName, .named nameName, (Column.named "DATA").onRight,
    (Column.named labelsName).widened, (Column.named validName).widened,
    (Column.named ageName).timed]

def row (now : Int) (c : ConfigMap) : Row :=
  ⟨c.metadata.qualifiedId,
    [c.metadata.namespaceName,
      c.metadata.displayName,
      toString c.entries,
      Labels.write c.metadata.labels,
      "",
      Cell.age now c.metadata.created]⟩

def read : Json → Except ReadError ConfigMap := readTyped "ConfigMap" "v1" decode

def renderer : Renderer where
  header _ := header
  render now _ := Renderer.rendering read (some ∘ row now)

end ConfigMap

structure Secret where
  metadata : Metadata
  type : String
  entries : Nat
deriving DecidableEq, Inhabited

namespace Secret

def decode (ms : Members) : Option Secret := do
  checked flag ms "immutable"
  let data ← mapOf bytes ms "data"
  let plain ← mapOf text ms "stringData"
  return ⟨← Metadata.ofMembers ms, ← textOr "Opaque" ms "type", data.length + plain.length⟩

def builtinPath : String := "kubernetes.io/"

def shortType (type : String) : String :=
  if Text.startsWith builtinPath type then String.ofList (type.toList.drop builtinPath.toList.length)
  else type

def header : Header :=
  [.named namespaceName, .named nameName, (Column.named "TYPE").decorated shortType,
    (Column.named "DATA").onRight, (Column.named labelsName).widened,
    (Column.named validName).widened, (Column.named ageName).timed]

def row (now : Int) (s : Secret) : Row :=
  ⟨s.metadata.qualifiedId,
    [s.metadata.namespaceName,
      s.metadata.displayName,
      s.type,
      toString s.entries,
      Labels.write s.metadata.labels,
      "",
      Cell.age now s.metadata.created]⟩

def read : Json → Except ReadError Secret := readTyped "Secret" "v1" decode

def renderer : Renderer where
  header _ := header
  render now _ := Renderer.rendering read (some ∘ row now)

end Secret

structure ServiceAccount where
  metadata : Metadata
  secrets : Nat
deriving DecidableEq, Inhabited

namespace ServiceAccount

def decode (ms : Members) : Option ServiceAccount := do
  checked flag ms "automountServiceAccountToken"
  let secrets ← listOf anyRecord ms "secrets"
  return ⟨← Metadata.ofMembers ms, secrets.length⟩

def header : Header :=
  [.named namespaceName, .named nameName, (Column.named "SECRET").onRight,
    (Column.named labelsName).widened, (Column.named validName).widened,
    (Column.named ageName).timed]

def row (now : Int) (a : ServiceAccount) : Row :=
  ⟨a.metadata.qualifiedId,
    [a.metadata.namespaceName,
      a.metadata.displayName,
      toString a.secrets,
      Labels.write a.metadata.labels,
      "",
      Cell.age now a.metadata.created]⟩

def read : Json → Except ReadError ServiceAccount := readTyped "ServiceAccount" "v1" decode

def renderer : Renderer where
  header _ := header
  render now _ := Renderer.rendering read (some ∘ row now)

end ServiceAccount

end LiveTable
