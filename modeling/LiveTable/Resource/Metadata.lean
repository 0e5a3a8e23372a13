import LiveTable.Cell.Elapsed
import LiveTable.Cell.Labels
import LiveTable.Json.Decode
import LiveTable.Scope

namespace LiveTable

structure Metadata where
  name : Option String := none
  generatedName : Option String := none
  namespaceName : String := ""
  labels : List (String × String) := []
  annotations : List (String × String) := []
  created : Option Int := none
  deleted : Option Int := none
deriving DecidableEq, Inhabited

namespace Metadata

open Decode

def decode (ms : Members) : Option Metadata := do
  checked (list text) ms "finalizers"
  checked int64 ms "generation"
  checked int64 ms "deletionGracePeriodSeconds"
  checked text ms "resourceVersion"
  checked text ms "selfLink"
  checked text ms "uid"
  checked (list anyRecord) ms "ownerReferences"
  checked (list anyRecord) ms "managedFields"
  return {
    name := ← optional text ms "name"
    generatedName := ← optional text ms "generateName"
    namespaceName := ← textOf ms "namespace"
    labels := ← mapOf text ms "labels"
    annotations := ← mapOf text ms "annotations"
    created := ← optional moment ms "creationTimestamp"
    deleted := ← optional moment ms "deletionTimestamp" }

def isDeleted (m : Metadata) : Bool := m.deleted.isSome

def annotation? (m : Metadata) (key : String) : Option String := m.annotations.lookup key

end Metadata

namespace Cell

def age (now : Int) : Option Int → String
  | some moment => Elapsed.describe (now - moment)
  | none => unknown

end Cell

end LiveTable
