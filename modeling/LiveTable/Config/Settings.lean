import LiveTable.Keyed
import LiveTable.Theme.Basic
import LiveTable.Yaml.Decode

namespace LiveTable

structure ViewSettings where
  columns : List String := []
  sortColumn : Option String := none
deriving DecidableEq, Inhabited

structure Settings where
  theme : List (String × String) := []
  views : List (String × ViewSettings) := []
deriving DecidableEq, Inhabited

namespace Settings

open Yaml.Decoder

def viewOfNode (n : Yaml.Node) : Yaml.Decoder ViewSettings := do
  let ms ← members n
  return {
    columns := ← optional [] (fun n => do (← items n).mapM text) ["columns"] ms
    sortColumn := ← optional none textIfAny ["sortColumn", "sort_column"] ms }

def themeOfNode (n : Yaml.Node) : Yaml.Decoder (List (String × String)) := do
  let ms ← members n
  let colours ← Theme.slots.mapM fun (slot, _) =>
    return (slot, ← optional none textIfAny [slot] ms)
  return colours.filterMap fun (slot, colour) => colour.map (slot, ·)

def viewsOfNode (n : Yaml.Node) : Yaml.Decoder (List (String × ViewSettings)) := do
  let views ← (← members n).mapM fun (key, view) => return (key, ← viewOfNode view)
  return views.foldl (fun found (key, view) => Keyed.insert key view found) []

def ofNode (n : Yaml.Node) : Yaml.Decoder Settings := do
  let ms ← members n
  return {
    theme := ← optional [] themeOfNode ["theme"] ms
    views := ← optional [] viewsOfNode ["views"] ms }

def parse? (text : String) : Option Settings := do
  run ofNode (← Yaml.document? text)

end Settings

end LiveTable
