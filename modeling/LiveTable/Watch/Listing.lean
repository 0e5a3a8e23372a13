import LiveTable.Json.Parser
import LiveTable.Watch.Basic

namespace LiveTable.Listing

def objects? : Json → Option (List Json)
  | .array items => some items
  | value =>
    match value.get? "items" with
    | some (.array items) => some items
    | _ => none

def ofText (text : String) : Listing :=
  match (Json.parse? text).bind objects? with
  | some found => .objects found
  | none => .failed ["no list of objects"]

end LiveTable.Listing
