import LiveTable.Calendar.Instant
import LiveTable.Json.Basic
import LiveTable.Number.Decimal
import LiveTable.Text.Base64

namespace LiveTable.Decode

abbrev Members := List (String × Json)

def text : Json → Option String := Json.string?

def flag : Json → Option Bool
  | .bool b => some b
  | _ => none

def whole (lo hi : Int) : Json → Option Int
  | .number (.int n) => if lo ≤ n && n ≤ hi then some n else none
  | _ => none

def int32 (v : Json) : Option Int32 := (whole Width.int32Min Width.int32Max v).map Int32.ofInt

def int64 : Json → Option Int := whole Width.int64Min Width.int64Max

def moment : Json → Option Int
  | .string s => Calendar.Instant.seconds? s
  | _ => none

def quantity : Json → Option String
  | .string s => some s
  | .number (.int n) => some (toString n)
  | .number (.float x) => some (Decimal.render Decimal.positional x)
  | _ => none

def bytes : Json → Option Unit
  | .string s => if Base64.isValid s then some () else none
  | .null => some ()
  | _ => none

def list {α : Type} (item : Json → Option α) : Json → Option (List α)
  | .array items => items.mapM item
  | _ => none

def map {α : Type} (value : Json → Option α) : Json → Option (List (String × α))
  | .object members => members.mapM fun (k, v) => (value v).map (k, ·)
  | _ => none

def record {α : Type} (read : Members → Option α) : Json → Option α
  | .object members => read members
  | _ => none

def anyRecord : Json → Option Unit := record fun _ => some ()

def optional {α : Type} (read : Json → Option α) (ms : Members) (key : String) : Option (Option α) :=
  match Json.lookup key ms with
  | none => some none
  | some .null => some none
  | some v => (read v).map some

def orElse {α : Type} (fallback : α) (read : Json → Option α) (ms : Members) (key : String) :
    Option α :=
  (optional read ms key).map (·.getD fallback)

def textOr (fallback : String) (ms : Members) (key : String) : Option String :=
  orElse fallback text ms key

def textOf (ms : Members) (key : String) : Option String := textOr "" ms key

def flagOf (ms : Members) (key : String) : Option Bool := orElse false flag ms key

def countOf (ms : Members) (key : String) : Option Int32 := orElse 0 int32 ms key

def listOf {α : Type} (item : Json → Option α) (ms : Members) (key : String) : Option (List α) :=
  orElse [] (list item) ms key

def mapOf {α : Type} (value : Json → Option α) (ms : Members) (key : String) :
    Option (List (String × α)) :=
  orElse [] (map value) ms key

def checked {α : Type} (read : Json → Option α) (ms : Members) (key : String) : Option Unit :=
  (optional read ms key).map fun _ => ()

def fixed (expected : String) (ms : Members) (key : String) : Option Unit :=
  match Json.lookup key ms with
  | none => some ()
  | some v => if v.string? = some expected then some () else none

end LiveTable.Decode
