import LiveTable.Json.Order
import LiveTable.Json.Printer
import LiveTable.Number.Reading
import LiveTable.Pattern.Parser
import LiveTable.Pattern.Reach
import LiveTable.Text.LetterCase
import LiveTable.Query.Filter.Basic
import LiveTable.Text.Quoted
import LiveTable.Text.Search

namespace LiveTable.Filter

inductive Key where
  | named (name : String)
  | other (kind : Json.Kind)
deriving DecidableEq

inductive Fault where
  | notIndexable (kind : Json.Kind) (key : Key)
  | notIterable (kind : Json.Kind)
  | notApplicable (f : Builtin) (kind : Json.Kind)
  | notAddable (left right : Json.Kind)
  | notSubtractable (left right : Json.Kind)
  | notANumber (text : String)
  | badPattern (text : String)
  | missingArgument (f : Builtin)
deriving DecidableEq

def Key.describe : Key → String
  | named name => Text.quoted name
  | other kind => kind.name

def Fault.message : Fault → String
  | notIndexable kind key => "cannot index " ++ kind.name ++ " with " ++ key.describe
  | notIterable kind => "cannot iterate over " ++ kind.name
  | notApplicable f kind => f.name ++ " cannot be applied to " ++ kind.name
  | notAddable left right => left.name ++ " and " ++ right.name ++ " cannot be added"
  | notSubtractable left right => left.name ++ " and " ++ right.name ++ " cannot be subtracted"
  | notANumber text => "cannot parse " ++ Text.quoted text ++ " as a number"
  | badPattern text => "invalid regex " ++ Text.quoted text
  | missingArgument f => f.name ++ " needs an argument"

-- A function without the argument that it needs stops the program; any other fault can be caught.
def Fault.stops : Fault → Bool
  | missingArgument _ => true
  | _ => false

structure Outcome where
  outputs : List Json
  fault : Option Fault
deriving Inhabited

namespace Outcome

def ok (outputs : List Json) : Outcome := ⟨outputs, none⟩

def fail (fault : Fault) : Outcome := ⟨[], some fault⟩

def stops (o : Outcome) : Bool := o.fault.any Fault.stops

def recovered (o : Outcome) : Outcome := if o.stops then o else ok o.outputs

def toExcept (o : Outcome) : Except Fault (List Json) :=
  match o.fault with
  | none => .ok o.outputs
  | some fault => .error fault

def ofExcept : Except Fault (List Json) → Outcome
  | .ok outputs => ok outputs
  | .error fault => fail fault

def andThen (first second : Outcome) : Outcome :=
  match first.fault with
  | none => ⟨first.outputs ++ second.outputs, second.fault⟩
  | some _ => first

def each (run : Json → Outcome) : List Json → Outcome
  | [] => ok []
  | v :: rest => (run v).andThen (each run rest)

def complete (o : Outcome) (next : List Json → Outcome) : Outcome :=
  match o.fault with
  | none => next o.outputs
  | some fault => fail fault

end Outcome

def single : Except Fault Json → Outcome
  | .ok v => .ok [v]
  | .error fault => .fail fault

def keyOf : Json → Key
  | .string s => .named s
  | v => .other v.kind

def itemAt (items : List Json) (x : Float) : Json :=
  let position := Binary64.floor Width.int64Min Width.int64Max x
  let position := if position < 0 then items.length + position else position
  if position < 0 then .null else items.getD position.toNat .null

def valueAt (value key : Json) : Except Fault Json :=
  match value, key with
  | .null, _ => .ok .null
  | .object members, .string name => .ok ((Json.lookup name members).getD .null)
  | .array items, .number n => .ok (itemAt items n.toFloat)
  | value, key => .error (.notIndexable value.kind (keyOf key))

def children : Json → Except Fault (List Json)
  | .array items => .ok items
  | .object members => .ok (members.map (·.2))
  | v => .error (.notIterable v.kind)

mutual

def descendants : Json → List Json
  | .array items => .array items :: descendantsOfItems items
  | .object members => .object members :: descendantsOfMembers members
  | v => [v]

def descendantsOfItems : List Json → List Json
  | [] => []
  | v :: rest => descendants v ++ descendantsOfItems rest

def descendantsOfMembers : List (String × Json) → List Json
  | [] => []
  | (_, v) :: rest => descendants v ++ descendantsOfMembers rest

end

def sum (left right : Json) : Except Fault Json :=
  match left, right with
  | .null, v => .ok v
  | v, .null => .ok v
  | .number m, .number n => .ok (Json.ofFloat (m.toFloat + n.toFloat))
  | .string s, .string t => .ok (.string (s ++ t))
  | .array as, .array bs => .ok (.array (as ++ bs))
  | .object as, .object bs => .ok (.object (bs.foldl (fun acc (k, v) => Keyed.insert k v acc) as))
  | a, b => .error (.notAddable a.kind b.kind)

def difference (left right : Json) : Except Fault Json :=
  match left, right with
  | .number m, .number n => .ok (Json.ofFloat (m.toFloat - n.toFloat))
  | .array as, .array bs => .ok (.array (as.filter fun a => !bs.any a.same))
  | a, b => .error (.notSubtractable a.kind b.kind)

mutual

def contains : Json → Json → Bool
  | .string text, .string part => Text.contains part text
  | .array items, .array parts => parts.all (containsItem items)
  | .object members, .object parts => parts.all fun (key, part) => containsMember members key part
  | a, b => a.same b

def containsItem : List Json → Json → Bool
  | [], _ => false
  | item :: rest, part => contains item part || containsItem rest part

def containsMember : List (String × Json) → String → Json → Bool
  | [], _, _ => false
  | (k, v) :: rest, key, part => if k == key then contains v part else containsMember rest key part

end

def dropRepeatsAfter (last : Json) : List Json → List Json
  | [] => []
  | v :: rest => if last.same v then dropRepeatsAfter last rest else v :: dropRepeatsAfter v rest

def dropRepeats : List Json → List Json
  | [] => []
  | v :: rest => v :: dropRepeatsAfter v rest

def least? : List Json → Option Json
  | [] => none
  | v :: rest => some (rest.foldl (fun best v => if Json.order v best == .lt then v else best) v)

def greatest? : List Json → Option Json
  | [] => none
  | v :: rest => some (rest.foldl (fun best v => if Json.order v best == .lt then best else v) v)

def readNumber (text : String) : Except Fault Json :=
  match Reading.float? (Text.trim text) with
  | some x => .ok (Json.ofFloat x)
  | none => .error (.notANumber text)

def entry (key : String) (value : Json) : Json := .object [("key", .string key), ("value", value)]

def sumOf (items : List Json) : Except Fault Json := items.foldlM sum .null

def applyPlain (f : Builtin) (input : Json) : Except Fault Json :=
  match f, input with
  | .length, .null => .ok (Json.nat 0)
  | .length, .string s => .ok (Json.nat s.length)
  | .length, .array items => .ok (Json.nat items.length)
  | .length, .object members => .ok (Json.nat members.length)
  | .length, .number n => .ok (Json.ofFloat n.toFloat.abs)
  | .keys, .object members => .ok (.array (members.map (.string ·.1)))
  | .keys, .array items => .ok (.array ((List.range items.length).map Json.nat))
  | .first, .array items => .ok (items.headD .null)
  | .last, .array items => .ok (items.getLastD .null)
  | .not, v => .ok (.bool !v.truthy)
  | .tostring, .string s => .ok (.string s)
  | .tostring, v => .ok (.string v.render)
  | .tonumber, .number n => .ok (.number n)
  | .tonumber, .string s => readNumber s
  | .asciiDowncase, .string s => .ok (.string (Text.asciiLower s))
  | .asciiUpcase, .string s => .ok (.string (Text.asciiUpper s))
  | .toEntries, .object members => .ok (.array (members.map fun (k, v) => entry k v))
  | .add, .array items => sumOf items
  | .sort, .array items => .ok (.array (Json.sorted items))
  | .unique, .array items => .ok (.array (dropRepeats (Json.sorted items)))
  | .min, .array items => .ok ((least? items).getD .null)
  | .max, .array items => .ok ((greatest? items).getD .null)
  | .type, v => .ok (.string v.kind.name)
  | f, v => .error (.notApplicable f v.kind)

def joinPart : Json → Except Fault String
  | .null => .ok ""
  | .string s => .ok s
  | .number n => .ok (Json.renderNumber n)
  | .bool b => .ok (if b then "true" else "false")
  | v => .error (.notApplicable .join v.kind)

def testPattern (text pattern : String) : Except Fault Json :=
  match Pattern.parse? false pattern with
  | some p => .ok (.bool (p.occursIn text))
  | none => .error (.badPattern pattern)

def applyTo (f : Builtin) (input arg : Json) : Except Fault Json :=
  match f, input, arg with
  | .join, .array items, .string separator =>
    (items.mapM joinPart).map fun parts => .string (separator.intercalate parts)
  | .has, .object members, .string key => .ok (.bool (Json.lookup key members).isSome)
  | .has, .array items, .number n => .ok (.bool (n.index?.any (· < items.length)))
  | .split, .string text, .string separator =>
    .ok (.array ((Text.split separator text).map .string))
  | .contains, v, part => .ok (.bool (contains v part))
  | .test, .string text, .string pattern => testPattern text pattern
  | .startswith, .string text, .string start => .ok (.bool (Text.startsWith start text))
  | .endswith, .string text, .string ending => .ok (.bool (Text.endsWith ending text))
  | f, v, _ => .error (.notApplicable f v.kind)

def applyCall (f : Builtin) (arg : Json → Outcome) (input : Json) : Outcome :=
  match f, input with
  | .select, v => (arg v).complete fun vs => .ok (if vs.any Json.truthy then [v] else [])
  | .map, .array items =>
    (Outcome.each arg items).complete fun vs => .ok [.array vs]
  | .map, v => .fail (.notApplicable .map v.kind)
  | .first, v => (arg v).complete fun vs => .ok vs.head?.toList
  | .last, v => (arg v).complete fun vs => .ok vs.getLast?.toList
  | f, v => (arg v).complete fun vs => (Outcome.each (fun a => single (applyTo f v a)) vs).complete .ok

def applyAlone (f : Builtin) (input : Json) : Outcome :=
  match f with
  | .empty => .ok []
  | .select | .map | .join | .has | .split | .contains | .test | .startswith | .endswith =>
    .fail (.missingArgument f)
  | f => single (applyPlain f input)

def decideBy (decided : Bool) (right : Outcome) (left : Json) : Outcome :=
  if left.truthy == decided then .ok [.bool decided]
  else right.complete fun vs => .ok (vs.map fun v => .bool v.truthy)

def pairwise (f : Json → Json → Except Fault Json) (lefts rights : List Json) : Outcome :=
  Outcome.each (fun l => Outcome.each (fun r => single (f l r)) rights) lefts

def operate (op : Operator) (left right : Json → Outcome) (input : Json) : Outcome :=
  match op with
  | .pipe => (left input).complete (Outcome.each right)
  | .comma => (left input).andThen (right input)
  | .alternative =>
    let l := left input
    let kept := if l.fault.isSome then [] else l.outputs.filter Json.truthy
    if l.stops then l else if kept.isEmpty then right input else .ok kept
  | .and => (left input).complete (Outcome.each (decideBy false (right input)))
  | .or => (left input).complete (Outcome.each (decideBy true (right input)))
  | .compare c =>
    (right input).complete fun rights =>
      (left input).complete fun lefts =>
        pairwise (fun l r => .ok (.bool (c.holds (Json.order l r)))) lefts rights
  | .add =>
    (right input).complete fun rights => (left input).complete fun lefts => pairwise sum lefts rights
  | .subtract =>
    (right input).complete fun rights =>
      (left input).complete fun lefts => pairwise difference lefts rights

def run : Filter → Json → Outcome
  | .identity, input => .ok [input]
  | .recurse, input => .ok (descendants input)
  | .literal v, _ => .ok [v]
  | .field base name, input =>
    (run base input).complete (Outcome.each fun v => single (valueAt v (.string name)))
  | .index base position, input =>
    (run position input).complete fun positions =>
      (run base input).complete fun values => pairwise valueAt values positions
  | .iterate base, input => (run base input).complete (Outcome.each fun v => .ofExcept (children v))
  | .attempt inner, input => (run inner input).recovered
  | .emptyArray, _ => .ok [.array []]
  | .collect inner, input => (run inner input).complete fun vs => .ok [.array vs]
  | .binary op left right, input => operate op (run left) (run right) input
  | .call f [], input => applyAlone f input
  | .call f (arg :: _), input => applyCall f (run arg) input

def evaluate (filter : Filter) (input : Json) : Except Fault (List Json) := (run filter input).toExcept

end LiveTable.Filter
