import LiveTable.Cell.Age
import LiveTable.Cell.Quantity
import LiveTable.Query.Filter.Eval
import LiveTable.Query.Filter.Parser
import LiveTable.Query.Path.Parser
import LiveTable.Table.Column

namespace LiveTable

inductive Query where
  | path (p : Path)
  | filter (f : Filter)

namespace Query

inductive SyntaxError where
  | path (expr : String) (e : Path.SyntaxError)
  | filter (expr : String) (e : Filter.SyntaxError)

def SyntaxError.message : SyntaxError → String
  | path expr e => describe expr e.offset e.reason.message
  | filter expr e => describe expr e.offset e.reason.message
where
  describe (expr : String) (offset : Nat) (reason : String) : String :=
    "invalid query " ++ Text.quoted expr ++ " at offset " ++ toString offset ++ ": " ++ reason

def faultMessage : Filter.Fault → String
  | .badPattern text => (Filter.Fault.badPattern text).message
  | fault => "query evaluation failed: " ++ fault.message

def parenthesesClose (depth : Nat) : List Char → Bool
  | [] => true
  | '(' :: rest => parenthesesClose (depth + 1) rest
  | ')' :: rest => depth != 0 && parenthesesClose (depth - 1) rest
  | _ :: rest => parenthesesClose depth rest

def filterBody? (cs : List Char) : Option (List Char) :=
  match cs with
  | '(' :: rest =>
    if rest.getLast? == some ')' && parenthesesClose 0 rest.dropLast then some rest.dropLast else none
  | _ => none

def parseFilter (expr : String) : Except SyntaxError Query :=
  match Filter.parse expr with
  | .ok f => .ok (.filter f)
  | .error e => .error (.filter expr e)

def parsePath (expr : String) : Except SyntaxError Query :=
  match Path.parse expr with
  | .ok p => .ok (.path p)
  | .error e => .error (.path expr e)

def parse (raw : String) : Except SyntaxError Query :=
  let cs := Text.trimChars raw.toList
  match filterBody? cs with
  | some inner => parseFilter (String.ofList inner)
  | none => parsePath (String.ofList cs)

def isFilter : Query → Bool
  | filter _ => true
  | path _ => false

def evaluate (q : Query) (object : Json) : Except Filter.Fault (List Json) :=
  match q with
  | path p => .ok (p.find object)
  | filter f => f.evaluate object

def formatValue (now : Int) (column : Column) (value : Json) : String :=
  match value with
  | .null => Cell.missing
  | value =>
    let raw := (value.string?).getD value.render
    let amount := if column.capacity then Quantity.parse? raw else none
    let age := if column.time then Cell.ageOf? now raw else none
    match amount, age with
    | some x, _ => Quantity.showBytes (Binary64.round 0 Width.uint64Max x).toNat
    | none, some age => age
    | none, none => raw

def formatAll (now : Int) (column : Column) (q : Query) (values : List Json) : String :=
  let values := values.filter fun v => !(q.isFilter && v.isNull)
  if values.isEmpty then Cell.missing
  else ",".intercalate (values.map (formatValue now column))

def render (now : Int) (q : Query) (object : Json) (column : Column) : Except Filter.Fault String :=
  (q.evaluate object).map (formatAll now column q)

end Query

end LiveTable
