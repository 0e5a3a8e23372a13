import LiveTable.Query.Basic

namespace LiveTable

structure ColumnSpec where
  column : Column
  path : String
  query : Option Query

namespace ColumnSpec

inductive Error where
  | invalid (spec : String)
  | invalidName (spec name : String)
  | invalidQuery (name : String) (source : Query.SyntaxError)
  | duplicate (name : String)

def Error.message : Error → String
  | invalid spec => "invalid column definition " ++ Text.quoted spec
  | invalidName spec name => "invalid column name " ++ Text.quoted name ++ " in " ++ Text.quoted spec
  | invalidQuery name _ => "invalid query for column " ++ Text.quoted name
  | duplicate name => "duplicate column " ++ Text.quoted name

def Error.causes : Error → List String
  | invalidQuery name source => [(invalidQuery name source).message, source.message]
  | e => [e.message]

def isFlag (c : Char) : Bool := "NTWLRH".toList.contains c

def isNameChar (c : Char) : Bool := c.isAlphanum || " %/_-".toList.contains c

structure Scan where
  depth : Int
  quote : Option Char

def Scan.push (s : Scan) (c : Char) : Scan :=
  match s.quote with
  | some q => if c = q then { s with quote := none } else s
  | none =>
    if c = '\'' || c = '"' then { s with quote := some c }
    else if "([\x7b".toList.contains c then { s with depth := s.depth + 1 }
    else if ")]\x7d".toList.contains c then { s with depth := s.depth - 1 }
    else s

def Scan.isOutside (s : Scan) : Bool := s.quote.isNone && s.depth == 0

def splitLastBar? (s : Scan) : List Char → Option (List Char × List Char)
  | [] => none
  | c :: rest =>
    match splitLastBar? (s.push c) rest with
    | some (before, after) => some (c :: before, after)
    | none => if c = '|' && s.isOutside then some ([], rest) else none

def splitFlags (cs : List Char) : List Char × List Char :=
  match splitLastBar? ⟨0, none⟩ cs with
  | some (body, flags) => if flags.all isFlag then (body, flags) else (cs, [])
  | none => (cs, [])

def applyFlag (c : Column) : Char → Column
  | 'N' => { c with capacity := true, align := .right }
  | 'T' => { c with time := true }
  | 'W' => { c with wide := true }
  | 'R' => { c with align := .right }
  | 'H' => { c with hidden := true }
  | _ => { c with align := .left }

def applyFlags (c : Column) (flags : List Char) : Column := flags.foldl applyFlag c

def splitName (cs : List Char) : List Char × List Char :=
  (Text.trimChars (cs.takeWhile (· != ':')), Text.trimChars ((cs.dropWhile (· != ':')).drop 1))

def parse (raw : String) : Except Error ColumnSpec :=
  let (body, flags) := splitFlags (Text.trimChars raw.toList)
  let (name, path) := splitName body
  let column := applyFlags (Column.named (String.ofList name)) flags
  if name.isEmpty then .error (.invalid raw)
  else if !name.all isNameChar then .error (.invalidName raw (String.ofList name))
  else if path.isEmpty then .ok ⟨column, "", none⟩
  else
    match Query.parse (String.ofList path) with
    | .ok q => .ok ⟨column, String.ofList path, some q⟩
    | .error e => .error (.invalidQuery (String.ofList name) e)

def name (spec : ColumnSpec) : String := spec.column.name

end ColumnSpec

end LiveTable
