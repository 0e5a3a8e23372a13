import LiveTable.Number.Reading
import LiveTable.Query.Path.Basic
import LiveTable.Text.Blank
import LiveTable.Text.Quoted

namespace LiveTable.Path

inductive Reason where
  | emptyPath
  | unexpectedCharacter (c : Char)
  | danglingEscape
  | expectingName
  | expecting (c : Char)
  | expectingIndex
  | invalidIndex (text : String)
  | expectingLiteral
  | invalidLiteral (text : String)
  | unterminatedString
deriving DecidableEq

def Reason.message : Reason → String
  | emptyPath => "empty path"
  | unexpectedCharacter c => "unexpected character " ++ Text.quotedChar c
  | danglingEscape => "dangling escape"
  | expectingName => "expecting a field name"
  | expecting c => "expecting " ++ Text.quotedChar c
  | expectingIndex => "expecting an index, '*', a quoted key or a filter"
  | invalidIndex text => "invalid index " ++ Text.quoted text
  | expectingLiteral => "expecting a literal"
  | invalidLiteral text => "invalid literal " ++ Text.quoted text
  | unterminatedString => "unterminated string"

structure SyntaxError where
  offset : Nat
  reason : Reason

namespace Parser

def faultAt (stop : Nat) (rest : List Char) (reason : Reason) : SyntaxError :=
  ⟨stop - rest.length, reason⟩

def endsName (c : Char) : Bool := ".[] =!<>)".toList.contains c

def scanName (stop : Nat) : List Char → Except SyntaxError (List Char × List Char)
  | [] => .ok ([], [])
  | '\\' :: c :: rest => (scanName stop rest).map fun (name, rest) => (c :: name, rest)
  | '\\' :: [] => .error (faultAt stop ['\\'] .danglingEscape)
  | c :: rest =>
    if endsName c then .ok ([], c :: rest)
    else (scanName stop rest).map fun (name, rest) => (c :: name, rest)

def name (stop : Nat) (cs : List Char) : Except SyntaxError (String × List Char) := do
  let (found, rest) ← scanName stop cs
  if found.isEmpty then throw (faultAt stop rest .expectingName)
  return (String.ofList found, rest)

def child (stop : Nat) (cs : List Char) : Except SyntaxError (Step × List Char) :=
  match cs with
  | '*' :: rest => .ok (.children, rest)
  | cs => (name stop cs).map fun (found, rest) => (.child found, rest)

def scanQuoted (stop : Nat) (quote : Char) : List Char → Except SyntaxError (List Char × List Char)
  | [] => .error ⟨stop, .unterminatedString⟩
  | '\\' :: c :: rest => (scanQuoted stop quote rest).map fun (text, rest) => (c :: text, rest)
  | '\\' :: [] => .error ⟨stop + 1, .unterminatedString⟩
  | c :: rest =>
    if c = quote then .ok ([], rest)
    else (scanQuoted stop quote rest).map fun (text, rest) => (c :: text, rest)

def quoted (stop : Nat) (quote : Char) (cs : List Char) : Except SyntaxError (String × List Char) :=
  (scanQuoted stop quote cs).map fun (text, rest) => (String.ofList text, rest)

def skip (cs : List Char) : List Char := cs.dropWhile Text.isBlank

def expect (stop : Nat) (c : Char) (cs : List Char) : Except SyntaxError (List Char) :=
  match cs with
  | d :: rest => if d = c then .ok rest else .error (faultAt stop cs (.expecting c))
  | [] => .error (faultAt stop cs (.expecting c))

def integer (stop : Nat) (cs : List Char) : Except SyntaxError (Option Int × List Char) :=
  let (sign, unsigned) := match cs with
    | '-' :: rest => (['-'], rest)
    | cs => ([], cs)
  let text := sign ++ unsigned.takeWhile Reading.isDigit
  let rest := unsigned.dropWhile Reading.isDigit
  if text.isEmpty then .ok (none, rest)
  else
    match Reading.intOfChars? Width.int64Min Width.int64Max text with
    | some i => .ok (some i, rest)
    | none => .error (faultAt stop rest (.invalidIndex (String.ofList text)))

def indexOrSlice (stop : Nat) (cs : List Char) : Except SyntaxError (Step × List Char) := do
  let (first, rest) ← integer stop cs
  match skip rest, first with
  | ':' :: rest, first => do
    let (last, rest) ← integer stop (skip rest)
    return (.slice first last, rest)
  | rest, some i => return (.index i, rest)
  | rest, none => throw (faultAt stop rest .expectingIndex)

def comparison? : List Char → Option (Comparison × List Char)
  | '=' :: '=' :: rest => some (.eq, rest)
  | '!' :: '=' :: rest => some (.ne, rest)
  | '<' :: '=' :: rest => some (.le, rest)
  | '>' :: '=' :: rest => some (.ge, rest)
  | '<' :: rest => some (.lt, rest)
  | '>' :: rest => some (.gt, rest)
  | _ => none

def isLiteralChar (c : Char) : Bool := c.isAlphanum || c == '-' || c == '.' || c == '_'

def literalOfWord? : String → Option Literal
  | "true" => some (.bool true)
  | "false" => some (.bool false)
  | "null" => some .null
  | word => (Reading.float? word).map .number

def literal (stop : Nat) (cs : List Char) : Except SyntaxError (Literal × List Char) :=
  match cs with
  | '\'' :: rest => (quoted stop '\'' rest).map fun (text, rest) => (.text text, rest)
  | '"' :: rest => (quoted stop '"' rest).map fun (text, rest) => (.text text, rest)
  | cs =>
    let word := String.ofList (cs.takeWhile isLiteralChar)
    let rest := cs.dropWhile isLiteralChar
    if word.isEmpty then .error (faultAt stop rest .expectingLiteral)
    else
      match literalOfWord? word with
      | some found => .ok (found, rest)
      | none => .error (faultAt stop rest (.invalidLiteral word))

def test (stop : Nat) (cs : List Char) :
    Except SyntaxError (Option (Comparison × Literal) × List Char) :=
  match comparison? cs with
  | none => .ok (none, cs)
  | some (c, rest) => (literal stop (skip rest)).map fun (found, rest) => (some (c, found), rest)

mutual

def bracket (stop : Nat) : Nat → List Char → Except SyntaxError (Step × List Char)
  | 0, cs => .error (faultAt stop cs .expectingIndex)
  | fuel + 1, cs => do
    let (step, rest) ← bracketed stop fuel (skip cs)
    let rest ← expect stop ']' (skip rest)
    return (step, rest)

def bracketed (stop : Nat) : Nat → List Char → Except SyntaxError (Step × List Char)
  | 0, cs => .error (faultAt stop cs .expectingIndex)
  | fuel + 1, cs =>
    match cs with
    | '*' :: rest => .ok (.children, rest)
    | '\'' :: rest => (quoted stop '\'' rest).map fun (text, rest) => (.child text, rest)
    | '"' :: rest => (quoted stop '"' rest).map fun (text, rest) => (.child text, rest)
    | '?' :: rest => do
      let rest ← expect stop '(' rest
      let rest ← expect stop '@' (skip rest)
      let (path, rest) ← conditionPath stop fuel rest
      let (found, rest) ← test stop (skip rest)
      let rest ← expect stop ')' (skip rest)
      return (.matching path found, rest)
    | cs => indexOrSlice stop cs

def conditionPath (stop : Nat) : Nat → List Char → Except SyntaxError (List Step × List Char)
  | 0, cs => .error (faultAt stop cs .expectingIndex)
  | fuel + 1, cs =>
    match cs with
    | '.' :: rest => do
      let (step, rest) ← child stop rest
      let (more, rest) ← conditionPath stop fuel rest
      return (step :: more, rest)
    | '[' :: rest => do
      let (step, rest) ← bracket stop fuel rest
      let (more, rest) ← conditionPath stop fuel rest
      return (step :: more, rest)
    | cs => .ok ([], cs)

end

def steps (stop : Nat) : Nat → List Char → Except SyntaxError (List Step)
  | 0, cs => .error (faultAt stop cs .expectingName)
  | fuel + 1, cs =>
    match cs with
    | [] => .ok []
    | '.' :: '.' :: '*' :: rest => (steps stop fuel rest).map (.descend "*" :: ·)
    | '.' :: '.' :: rest => do
      let (found, rest) ← name stop rest
      return .descend found :: (← steps stop fuel rest)
    | '.' :: [] => .ok []
    | '.' :: '[' :: rest => steps stop fuel ('[' :: rest)
    | '.' :: rest => do
      let (step, rest) ← child stop rest
      return step :: (← steps stop fuel rest)
    | '[' :: rest => do
      let (step, rest) ← bracket stop fuel rest
      return step :: (← steps stop fuel rest)
    | c :: _ => .error (faultAt stop cs (.unexpectedCharacter c))

def startsWithStep (cs : List Char) : Bool := cs.head? == some '.' || cs.head? == some '['

def allSteps (cs : List Char) : Except SyntaxError (List Step) :=
  let stop := cs.length
  let fuel := 3 * cs.length + 3
  if startsWithStep cs then steps stop fuel cs
  else do
    let (step, rest) ← child stop cs
    return step :: (← steps stop fuel rest)

def body (expr : String) : List Char :=
  let cs := Text.trimChars expr.toList
  let cs := match cs with
    | '\x7b' :: inner =>
      if inner.getLast? == some '\x7d' then Text.trimChars inner.dropLast else cs
    | cs => cs
  match cs with
  | '$' :: rest => rest
  | cs => cs

end Parser

end LiveTable.Path

namespace LiveTable

def Path.parse (expr : String) : Except Path.SyntaxError Path :=
  let cs := Path.Parser.body expr
  if cs.isEmpty then .error ⟨0, .emptyPath⟩ else (Path.Parser.allSteps cs).map fun steps => ⟨steps⟩

end LiveTable
