import LiveTable.Number.Reading
import LiveTable.Yaml.Scalar

namespace LiveTable.Yaml

abbrev Bytes := List UInt8

def bytesOf (text : String) : Bytes := text.toUTF8.toList

inductive Token where
  | version (major minor : Nat)
  | tagPath (handle : String) (path : Bytes)
  | documentStart | documentEnd
  | sequenceStart | mappingStart | blockEnd
  | flowSequenceStart | flowSequenceEnd | flowMappingStart | flowMappingEnd
  | entry | comma | key | value
  | alias (name : String)
  | anchor (name : String)
  | tag (handle : String) (suffix : Bytes)
  | scalar (text : String) (isPlain : Bool)
deriving DecidableEq

-- A place where a key may have begun: its token and where it stands. In a block that has begun in
-- its column nothing but a key can stand there.
structure KeyStart where
  place : Nat
  line : Nat
  column : Nat
  index : Nat
  required : Bool

-- The tokens so far, last first, and their number. Blocks and brackets that are open are kept
-- innermost first.
structure Scanner where
  cursor : Cursor
  tokens : List Token := []
  count : Nat := 0
  blocks : List Nat := []
  -- Where a key may have begun, for every open bracket and last outside of them.
  keys : List (Option KeyStart) := [none]
  keyAllowed : Bool := true

namespace Scanner

def inFlow (s : Scanner) : Bool := s.keys.length > 1

def emit (s : Scanner) (t : Token) : Scanner :=
  { s with tokens := t :: s.tokens, count := s.count + 1 }

def emitAll (s : Scanner) (tokens : List Token) : Scanner := tokens.foldl emit s

def margin (s : Scanner) : Nat :=
  match s.blocks with
  | [] => 0
  | column :: _ => column + 1

-- Blanks, comments and line breaks; a tab does not count as one where a key may begin. A byte order
-- mark at the very beginning takes up a column.
def toToken : Nat → Scanner → Scanner
  | 0, s => s
  | fuel + 1, s =>
    let tabs := s.inFlow || !s.keyAllowed
    let marked := s.cursor.index = 0 && s.cursor.rest.head? = some '\ufeff'
    let c := if marked then s.cursor.skip 1 else s.cursor
    let c := (c.takeClass fun x => x = ' ' || (tabs && x = '\t')).2
    let c := if c.rest.head? = some '#' then (c.takeClass fun x => !isBreak x).2 else c
    if startsWithBreak c.rest then
      toToken fuel { s with cursor := c.skip 1, keyAllowed := s.keyAllowed || !s.inFlow }
    else { s with cursor := c }

def closeFrom (column : Nat) : List Nat → List Nat × List Token
  | [] => ([], [])
  | b :: rest =>
    if column < b then
      let (blocks, tokens) := closeFrom column rest
      (blocks, .blockEnd :: tokens)
    else (b :: rest, [])

def closeBlocks (s : Scanner) : Scanner :=
  if s.inFlow then s
  else
    let (blocks, tokens) := closeFrom s.cursor.column s.blocks
    { s.emitAll tokens with blocks := blocks }

def closeAll (s : Scanner) : Scanner :=
  if s.inFlow then s
  else { s.emitAll (s.blocks.map fun _ => .blockEnd) with blocks := [] }

def insertAt (s : Scanner) (place : Nat) (tokens : List Token) : Scanner :=
  let later := s.count - place
  { s with
    tokens := s.tokens.take later ++ (tokens.reverse ++ s.tokens.drop later)
    count := s.count + tokens.length }

def openBlock (s : Scanner) (column place : Nat) (start : Token) : Scanner :=
  if s.inFlow || s.blocks.head?.any (column ≤ ·) then s
  else { s.insertAt place [start] with blocks := column :: s.blocks }

def isStale (s : Scanner) (k : KeyStart) : Bool :=
  k.line < s.cursor.line || k.index + 1024 < s.cursor.index

def dropStale? (s : Scanner) : Option Scanner :=
  if s.keys.any fun k => k.any fun k => k.required && s.isStale k then none
  else some { s with keys := s.keys.map fun k => k.filter (!s.isStale ·) }

def dropKey? (s : Scanner) : Option Scanner :=
  match s.keys with
  | some k :: rest => if k.required then none else some { s with keys := none :: rest }
  | _ => some s

def noteKey? (s : Scanner) : Option Scanner :=
  if !s.keyAllowed then some s
  else do
    let required := !s.inFlow && s.blocks.head? = some s.cursor.column
    let key : KeyStart :=
      ⟨s.count, s.cursor.line, s.cursor.column, s.cursor.index, required⟩
    let s ← s.dropKey?
    return { s with keys := some key :: s.keys.drop 1 }

def mark (s : Scanner) (size : Nat) (t : Token) : Scanner :=
  { s.emit t with cursor := s.cursor.skip size }

def openFlow? (s : Scanner) (t : Token) : Option Scanner := do
  let s ← s.noteKey?
  return { s.mark 1 t with keys := none :: s.keys, keyAllowed := true }

def closeFlow? (s : Scanner) (t : Token) : Option Scanner := do
  let s ← s.dropKey?
  return { s.mark 1 t with keys := if s.inFlow then s.keys.drop 1 else s.keys, keyAllowed := false }

def comma? (s : Scanner) : Option Scanner := do
  let s ← s.dropKey?
  return { s.mark 1 .comma with keyAllowed := true }

def blockMark? (s : Scanner) (start : Token) : Option Scanner :=
  if s.inFlow then some s
  else if s.keyAllowed then some (s.openBlock s.cursor.column s.count start)
  else none

def entry? (s : Scanner) : Option Scanner := do
  let s ← s.blockMark? .sequenceStart
  let s ← s.dropKey?
  return { s.mark 1 .entry with keyAllowed := true }

def explicitKey? (s : Scanner) : Option Scanner := do
  let s ← s.blockMark? .mappingStart
  let s ← s.dropKey?
  return { s.mark 1 .key with keyAllowed := !s.inFlow }

-- A colon: what began at the noted place is a key, else an explicit key has gone before.
def value? (s : Scanner) : Option Scanner :=
  match s.keys with
  | some k :: rest =>
    let s := (s.insertAt k.place [.key]).openBlock k.column k.place .mappingStart
    some { s.mark 1 .value with keys := none :: rest, keyAllowed := false }
  | _ => do
    let s ← s.blockMark? .mappingStart
    return { s.mark 1 .value with keyAllowed := !s.inFlow }

def name? (c : Cursor) : Option (String × Cursor) :=
  let (name, next) := c.takeClass isNameChar
  let ended := atWordEnd next.rest || next.rest.head?.any ("?:,]\x7d%@".toList.contains ·) ||
    next.rest.head? = some '\x60'
  if name.isEmpty || !ended then none else some (String.ofList name, next)

def named? (s : Scanner) (token : String → Token) : Option Scanner := do
  let s ← s.noteKey?
  let (name, c) ← name? (s.cursor.skip 1)
  return { s.emit (token name) with cursor := c, keyAllowed := false }

def isPathChar (c : Char) : Bool := isNameChar c || ";/?:@&=+$.!~*'()%".toList.contains c

def followers? (b : UInt8) : Option Nat :=
  if b < 0x80 then some 0
  else if b < 0xc0 then none
  else if b < 0xe0 then some 1
  else if b < 0xf0 then some 2
  else if b < 0xf8 then some 3
  else none

def owedAfter? (owed : Nat) (b : UInt8) : Option Nat :=
  if owed = 0 then followers? b
  else if 0x80 ≤ b && b < 0xc0 then some (owed - 1)
  else none

def pathBytes : Nat → List Char → Option Bytes
  | owed, [] => if owed = 0 then some [] else none
  | owed, '%' :: a :: b :: rest => do
    let byte := UInt8.ofNat (← hexNumber? [a, b])
    return byte :: (← pathBytes (← owedAfter? owed byte) rest)
  | owed, c :: rest =>
    if c = '%' || owed != 0 then none else (pathBytes 0 rest).map (UInt8.ofNat c.toNat :: ·)

def pathIfAny? (flowMarks : Bool) (c : Cursor) : Option (Bytes × Cursor) := do
  let (found, next) := c.takeClass fun x => isPathChar x || (flowMarks && (x = ',' || x = '[' || x = ']'))
  let bytes ← pathBytes 0 found
  return (bytes.takeWhile (· != 0), next)

def path? (flowMarks : Bool) (c : Cursor) : Option (Bytes × Cursor) := do
  let (path, next) ← pathIfAny? flowMarks c
  if next.index = c.index then none else return (path, next)

def handle (c : Cursor) : String × Cursor :=
  let (name, next) := (c.skip 1).takeClass isNameChar
  if next.rest.head? = some '!' then (String.ofList ('!' :: name ++ ['!']), next.skip 1)
  else (String.ofList ('!' :: name), next)

def tagParts? (c : Cursor) : Option ((String × Bytes) × Cursor) :=
  if (c.rest.drop 1).head? = some '<' then do
    let (path, c) ← path? true (c.skip 2)
    if c.rest.head? != some '>' then none
    return (("", path), c.skip 1)
  else
    let (start, next) := handle c
    let closed := start.length > 1 && start.toList.getLast? = some '!'
    if closed then (path? false next).map fun (path, c) => ((start, path), c)
    else do
      let (path, c) ← pathIfAny? false next
      let suffix := bytesOf (String.ofList (start.toList.drop 1)) ++ path
      return (if suffix.isEmpty then ("", bytesOf "!") else ("!", suffix), c)

def tag? (s : Scanner) : Option Scanner := do
  let s ← s.noteKey?
  let ((handle, suffix), c) ← tagParts? s.cursor
  if atWordEnd c.rest || (s.inFlow && c.rest.head? = some ',') then
    return { s.emit (.tag handle suffix) with cursor := c, keyAllowed := false }
  else none

def quotedScalar? (s : Scanner) (quote : Char) : Option Scanner := do
  let s ← s.noteKey?
  let (text, c) ← quoted? quote (s.cursor.skip 1)
  return { s.emit (.scalar (String.ofList text) false) with cursor := c, keyAllowed := false }

def plainScalar? (s : Scanner) : Option Scanner := do
  let s ← s.noteKey?
  let p ← plain? s.inFlow s.margin s.cursor
  return { s.emit (.scalar (String.ofList p.text) true) with
    cursor := p.cursor, keyAllowed := p.atLineStart }

def blockScalar? (s : Scanner) (literal : Bool) : Option Scanner := do
  let s ← s.dropKey?
  let (text, c) ← block? literal s.blocks.head? (s.cursor.skip 1)
  return { s.emit (.scalar (String.ofList text) false) with cursor := c, keyAllowed := true }

def documentMark? (s : Scanner) (t : Token) : Option Scanner := do
  let s ← s.closeAll.dropKey?
  return { s.mark 3 t with keyAllowed := false }

def number? (c : Cursor) : Option (Nat × Cursor) :=
  let (digits, next) := c.takeClass Reading.isDigit
  if digits.isEmpty || digits.length > 9 then none else some (Reading.natOfDigits digits, next)

def versionParts? (c : Cursor) : Option (Token × Cursor) := do
  let (major, c) ← number? c
  if c.rest.head? != some '.' then none
  let (minor, c) ← number? (c.skip 1)
  return (.version major minor, c)

def tagPathParts? (c : Cursor) : Option (Token × Cursor) := do
  if c.rest.head? != some '!' then none
  let (name, c) := handle c
  if (name != "!" && name.toList.getLast? != some '!') || !c.rest.head?.any isBlank then none
  let (path, c) ← path? true c.skipBlanks
  if !atWordEnd c.rest then none
  return (.tagPath name path, c)

def directive? (s : Scanner) : Option Scanner := do
  let s ← s.closeAll.dropKey?
  let (name, c) := (s.cursor.skip 1).takeClass isNameChar
  if !atWordEnd c.rest then none
  let c := c.skipBlanks
  let (token, c) ← match String.ofList name with
    | "YAML" => versionParts? c
    | "TAG" => tagPathParts? c
    | _ => none
  let c ← c.lineEnd?
  return { s.emit token with cursor := c.skip 1, keyAllowed := false }

def beginsPlain (flow : Bool) (c : Char) (rest : List Char) : Bool :=
  if c = '-' then !rest.head?.any isBlank
  else if c = '?' || c = ':' then !flow && !atWordEnd rest
  else !("-?:,[]\x7b\x7d#&*!|>'\"%@".toList.contains c || c = '\x60' || isBlank c || isBreak c)

def next? (s : Scanner) (c : Char) (rest : List Char) : Option Scanner :=
  if s.cursor.column = 0 && c = '%' then s.directive?
  else if s.cursor.atMark '-' then s.documentMark? .documentStart
  else if s.cursor.atMark '.' then s.documentMark? .documentEnd
  else if c = '[' then s.openFlow? .flowSequenceStart
  else if c = '{' then s.openFlow? .flowMappingStart
  else if c = ']' then s.closeFlow? .flowSequenceEnd
  else if c = '}' then s.closeFlow? .flowMappingEnd
  else if c = ',' then s.comma?
  else if c = '-' && atWordEnd rest then s.entry?
  else if c = '?' && (s.inFlow || atWordEnd rest) then s.explicitKey?
  else if c = ':' && (s.inFlow || atWordEnd rest) then s.value?
  else if c = '*' then s.named? .alias
  else if c = '&' then s.named? .anchor
  else if c = '!' then s.tag?
  else if c = '|' && !s.inFlow then s.blockScalar? true
  else if c = '>' && !s.inFlow then s.blockScalar? false
  else if c = '\'' || c = '"' then s.quotedScalar? c
  else if beginsPlain s.inFlow c rest then s.plainScalar?
  else none

def scan? : Nat → Scanner → Option (List Token)
  | 0, _ => none
  | fuel + 1, s => do
    let s ← (toToken (s.cursor.left + 1) s).dropStale?
    let s := s.closeBlocks
    match s.cursor.rest with
    | [] => return (← s.closeAll.dropKey?).tokens.reverse
    | c :: rest => scan? fuel (← s.next? c rest)

end Scanner

def tokens? (text : String) : Option (List Token) :=
  let cs := unifyBreaks text.toList
  if cs.all isAllowed then Scanner.scan? (cs.length + 1) { cursor := .ofChars cs } else none

end LiveTable.Yaml
