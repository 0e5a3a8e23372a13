import LiveTable.Keyed
import LiveTable.Yaml.Token

namespace LiveTable.Yaml

inductive Node where
  | scalar (text : String) (isPlain : Bool) (tag : Option Bytes)
  | sequence (items : List Node)
  | mapping (entries : List (Node × Node))
  | alias (number : Nat)
deriving Inhabited

namespace Node

def empty : Node := .scalar "" true none

mutual

def size : Node → Nat
  | .scalar _ _ _ => 1
  | .alias _ => 1
  | .sequence items => sizeOfItems items + 2
  | .mapping entries => sizeOfEntries entries + 2

def sizeOfItems : List Node → Nat
  | [] => 0
  | item :: rest => item.size + sizeOfItems rest

def sizeOfEntries : List (Node × Node) → Nat
  | [] => 0
  | (key, value) :: rest => key.size + value.size + sizeOfEntries rest

end

end Node

structure Document where
  root : Node
  targets : List (Nat × Node)

-- The tokens to come and the count of those that went before; the numbers of names, the places of
-- numbers and the nodes of places; the paths of tag handles.
structure Reading where
  tokens : List Token
  place : Nat := 0
  numbers : List (String × Nat) := []
  places : List (Nat × Nat) := []
  nodes : List (Nat × Node) := []
  tagPaths : List (String × Bytes) := []

abbrev NodeParser (α : Type) := StateT Reading Option α

namespace NodeParser

def fail {α : Type} : NodeParser α := StateT.lift none

def peek : NodeParser (Option Token) := return (← get).tokens.head?

def advance : NodeParser Unit := modify fun r => { r with tokens := r.tokens.drop 1, place := r.place + 1 }

def atAny (tokens : List (Option Token)) : NodeParser Bool := return tokens.contains (← peek)

def expect (t : Token) : NodeParser Unit := do
  if (← peek) = some t then advance else fail

def resolveTag (handle : String) (suffix : Bytes) : NodeParser Bytes := do
  if handle.isEmpty then return suffix
  match (← get).tagPaths.lookup handle with
  | some path => return path ++ suffix
  | none => fail

def properties : NodeParser (Option Bytes × Option String) := do
  match ← peek with
  | some (.anchor name) =>
    advance
    match ← peek with
    | some (.tag handle suffix) => advance; return (some (← resolveTag handle suffix), some name)
    | _ => return (none, some name)
  | some (.tag handle suffix) =>
    advance
    let tag ← resolveTag handle suffix
    match ← peek with
    | some (.anchor name) => advance; return (some tag, some name)
    | _ => return (some tag, none)
  | _ => return (none, none)

-- Numbers the name of a node at the place of its first token. The number is the count of the names
-- before it, so that a name that comes again shares its number with the next new one; the later of two
-- places counts.
def openAnchor (name : String) : NodeParser Unit := modify fun r =>
  let number := r.numbers.length
  { r with
    numbers := Keyed.insert name number r.numbers
    places := (number, r.place) :: r.places }

def aliased (name : String) : NodeParser Node := do
  match (← get).numbers.lookup name with
  | some number => return .alias number
  | none => fail

mutual

def node : Nat → (block bare : Bool) → NodeParser Node
  | 0, _, _ => fail
  | fuel + 1, block, bare => do
    match ← peek with
    | some (.alias name) => advance; aliased name
    | _ =>
      let (tag, name) ← properties
      let place := (← get).place
      name.forM openAnchor
      let found ← content fuel block bare tag (tag.isSome || name.isSome)
      if name.isSome then modify fun r => { r with nodes := (place, found) :: r.nodes }
      return found

def content : Nat → (block bare : Bool) → Option Bytes → Bool → NodeParser Node
  | 0, _, _, _, _ => fail
  | fuel + 1, block, bare, tag, described => do
    match ← peek, block, bare with
    | some .entry, _, true => return .sequence (← bareEntries fuel)
    | some (.scalar text isPlain), _, _ =>
      advance
      return .scalar text isPlain (tag.filter (· != bytesOf "!"))
    | some .flowSequenceStart, _, _ => advance; return .sequence (← flowItems fuel true)
    | some .flowMappingStart, _, _ => advance; return .mapping (← flowEntries fuel true)
    | some .sequenceStart, true, _ => advance; return .sequence (← blockItems fuel)
    | some .mappingStart, true, _ => advance; return .mapping (← blockEntries fuel)
    | _, _, _ => if described then return .scalar "" true tag else fail

def blockNode : Nat → List (Option Token) → (bare : Bool) → NodeParser Node
  | 0, _, _ => fail
  | fuel + 1, ends, bare => do
    if ← atAny ends then return .empty else node fuel true bare

def blockItems : Nat → NodeParser (List Node)
  | 0 => fail
  | fuel + 1 => do
    match ← peek with
    | some .entry =>
      advance
      let item ← blockNode fuel [some .entry, some .blockEnd] false
      return item :: (← blockItems fuel)
    | some .blockEnd => advance; return []
    | _ => fail

def bareEntries : Nat → NodeParser (List Node)
  | 0 => fail
  | fuel + 1 => do
    match ← peek with
    | some .entry =>
      advance
      let item ← blockNode fuel [some .entry, some .key, some .value, some .blockEnd] false
      return item :: (← bareEntries fuel)
    | _ => return []

def blockValue : Nat → NodeParser Node
  | 0 => fail
  | fuel + 1 => do
    if (← peek) = some .value then
      advance
      blockNode fuel [some .key, some .value, some .blockEnd] true
    else return .empty

def blockEntries : Nat → NodeParser (List (Node × Node))
  | 0 => fail
  | fuel + 1 => do
    match ← peek with
    | some .key =>
      advance
      let key ← blockNode fuel [some .key, some .value, some .blockEnd] true
      let value ← blockValue fuel
      return (key, value) :: (← blockEntries fuel)
    | some .blockEnd => advance; return []
    | _ => fail

def flowNode : Nat → List (Option Token) → NodeParser Node
  | 0, _ => fail
  | fuel + 1, ends => do
    if ← atAny ends then return .empty else node fuel false false

def flowValue : Nat → Token → NodeParser Node
  | 0, _ => fail
  | fuel + 1, last => do
    if (← peek) = some .value then
      advance
      flowNode fuel [some .comma, some last]
    else return .empty

-- A single pair in a sequence. A missing key takes the token behind it along.
def flowPair : Nat → NodeParser Node
  | 0 => fail
  | fuel + 1 => do
    if ← atAny [some .value, some .comma, some .flowSequenceEnd] then
      advance
      return .mapping [(.empty, ← flowValue fuel .flowSequenceEnd)]
    else
      let key ← node fuel false false
      return .mapping [(key, ← flowValue fuel .flowSequenceEnd)]

def flowItems : Nat → (first : Bool) → NodeParser (List Node)
  | 0, _ => fail
  | fuel + 1, first => do
    if (← peek) = some .flowSequenceEnd then advance; return []
    if !first then expect .comma
    match ← peek with
    | some .flowSequenceEnd => advance; return []
    | some .key =>
      advance
      let pair ← flowPair fuel
      return pair :: (← flowItems fuel false)
    | _ =>
      let item ← node fuel false false
      return item :: (← flowItems fuel false)

def flowEntries : Nat → (first : Bool) → NodeParser (List (Node × Node))
  | 0, _ => fail
  | fuel + 1, first => do
    if (← peek) = some .flowMappingEnd then advance; return []
    if !first then expect .comma
    match ← peek with
    | some .flowMappingEnd => advance; return []
    | some .key =>
      advance
      let key ← flowNode fuel [some .value, some .comma, some .flowMappingEnd]
      let value ← flowValue fuel .flowMappingEnd
      return (key, value) :: (← flowEntries fuel false)
    | _ =>
      let key ← node fuel false false
      return (key, .empty) :: (← flowEntries fuel false)

end

def directives : Nat → (versioned : Bool) → List String → NodeParser Bool
  | 0, _, _ => fail
  | fuel + 1, versioned, handles => do
    match ← peek with
    | some (.version major minor) =>
      if versioned || major != 1 || (minor != 1 && minor != 2) then fail
      advance
      directives fuel true handles
    | some (.tagPath handle path) =>
      if handles.contains handle then fail
      advance
      modify fun r => { r with tagPaths := (handle, path) :: r.tagPaths }
      directives fuel versioned (handle :: handles)
    | _ => return versioned || !handles.isEmpty

def document (fuel : Nat) : NodeParser (Option Node) := do
  let directed ← directives fuel false []
  match ← peek with
  | none => if directed then fail else return none
  | some .documentStart =>
    advance
    match ← peek with
    | none => return some .empty
    | some (.version _ _) => return some .empty
    | some (.tagPath _ _) => return some .empty
    | some .documentStart => return some .empty
    | some .documentEnd => return some .empty
    | _ => return some (← node fuel true false)
  | _ => if directed then fail else return some (← node fuel true false)

def onlyDocument (fuel : Nat) : NodeParser (Option Node) := do
  let found ← document fuel
  if ((← get).tokens.dropWhile (· == .documentEnd)).isEmpty then return found else fail

end NodeParser

def standardPaths : List (String × Bytes) :=
  [("!", bytesOf "!"), ("!!", bytesOf "tag:yaml.org,2002:")]

def document? (text : String) : Option Document := do
  let tokens ← tokens? text
  let start : Reading := { tokens, tagPaths := standardPaths }
  let (found, last) ← (NodeParser.onlyDocument (4 * tokens.length + 8)).run start
  let targets := last.places.filterMap fun (number, place) =>
    (last.nodes.lookup place).map (number, ·)
  return ⟨found.getD .empty, targets⟩

end LiveTable.Yaml
