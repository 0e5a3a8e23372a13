import LiveTable.Arguments.Basic
import LiveTable.Number.Reading
import LiveTable.Text.Search

namespace LiveTable.Arguments

-- The settings so far, the switches that were used, and one that waits for its value or whose
-- value has not been looked at yet.
structure Reading where
  settings : Arguments := {}
  used : List Switch := []
  pending : Option (Switch × Option String) := none

namespace Reading

def setFlag (a : Arguments) : Switch → Except Stop Arguments
  | .allNamespaces => .ok { a with allNamespaces := true }
  | .wide => .ok { a with wide := true }
  | .once => .ok { a with once := true }
  | .help => .error .help
  | .version => .error .version
  | _ => .ok a

def setValue (a : Arguments) (value : String) : Switch → Except Stop Arguments
  | .refreshMs =>
    match LiveTable.Reading.uint64? value with
    | some n => .ok { a with refreshMs := n }
    | none => .error .invalidValue
  | .namespaceName => .ok { a with namespaceName := some value }
  | .kind => .ok { a with kind := value }
  | .columns => .ok { a with columns := a.columns ++ Text.splitOnChar ',' value }
  | .labels => .ok { a with labels := a.labels ++ Text.splitOnChar ',' value }
  | .sort => .ok { a with sort := some value }
  | .logFilter => .ok { a with logFilter := value }
  | .logFile => if value.isEmpty then .error .missingValue else .ok { a with logFile := some value }
  | _ => .ok a

def use (r : Reading) (s : Switch) : Except Stop Reading :=
  if r.used.contains s && !s.mayRepeat then .error .repeated
  else .ok { r with used := s :: r.used }

def give (r : Reading) (s : Switch) (value : String) : Except Stop Reading := do
  let r ← r.use s
  return { r with settings := ← setValue r.settings value s }

def settle (r : Reading) : Except Stop Reading :=
  match r.pending with
  | none => .ok r
  | some (_, none) => .error .missingValue
  | some (s, some value) => ({ r with pending := none } : Reading).give s value

def flag (r : Reading) (s : Switch) : Except Stop Reading := do
  let r ← r.settle
  let r ← r.use s
  return { r with settings := ← setFlag r.settings s }

def valued (r : Reading) (s : Switch) (attached : Option String) : Except Stop Reading := do
  let r ← r.settle
  match attached with
  | some value => r.give s value
  | none => return { r with pending := some (s, none) }

def long (r : Reading) (name : String) (attached : Option String) : Except Stop Reading :=
  match Switch.ofLong? name with
  | none => .error .unknownArgument
  | some s =>
    if s.takesValue then r.valued s attached
    else if attached.isSome then .error .unwantedValue
    else r.flag s

def attachedTo : List Char → Option String
  | [] => none
  | '=' :: value => some (String.ofList value)
  | value => some (String.ofList value)

def short (r : Reading) : List Char → Except Stop Reading
  | [] => .ok r
  | c :: rest =>
    match Switch.ofShort? c with
    | none => .error .unknownArgument
    | some s =>
      if s.takesValue then r.valued s (attachedTo rest)
      else
        match r.flag s with
        | .ok r => short r rest
        | .error stop => .error stop

def plain (r : Reading) (argument : String) : Except Stop Reading :=
  match r.pending with
  | some (s, none) => .ok { r with pending := some (s, some argument) }
  | _ => .error .unknownArgument

def splitLong (cs : List Char) : String × Option String :=
  match cs.dropWhile (· != '=') with
  | [] => (String.ofList cs, none)
  | _ :: value => (String.ofList (cs.takeWhile (· != '=')), some (String.ofList value))

def argument (r : Reading) (argument : String) : Except Stop Reading :=
  match argument.toList with
  | '-' :: '-' :: name => let (name, attached) := splitLong name; r.long name attached
  | '-' :: c :: rest => r.short (c :: rest)
  | _ => r.plain argument

def arguments (r : Reading) : List String → Except Stop Reading
  | [] => r.settle
  | "--" :: rest => if rest.isEmpty then r.settle else .error .unknownArgument
  | a :: rest => do
    let r ← r.argument a
    r.arguments rest

end Reading

def parse (arguments : List String) : Except Stop Arguments :=
  (({} : Reading).arguments arguments).map (·.settings)

end LiveTable.Arguments
