import LiveTable.Number.Width
import LiveTable.Pattern.Flags
import LiveTable.Text.Blank

namespace LiveTable.Pattern

abbrev Rest := List Char

def skipComments (inComment : Bool) : Rest → Rest
  | [] => []
  | c :: cs =>
    if inComment then skipComments (c != '\n') cs
    else if Text.isBlank c then skipComments false cs
    else if c == '#' then skipComments true cs
    else c :: cs

def skip (verbose : Bool) (cs : Rest) : Rest := if verbose then skipComments false cs else cs

def next (verbose : Bool) (cs : Rest) : Rest := skip verbose (cs.drop 1)

def firstShown (inComment : Bool) : Rest → Option Char
  | [] => none
  | c :: cs =>
    if Text.isBlank c then firstShown inComment cs
    else if !inComment && c == '#' then firstShown true cs
    else some c

def peek (verbose : Bool) (cs : Rest) : Option Char :=
  let after := cs.drop 1
  if verbose then (firstShown false after).orElse fun _ => after.head? else after.head?

def braced? (verbose : Bool) : (fuel : Nat) → Rest → Option (List Char × Rest)
  | 0, _ => none
  | fuel + 1, cs =>
    match next verbose cs with
    | [] => none
    | '\x7d' :: rest => some ([], '\x7d' :: rest)
    | c :: rest => (braced? verbose fuel (c :: rest)).map fun (found, rest) => (c :: found, rest)

inductive Escaped where
  | char (c : Char) (byte : Bool)
  | shorthand (name : Shorthand) (negated : Bool)
  | property (name : PropertyName) (negated : Bool)
  | assertion (a : Bool → Assertion)

def isMeta (c : Char) : Bool := "\\.+*?()|[]\x7b\x7d^$#&-~".toList.contains c

def isEscapable (c : Char) : Bool :=
  isMeta c || (c.toNat < 128 && !c.isAlphanum && c != '<' && c != '>')

def hexValue? (c : Char) : Option Nat :=
  if c.isDigit then some (c.toNat - '0'.toNat)
  else if 'a' ≤ c && c ≤ 'f' then some (c.toNat - 'a'.toNat + 10)
  else if 'A' ≤ c && c ≤ 'F' then some (c.toNat - 'A'.toNat + 10)
  else none

def charOfHex? (digits : List Char) : Option Char := do
  if digits.isEmpty then none
  let values ← digits.mapM hexValue?
  let n := values.foldl (fun n d => 16 * n + d) 0
  if n.isValidChar then some (Char.ofNat n) else none

def hexDigits? (verbose : Bool) : (count : Nat) → Rest → Option (List Char × Rest)
  | 0, cs => some ([], cs)
  | _ + 1, [] => none
  | count + 1, c :: cs => do
    let (digits, rest) ← hexDigits? verbose count (skip verbose cs)
    return (c :: digits, rest)

def hexEscape? (verbose : Bool) (count : Nat) (cs : Rest) : Option (Escaped × Rest) :=
  match next verbose cs with
  | '\x7b' :: rest => do
    let (digits, rest) ← braced? verbose (rest.length + 1) ('\x7b' :: rest)
    return (.char (← charOfHex? digits) false, next verbose rest)
  | cs => do
    let (digits, rest) ← hexDigits? verbose count cs
    return (.char (← charOfHex? digits) (count == 2), rest)

def cutAt? (sign : List Char) : List Char → Option (List Char × List Char)
  | [] => none
  | c :: cs =>
    if sign.isPrefixOf (c :: cs) then some ([], (c :: cs).drop sign.length)
    else (cutAt? sign cs).map fun (before, after) => (c :: before, after)

def propertyName (cs : List Char) : PropertyName :=
  match [['!', '='], [':'], ['=']].findSome? fun sign => cutAt? sign cs with
  | some (name, value) => .valued (String.ofList name) (String.ofList value)
  | none => .plain (String.ofList cs)

def propertyEscape? (verbose negated : Bool) (cs : Rest) : Option (Escaped × Rest) :=
  match next verbose cs with
  | [] => none
  | '\x7b' :: rest => do
    let (name, rest) ← braced? verbose (rest.length + 1) ('\x7b' :: rest)
    return (.property (propertyName name) negated, rest.drop 1)
  | c :: rest =>
    if c == '\\' then none
    else some (.property (.plain (String.singleton c)) negated, skip verbose rest)

def isBoundaryChar (c : Char) : Bool := c.isAlpha || c == '-'

def boundaries : List (String × (Bool → Assertion)) :=
  [("start", .wordStart), ("end", .wordEnd), ("start-half", .wordStartHalf), ("end-half", .wordEndHalf)]

def boundary? (verbose : Bool) (cs : Rest) : Option (Escaped × Rest) :=
  match cs with
  | '\x7b' :: rest =>
    if !(next verbose cs).head?.any isBoundaryChar then
      if (next verbose cs).isEmpty then none else some (.assertion .wordBoundary, cs)
    else do
      let (name, after) ← braced? verbose (rest.length + 1) cs
      let a ← boundaries.lookup (String.ofList name)
      return (.assertion a, after.drop 1)
  | cs => some (.assertion .wordBoundary, cs)

def escape? (verbose : Bool) : Rest → Option (Escaped × Rest)
  | [] => none
  | c :: cs =>
    let char (c : Char) : Option (Escaped × Rest) := some (.char c false, cs)
    match c with
    | 'd' => some (.shorthand .digit false, cs)
    | 'D' => some (.shorthand .digit true, cs)
    | 's' => some (.shorthand .blank false, cs)
    | 'S' => some (.shorthand .blank true, cs)
    | 'w' => some (.shorthand .word false, cs)
    | 'W' => some (.shorthand .word true, cs)
    | 'a' => char '\x07'
    | 'f' => char '\x0c'
    | 't' => char '\t'
    | 'n' => char '\n'
    | 'r' => char '\r'
    | 'v' => char '\x0b'
    | 'A' => some (.assertion fun _ => .textStart, cs)
    | 'z' => some (.assertion fun _ => .textEnd, cs)
    | 'b' => boundary? verbose cs
    | 'B' => some (.assertion .noWordBoundary, cs)
    | '<' => some (.assertion .wordStart, cs)
    | '>' => some (.assertion .wordEnd, cs)
    | 'x' => hexEscape? verbose 2 (c :: cs)
    | 'u' => hexEscape? verbose 4 (c :: cs)
    | 'U' => hexEscape? verbose 8 (c :: cs)
    | 'p' => propertyEscape? verbose false (c :: cs)
    | 'P' => propertyEscape? verbose true (c :: cs)
    | c => if isEscapable c then char c else none

def digits (verbose : Bool) : (fuel : Nat) → Rest → List Char × Rest
  | 0, cs => ([], cs)
  | fuel + 1, cs =>
    match cs with
    | c :: rest =>
      if c.isDigit then
        let (found, rest) := digits verbose fuel (skip verbose rest)
        (c :: found, rest)
      else ([], cs)
    | [] => ([], [])

def decimal? (verbose : Bool) (cs : Rest) : Option (Nat × Rest) :=
  let cs := cs.dropWhile Text.isBlank
  let (found, rest) := digits verbose cs.length cs
  let n := found.foldl (fun n c => 10 * n + (c.toNat - '0'.toNat)) 0
  if found.isEmpty || n > Width.uint32Max then none else some (n, rest.dropWhile Text.isBlank)

def bounds? (verbose : Bool) (cs : Rest) : Option (Nat × Option Nat × Rest) := do
  let (least, rest) ← decimal? verbose (next verbose cs)
  match rest with
  | '\x7d' :: _ => return (least, some least, rest)
  | ',' :: _ =>
    match next verbose rest with
    | '\x7d' :: rest => return (least, none, '\x7d' :: rest)
    | rest =>
      let (most, rest) ← decimal? verbose rest
      if rest.head? = some '\x7d' && least ≤ most then return (least, some most, rest) else none
  | _ => none

end LiveTable.Pattern
