import LiveTable.Pattern.Class
import LiveTable.Pattern.Size

namespace LiveTable.Pattern

def flagItems? (flags : Flags) (on : Bool) (seen : List Char) : Rest → Option (Flags × List Char × Rest)
  | [] => none
  | c :: rest =>
    if c == ':' || c == ')' then
      if seen.head? == some '-' then none else some (flags, seen, c :: rest)
    else if seen.contains c then none
    else
      match c with
      | '-' => flagItems? flags false (c :: seen) rest
      | 'i' => flagItems? { flags with ignoreCase := on } on (c :: seen) rest
      | 'm' => flagItems? { flags with multiLine := on } on (c :: seen) rest
      | 's' => flagItems? { flags with dotAll := on } on (c :: seen) rest
      | 'x' => flagItems? { flags with verbose := on } on (c :: seen) rest
      | 'R' => flagItems? { flags with crlf := on } on (c :: seen) rest
      | 'U' => flagItems? { flags with fewest := on } on (c :: seen) rest
      | 'u' => flagItems? { flags with scripts := on } on (c :: seen) rest
      | _ => none

def nameStartSet : CharSet := Character.Property.set .seventeenth .alphabetic

def nameSet : CharSet :=
  nameStartSet.union (Character.Category.sets .seventeenth Character.Category.numbers)

def isNameStart (c : Char) : Bool := c == '_' || nameStartSet.contains c

def isNameChar (c : Char) : Bool :=
  c == '_' || c == '.' || c == '[' || c == ']' || nameSet.contains c

def groupName? (cs : Rest) : Option (String × Rest) :=
  match cs.takeWhile (· != '>'), cs.dropWhile (· != '>') with
  | c :: more, _ :: rest =>
    if isNameStart c && more.all isNameChar then some (String.ofList (c :: more), rest) else none
  | _, _ => none

-- A part of a pattern with the depth of its own parts. Flags are a part that cannot be repeated.
structure Item where
  pattern : Pattern
  depth : Nat
  repeatable : Bool := true

-- What was read of the present group: the branches before this one, and the items of this branch,
-- both last first; the names given to groups anywhere, and how many groups there are.
structure Progress where
  branches : List Item := []
  items : List Item := []
  names : List String := []
  groups : Nat := 0

def Item.combine (build : List Pattern → Pattern) (items : List Item) : Item :=
  let depth := (items.map Item.depth).foldl max 0
  ⟨build (items.reverse.map Item.pattern), if items.length < 2 then depth else depth + 1, true⟩

namespace Progress

def push (p : Progress) (item : Pattern) : Progress := { p with items := ⟨item, 0, true⟩ :: p.items }

def branch (p : Progress) : Item := Item.combine sequence p.items

def nextBranch (p : Progress) : Progress := { p with branches := p.branch :: p.branches, items := [] }

def finish (p : Progress) : Item :=
  if p.branches.isEmpty then p.branch else Item.combine choice (p.branch :: p.branches)

def repeat? (p : Progress) (least : Nat) (most : Option Nat) (greedy : Bool) : Option Progress :=
  match p.items with
  | item :: items =>
    if !item.repeatable || item.depth ≥ nestLimit then none
    else some { p with items := ⟨item.pattern.repeated least most greedy, item.depth + 1, true⟩ :: items }
  | [] => none

def pushGroup? (p inner : Progress) (wrap : Pattern → Pattern) : Option Progress :=
  let item := inner.finish
  if item.depth ≥ nestLimit then none
  else some { inner with
    branches := p.branches
    items := ⟨wrap item.pattern, item.depth + 1, true⟩ :: p.items }

end Progress

def greed (flags : Flags) (cs : Rest) : Bool × Rest :=
  match cs with
  | '?' :: rest => (flags.fewest, rest)
  | rest => (!flags.fewest, rest)

def Escaped.pattern? (flags : Flags) : Escaped → Option Pattern
  | char c byte => flags.char? c byte
  | shorthand name negated => (flags.shorthand? name negated).map oneOf
  | property name negated => (flags.property? name negated).map oneOf
  | assertion a => some (.assertion (a !flags.scripts))

def repetition? : Char → Option (Nat × Option Nat)
  | '*' => some (0, none)
  | '+' => some (1, none)
  | '?' => some (0, some 1)
  | _ => none

def primitive? (flags : Flags) (cs : Rest) : Option (Item × Rest) :=
  match cs with
  | [] => none
  | '[' :: _ => do
    let ((s, depth), rest) ← class? flags (2 * cs.length) 1 cs
    return (⟨oneOf s, depth, true⟩, rest)
  | '\\' :: rest => do
    let (e, rest) ← escape? flags.verbose rest
    return (⟨← e.pattern? flags, 0, true⟩, rest)
  | '.' :: rest => flags.dot?.map fun p => (⟨p, 0, true⟩, rest)
  | '^' :: rest => some (⟨.assertion flags.lineStart, 0, true⟩, rest)
  | '$' :: rest => some (⟨.assertion flags.lineEnd, 0, true⟩, rest)
  | c :: rest => (flags.char? c false).map fun p => (⟨p, 0, true⟩, rest)

def body? (flags : Flags) : (fuel depth : Nat) → Progress → Rest → Option (Progress × Rest)
  | 0, _, _, _ => none
  | fuel + 1, depth, p, cs =>
    match skip flags.verbose cs with
    | [] => if depth = 0 then some (p, []) else none
    | ')' :: rest => if depth = 0 then none else some (p, rest)
    | '|' :: rest => body? flags fuel depth p.nextBranch rest
    | '\x7b' :: rest => do
      let (least, most, rest) ← bounds? flags.verbose ('\x7b' :: rest)
      let (greedy, rest) := greed flags (next flags.verbose rest)
      body? flags fuel depth (← p.repeat? least most greedy) rest
    | '(' :: rest =>
      if depth ≥ nestLimit then none
      else
        let group (flags' : Flags) (inner : Progress) (wrap : Pattern → Pattern) (rest : Rest) := do
          let (inner, rest) ← body? flags' fuel (depth + 1) { inner with branches := [], items := [] } rest
          body? flags fuel depth (← p.pushGroup? inner wrap) rest
        let counted := { p with groups := p.groups + 1 }
        let named (rest : Rest) := do
          let (name, rest) ← groupName? rest
          if p.names.contains name then none
          else group flags { counted with names := name :: p.names } (.group counted.groups) rest
        match skip flags.verbose rest with
        | '?' :: '=' :: _ => none
        | '?' :: '!' :: _ => none
        | '?' :: '<' :: '=' :: _ => none
        | '?' :: '<' :: '!' :: _ => none
        | '?' :: 'P' :: '<' :: rest => named rest
        | '?' :: '<' :: rest => named rest
        | '?' :: rest => do
          let (flags', seen, rest) ← flagItems? flags true [] rest
          if rest.head? = some ':' then group flags' p id (rest.drop 1)
          else if seen.isEmpty then none
          else body? flags' fuel depth { p with items := ⟨.empty, 0, false⟩ :: p.items } (rest.drop 1)
        | rest => group flags counted (.group counted.groups) rest
    | c :: rest =>
      match repetition? c with
      | some (least, most) => do
        let (greedy, rest) := greed flags rest
        body? flags fuel depth (← p.repeat? least most greedy) rest
      | none => do
        let (item, rest) ← primitive? flags (c :: rest)
        body? flags fuel depth { p with items := item :: p.items } rest

def parse? (ignoreCase : Bool) (s : String) : Option Pattern := do
  let (p, _) ← body? { ignoreCase } (s.length + 1) 0 {} s.toList
  let item := p.finish
  if item.depth ≤ nestLimit && item.pattern.fits then some item.pattern else none

end LiveTable.Pattern
