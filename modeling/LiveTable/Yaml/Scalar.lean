import LiveTable.Yaml.Cursor

namespace LiveTable.Yaml

def fold : List Char → List Char
  | [] => []
  | ['\n'] => [' ']
  | '\n' :: more => more
  | breaks => breaks

-- The space between two words: blanks, and behind them line breaks with blanks among them.
structure Gap where
  blanks : List Char
  breaks : List Char

def Gap.text (g : Gap) : List Char := if g.breaks.isEmpty then g.blanks else fold g.breaks

def Gap.breaksLine (g : Gap) : Bool := !g.breaks.isEmpty

def breaksFrom (margin : Nat) : Nat → Cursor → Option (List Char × Cursor)
  | 0, c => some ([], c)
  | fuel + 1, c =>
    let (blanks, next) := c.takeClass isBlank
    let tab := blanks.findIdx (· == '\t')
    if tab < blanks.length && c.column + tab < margin then none
    else
      match next.rest with
      | x :: _ =>
        if isBreak x then (breaksFrom margin fuel (next.skip 1)).map fun (more, c) => (x :: more, c)
        else some ([], next)
      | [] => some ([], next)

def gap? (margin : Nat) (c : Cursor) : Option (Gap × Cursor) :=
  let (blanks, next) := c.takeClass isBlank
  match next.rest with
  | x :: _ =>
    if isBreak x then
      (breaksFrom margin next.left (next.skip 1)).map fun (more, c) => (⟨blanks, x :: more⟩, c)
    else some (⟨blanks, []⟩, next)
  | [] => some (⟨blanks, []⟩, next)

def isFlowMark (c : Char) : Bool := c = ',' || c = '[' || c = ']' || c = '{' || c = '}'

def atClingingColon (flow : Bool) : List Char → Bool
  | ':' :: c :: _ => flow && (isFlowMark c || c = '?')
  | _ => false

def endsPlainWord (flow : Bool) (cs : List Char) : Bool :=
  atWordEnd cs || atClingingColon flow cs ||
    match cs with
    | c :: rest => (c = ':' && atWordEnd rest) || (flow && isFlowMark c)
    | [] => true

structure Plain where
  text : List Char
  cursor : Cursor
  atLineStart : Bool

-- Words and gaps in turn; in blocks the scalar ends where a line begins left of the margin. What was
-- read stands last first.
def plainFrom (flow : Bool) (margin : Nat) : Nat → List Char → Gap → Cursor → Option Plain
  | 0, _, _, _ => none
  | fuel + 1, back, gap, c =>
    if c.atDocumentMark || c.rest.head? = some '#' then some ⟨back.reverse, c, gap.breaksLine⟩
    else
      let (word, next) := c.takeRun fun cs => !endsPlainWord flow cs
      let back := if word.isEmpty then back else word.reverse ++ (gap.text.reverse ++ back)
      let broken := word.isEmpty && gap.breaksLine
      if atClingingColon flow next.rest then none
      else if next.rest.isEmpty || !atWordEnd next.rest then some ⟨back.reverse, next, broken⟩
      else
        match gap? margin next with
        | none => none
        | some (gap, c) =>
          if !flow && c.column < margin then some ⟨back.reverse, c, gap.breaksLine⟩
          else plainFrom flow margin fuel back gap c

def plain? (flow : Bool) (margin : Nat) (c : Cursor) : Option Plain :=
  plainFrom flow margin (c.left + 1) [] ⟨[], []⟩ c

def hexValue? (c : Char) : Option Nat :=
  if '0' ≤ c && c ≤ '9' then some (c.toNat - '0'.toNat)
  else if 'a' ≤ c && c ≤ 'f' then some (c.toNat - 'a'.toNat + 10)
  else if 'A' ≤ c && c ≤ 'F' then some (c.toNat - 'A'.toNat + 10)
  else none

def hexNumber? (cs : List Char) : Option Nat :=
  (cs.mapM hexValue?).map fun digits => digits.foldl (fun n d => n * 16 + d) 0

def codeChar? (size : Nat) (cs : List Char) : Option (Char × Nat) :=
  if cs.length < size then none
  else
    match hexNumber? (cs.take size) with
    | none => none
    | some n => if h : n.isValidChar then some (Char.ofNatAux n h, size + 2) else none

def simpleEscapes : List (Char × Char) :=
  [('0', '\u0000'), ('a', '\u0007'), ('b', '\u0008'), ('t', '\t'), ('\t', '\t'), ('n', '\n'),
    ('v', '\u000b'), ('f', '\u000c'), ('r', '\r'), ('e', '\u001b'), (' ', ' '), ('"', '"'),
    ('/', '/'), ('\\', '\\'), ('N', '\u0085'), ('_', '\u00a0'), ('L', '\u2028'), ('P', '\u2029')]

def escape? : List Char → Option (Char × Nat)
  | [] => none
  | 'x' :: rest => codeChar? 2 rest
  | 'u' :: rest => codeChar? 4 rest
  | 'U' :: rest => codeChar? 8 rest
  | c :: _ => (simpleEscapes.lookup c).map (·, 2)

structure QuotedPart where
  back : List Char
  cursor : Cursor
  escapedBreak : Bool

def singleWord : Nat → List Char → Cursor → QuotedPart
  | 0, back, c => ⟨back, c, false⟩
  | fuel + 1, back, c =>
    match c.rest with
    | '\'' :: '\'' :: _ => singleWord fuel ('\'' :: back) (c.skip 2)
    | x :: rest =>
      if x = '\'' || atWordEnd (x :: rest) then ⟨back, c, false⟩
      else singleWord fuel (x :: back) (c.skip 1)
    | [] => ⟨back, c, false⟩

def doubleWord? : Nat → List Char → Cursor → Option QuotedPart
  | 0, back, c => some ⟨back, c, false⟩
  | fuel + 1, back, c =>
    match c.rest with
    | '\\' :: rest =>
      if startsWithBreak rest then some ⟨back, c.skip 2, true⟩
      else
        match escape? rest with
        | some (x, size) => doubleWord? fuel (x :: back) (c.skip size)
        | none => none
    | x :: rest =>
      if x = '"' || atWordEnd (x :: rest) then some ⟨back, c, false⟩
      else doubleWord? fuel (x :: back) (c.skip 1)
    | [] => some ⟨back, c, false⟩

def word? (quote : Char) (back : List Char) (c : Cursor) : Option QuotedPart :=
  if quote = '"' then doubleWord? c.left back c else some (singleWord c.left back c)

-- Words and gaps up to the closing quote. An escaped line break leaves nothing of the break and
-- the blanks around it, and keeps all further breaks.
def quotedFrom (quote : Char) : Nat → List Char → Cursor → Option (List Char × Cursor)
  | 0, _, _ => none
  | fuel + 1, back, c =>
    if c.atDocumentMark || c.rest.isEmpty then none
    else
      match word? quote back c with
      | none => none
      | some part =>
        if part.cursor.rest.head? = some quote then some (part.back.reverse, part.cursor.skip 1)
        else if part.escapedBreak then
          match breaksFrom 0 part.cursor.left part.cursor with
          | some (breaks, c) => quotedFrom quote fuel (breaks.reverse ++ part.back) c
          | none => none
        else
          match gap? 0 part.cursor with
          | some (gap, c) => quotedFrom quote fuel (gap.text.reverse ++ part.back) c
          | none => none

def quoted? (quote : Char) (c : Cursor) : Option (List Char × Cursor) :=
  quotedFrom quote (c.left + 1) [] c

inductive Chomping where
  | strip | clip | keep
deriving DecidableEq

structure BlockStyle where
  literal : Bool
  chomping : Chomping
  indentation : Option Nat

def chomping? (c : Char) : Option Chomping :=
  if c = '+' then some .keep else if c = '-' then some .strip else none

def indentation? (c : Char) : Option Nat :=
  if '1' ≤ c && c ≤ '9' then some (c.toNat - '0'.toNat) else none

def blockSigns (literal : Bool) : List Char → BlockStyle × Nat
  | a :: b :: _ =>
    match chomping? a, indentation? a, chomping? b, indentation? b with
    | some chomping, _, _, some n => (⟨literal, chomping, some n⟩, 2)
    | _, some n, some chomping, _ => (⟨literal, chomping, some n⟩, 2)
    | some chomping, _, _, _ => (⟨literal, chomping, none⟩, 1)
    | _, some n, _, _ => (⟨literal, .clip, some n⟩, 1)
    | _, _, _, _ => (⟨literal, .clip, none⟩, 0)
  | [a] =>
    match chomping? a, indentation? a with
    | some chomping, _ => (⟨literal, chomping, none⟩, 1)
    | _, some n => (⟨literal, .clip, some n⟩, 1)
    | _, _ => (⟨literal, .clip, none⟩, 0)
  | [] => (⟨literal, .clip, none⟩, 0)

-- The empty lines to come, the cursor in the line behind them, and the farthest column reached.
-- Without a margin all spaces count as indentation.
def emptyLines (margin : Option Nat) : Nat → Nat → Cursor → Option (List Char × Cursor × Nat)
  | 0, _, _ => none
  | fuel + 1, most, c =>
    let spaces := c.rest.takeWhile (· == ' ')
    let c := c.pass (match margin with
      | some m => spaces.take (m - c.column)
      | none => spaces)
    let most := max most c.column
    match c.rest with
    | [] => some ([], c, most)
    | x :: _ =>
      if x = '\t' && margin.all (c.column < ·) then none
      else if isBreak x then
        (emptyLines margin fuel most (c.skip 1)).map fun (breaks, last) => (x :: breaks, last)
      else some ([], c, most)

-- What has been read of a block: its text, last first, the line break and the empty lines behind it,
-- and whether the last line began with a blank.
structure Lines where
  back : List Char
  lineBreak : List Char
  empty : List Char
  blank : Bool

-- The breaks before a line: in a folded block one between lines without leading blanks is a space,
-- or nothing if empty lines follow it.
def Lines.joint (l : Lines) (literal blank : Bool) : List Char :=
  if !literal && l.lineBreak = ['\n'] && !l.blank && !blank then
    if l.empty.isEmpty then [' '] else l.empty
  else l.lineBreak ++ l.empty

def blockLines (literal : Bool) (margin : Nat) : Nat → Lines → Cursor → Option (Lines × Cursor)
  | 0, _, _ => none
  | fuel + 1, l, c =>
    match c.rest with
    | [] => some (l, c)
    | x :: _ =>
      if c.column != margin then some (l, c)
      else
        let (line, c) := c.takeClass fun x => !isBreak x
        let lineBreak := c.rest.take 1
        match emptyLines (some margin) (c.left + 1) 0 (c.skip 1) with
        | none => none
        | some (empty, c, _) =>
          let back := line.reverse ++ ((l.joint literal (isBlank x)).reverse ++ l.back)
          blockLines literal margin fuel ⟨back, lineBreak, empty, isBlank x⟩ c

def Lines.chomped (l : Lines) : Chomping → List Char
  | .strip => l.back.reverse
  | .clip => l.back.reverse ++ l.lineBreak
  | .keep => l.back.reverse ++ l.lineBreak ++ l.empty

def block? (literal : Bool) (outer : Option Nat) (c : Cursor) : Option (List Char × Cursor) := do
  let (style, size) := blockSigns literal c.rest
  let c ← (c.skip size).lineEnd?
  let c := c.skip 1
  let given := style.indentation.map (outer.getD 0 + ·)
  let (empty, c, most) ← emptyLines given (c.left + 1) 0 c
  let least := match outer with
    | some column => column + 1
    | none => 1
  let (lines, c) ← blockLines literal (given.getD (max most least)) (c.left + 1)
    ⟨[], [], empty, false⟩ c
  return (lines.chomped style.chomping, c)

end LiveTable.Yaml
