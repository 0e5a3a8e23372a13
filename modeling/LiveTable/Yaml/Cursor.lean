namespace LiveTable.Yaml

def isBlank (c : Char) : Bool := c = ' ' || c = '\t'

def isBreak (c : Char) : Bool := c = '\n' || c = '\u2028' || c = '\u2029'

def isNameChar (c : Char) : Bool :=
  ('a' ≤ c && c ≤ 'z') || ('A' ≤ c && c ≤ 'Z') || ('0' ≤ c && c ≤ '9') || c = '-' || c = '_'

def isAllowed (c : Char) : Bool :=
  c = '\t' || c = '\n' || c = '\r' || c = '\u0085' || (' ' ≤ c && c ≤ '~') ||
    ('\u00a0' ≤ c && c ≤ '\ufffd') || c.toNat ≥ 0x10000

def unifyBreaks : List Char → List Char
  | [] => []
  | '\r' :: '\n' :: rest => '\n' :: unifyBreaks rest
  | c :: rest => (if c = '\r' || c = '\u0085' then '\n' else c) :: unifyBreaks rest

def startsWithBreak (cs : List Char) : Bool := cs.head?.any isBreak

def atLineEnd (cs : List Char) : Bool := cs.head?.all isBreak

def atWordEnd (cs : List Char) : Bool := cs.head?.all fun c => isBlank c || isBreak c

structure Cursor where
  rest : List Char
  left : Nat
  line : Nat := 0
  column : Nat := 0
  index : Nat := 0

namespace Cursor

def ofChars (cs : List Char) : Cursor := { rest := cs, left := cs.length }

def pass (c : Cursor) : List Char → Cursor
  | [] => c
  | x :: xs =>
    let next : Cursor :=
      if isBreak x then ⟨c.rest.drop 1, c.left - 1, c.line + 1, 0, c.index + 1⟩
      else ⟨c.rest.drop 1, c.left - 1, c.line, c.column + 1, c.index + 1⟩
    next.pass xs

def skip (c : Cursor) (count : Nat) : Cursor := c.pass (c.rest.take count)

def runWhile (p : List Char → Bool) : List Char → List Char
  | [] => []
  | x :: xs => if p (x :: xs) then x :: runWhile p xs else []

def takeRun (c : Cursor) (p : List Char → Bool) : List Char × Cursor :=
  let found := runWhile p c.rest
  (found, c.pass found)

def takeClass (c : Cursor) (p : Char → Bool) : List Char × Cursor :=
  let found := c.rest.takeWhile p
  (found, c.pass found)

def skipBlanks (c : Cursor) : Cursor := (c.takeClass isBlank).2

def lineEnd? (c : Cursor) : Option Cursor :=
  let c := c.skipBlanks
  let c := if c.rest.head? = some '#' then (c.takeClass fun x => !isBreak x).2 else c
  if atLineEnd c.rest then some c else none

def atMark (c : Cursor) (mark : Char) : Bool :=
  c.column = 0 && [mark, mark, mark].isPrefixOf c.rest && atWordEnd (c.rest.drop 3)

def atDocumentMark (c : Cursor) : Bool := c.atMark '-' || c.atMark '.'

end Cursor

end LiveTable.Yaml
