import LiveTable.Character.Name
import LiveTable.Pattern.Basic
import LiveTable.Pattern.Word

namespace LiveTable.Pattern

structure Flags where
  ignoreCase : Bool := false
  multiLine : Bool := false
  dotAll : Bool := false
  verbose : Bool := false
  crlf : Bool := false
  fewest : Bool := false
  scripts : Bool := true

inductive Shorthand where
  | digit | blank | word

inductive PropertyName where
  | plain (name : String)
  | valued (name value : String)

namespace Flags

def fold (flags : Flags) (s : CharSet) : CharSet :=
  if !flags.ignoreCase then s
  else Character.closeUnder (if flags.scripts then casePairs else asciiCasePairs) s

-- A set or what is outside of it. Case is dropped first: what a set leaves out, it leaves out in
-- either case.
def foldSet? (flags : Flags) (negated : Bool) (s : CharSet) : Option CharSet :=
  let s := flags.fold s
  let s := if negated then s.complement else s
  if flags.scripts || s.isAscii then some s else none

def shorthand? (flags : Flags) (name : Shorthand) (negated : Bool) : Option CharSet :=
  let s := match name, flags.scripts with
    | .digit, true => digitSet
    | .blank, true => blankSet
    | .word, true => wordSet
    | .digit, false => asciiDigitSet
    | .blank, false => asciiBlankSet
    | .word, false => asciiWordSet
  let s := if negated then s.complement else s
  if flags.scripts || s.isAscii then some s else none

def property? (flags : Flags) (name : PropertyName) (negated : Bool) : Option CharSet := do
  if !flags.scripts then none
  let s ← match name with
    | .plain name => Character.setNamed? name
    | .valued name value => Character.setOfValue? name value
  flags.foldSet? negated s

def char? (flags : Flags) (c : Char) (byte : Bool) : Option Pattern :=
  if !flags.scripts && byte && c.toNat ≥ 128 then none
  else some (oneOf (flags.fold (.char c)))

def dot? (flags : Flags) : Option Pattern :=
  if !flags.scripts then none
  else if flags.dotAll then some (one CharSet.empty.complement)
  else if flags.crlf then some (one (CharSet.complement ⟨[(0xa, 0xa), (0xd, 0xd)]⟩))
  else some (one (CharSet.char '\n').complement)

def lineStart (flags : Flags) : Assertion :=
  if flags.multiLine then if flags.crlf then .lineStartCrlf else .lineStart else .textStart

def lineEnd (flags : Flags) : Assertion :=
  if flags.multiLine then if flags.crlf then .lineEndCrlf else .lineEnd else .textEnd

end Flags

end LiveTable.Pattern
