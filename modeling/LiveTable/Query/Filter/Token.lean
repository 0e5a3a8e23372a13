import LiveTable.Query.Filter.Basic
import LiveTable.Number.Decimal
import LiveTable.Number.Reading
import LiveTable.Text.Blank
import LiveTable.Text.Quoted

namespace LiveTable.Filter

inductive Token where
  | dot
  | dotDot
  | field (name : String)
  | ident (name : String)
  | str (text : String)
  | num (value : Float)
  | leftParen
  | rightParen
  | leftBracket
  | rightBracket
  | pipe
  | comma
  | semicolon
  | question
  | alternative
  | cmp (c : Comparison)
  | plus
  | minus
deriving DecidableEq

def comparisonName : Comparison → String
  | .eq => "Eq"
  | .ne => "Ne"
  | .lt => "Lt"
  | .le => "Le"
  | .gt => "Gt"
  | .ge => "Ge"

def Token.describe : Token → String
  | dot => "Dot"
  | dotDot => "DotDot"
  | field name => "Field(" ++ Text.quoted name ++ ")"
  | ident name => "Ident(" ++ Text.quoted name ++ ")"
  | str text => "Str(" ++ Text.quoted text ++ ")"
  | num value => "Num(" ++ plainNumber value ++ ")"
  | leftParen => "LParen"
  | rightParen => "RParen"
  | leftBracket => "LBracket"
  | rightBracket => "RBracket"
  | pipe => "Pipe"
  | comma => "Comma"
  | semicolon => "Semicolon"
  | question => "Question"
  | alternative => "Alt"
  | cmp c => "Cmp(" ++ comparisonName c ++ ")"
  | plus => "Plus"
  | minus => "Minus"

inductive Reason where
  | unterminatedString
  | invalidNumber (text : String)
  | unexpectedCharacter (c : Char)
  | unexpected (t : Token)
  | expecting (t : Token)
  | endOfExpression
  | expectingNumber
  | unknownFunction (name : String) (arity : Nat)
deriving DecidableEq

def Reason.message : Reason → String
  | unterminatedString => "unterminated string"
  | invalidNumber text => "invalid number " ++ Text.quoted text
  | unexpectedCharacter c => "unexpected character " ++ Text.quotedChar c
  | unexpected t => "unexpected " ++ t.describe
  | expecting t => "expecting " ++ t.describe
  | endOfExpression => "unexpected end of expression"
  | expectingNumber => "expecting a number after '-'"
  | unknownFunction name arity => "unknown function " ++ name ++ "/" ++ toString arity

structure SyntaxError where
  offset : Nat
  reason : Reason

namespace Token

def isIdentStart (c : Char) : Bool := c.isAlpha || c == '_'

def isIdentChar (c : Char) : Bool := c.isAlphanum || c == '_'

def byteLength : List Char → Nat
  | [] => 0
  | c :: cs => c.utf8Size + byteLength cs

def unescape (c : Char) : Char := if c = 'n' then '\n' else if c = 't' then '\t' else c

def scanString : List Char → Option (List Char × List Char)
  | [] => none
  | '"' :: rest => some ([], rest)
  | '\\' :: c :: rest =>
    (scanString rest).map fun (text, rest) => (unescape c :: text, rest)
  | '\\' :: [] => none
  | c :: rest => (scanString rest).map fun (text, rest) => (c :: text, rest)

def scan (c : Char) (rest : List Char) : Except Reason (Token × List Char) :=
  match c, rest with
  | '.', '.' :: rest => .ok (dotDot, rest)
  | '.', '"' :: rest =>
    match scanString rest with
    | some (text, rest) => .ok (field (String.ofList text), rest)
    | none => .error .unterminatedString
  | '.', rest =>
    if rest.head?.any isIdentStart then
      .ok (field (String.ofList (rest.takeWhile isIdentChar)), rest.dropWhile isIdentChar)
    else .ok (dot, rest)
  | '"', rest =>
    match scanString rest with
    | some (text, rest) => .ok (str (String.ofList text), rest)
    | none => .error .unterminatedString
  | '/', '/' :: rest => .ok (alternative, rest)
  | '=', '=' :: rest => .ok (cmp .eq, rest)
  | '!', '=' :: rest => .ok (cmp .ne, rest)
  | '<', '=' :: rest => .ok (cmp .le, rest)
  | '<', rest => .ok (cmp .lt, rest)
  | '>', '=' :: rest => .ok (cmp .ge, rest)
  | '>', rest => .ok (cmp .gt, rest)
  | '(', rest => .ok (leftParen, rest)
  | ')', rest => .ok (rightParen, rest)
  | '[', rest => .ok (leftBracket, rest)
  | ']', rest => .ok (rightBracket, rest)
  | '|', rest => .ok (pipe, rest)
  | ',', rest => .ok (comma, rest)
  | ';', rest => .ok (semicolon, rest)
  | '?', rest => .ok (question, rest)
  | '+', rest => .ok (plus, rest)
  | '-', rest => .ok (minus, rest)
  | c, rest =>
    if Reading.isDigit c then
      let isNumeric := fun c => Reading.isDigit c || c == '.'
      let text := c :: rest.takeWhile isNumeric
      match Reading.floatOfChars? text with
      | some value => .ok (num value, rest.dropWhile isNumeric)
      | none => .error (.invalidNumber (String.ofList text))
    else if isIdentStart c then
      .ok (ident (String.ofList (c :: rest.takeWhile isIdentChar)), rest.dropWhile isIdentChar)
    else .error (.unexpectedCharacter c)

def faultOffset (offset : Nat) (c : Char) : Reason → Nat
  | .unterminatedString => if c = '.' then offset + 1 else offset
  | _ => offset

theorem scanString_length {cs text rest : List Char} (h : scanString cs = some (text, rest)) :
    rest.length < cs.length := by
  fun_induction scanString cs generalizing text rest with
  | case1 => simp at h
  | case2 => simp at h; simp [h.2]
  | case3 c cs ih =>
    obtain ⟨⟨t, r⟩, hr, he⟩ := Option.map_eq_some_iff.1 h
    simp only [Prod.mk.injEq] at he
    have := ih hr
    simp [← he.2]
    omega
  | case4 => simp at h
  | case5 c cs _ _ _ ih =>
    obtain ⟨⟨t, r⟩, hr, he⟩ := Option.map_eq_some_iff.1 h
    simp only [Prod.mk.injEq] at he
    have := ih hr
    simp [← he.2]
    omega

theorem scan_length {c : Char} {cs : List Char} {t : Token} {rest : List Char}
    (h : scan c cs = .ok (t, rest)) : rest.length ≤ cs.length := by
  unfold scan at h
  split at h <;> try (simp only [Except.ok.injEq, Prod.mk.injEq] at h; simp [← h.2])
  · split at h
    · rename_i heq
      have := scanString_length heq
      simp only [Except.ok.injEq, Prod.mk.injEq] at h
      simp only [← h.2, List.length_cons]
      omega
    · simp at h
  · split at h <;> (simp only [Except.ok.injEq, Prod.mk.injEq] at h; simp only [← h.2])
    · exact (List.dropWhile_suffix _).length_le
    · exact Nat.le_refl _
  · split at h
    · rename_i heq
      have := scanString_length heq
      simp only [Except.ok.injEq, Prod.mk.injEq] at h
      simp only [← h.2]
      omega
    · simp at h
  · split at h
    · dsimp only at h
      split at h
      · simp only [Except.ok.injEq, Prod.mk.injEq] at h
        simpa only [← h.2] using (List.dropWhile_suffix _).length_le
      · simp at h
    · split at h
      · simp only [Except.ok.injEq, Prod.mk.injEq] at h
        simpa only [← h.2] using (List.dropWhile_suffix _).length_le
      · simp at h

def tokens (offset : Nat) (cs : List Char) : Except SyntaxError (List (Nat × Token)) :=
  match cs with
  | [] => .ok []
  | c :: rest =>
    if Text.isBlank c then tokens (offset + c.utf8Size) rest
    else
      match h : scan c rest with
      | .error reason => .error ⟨faultOffset offset c reason, reason⟩
      | .ok (t, after) =>
        have := scan_length h
        (tokens (offset + (byteLength (c :: rest) - byteLength after)) after).map ((offset, t) :: ·)
termination_by cs.length
decreasing_by
  · exact Nat.lt_succ_self rest.length
  · exact Nat.lt_succ_of_le this

end Token

end LiveTable.Filter
