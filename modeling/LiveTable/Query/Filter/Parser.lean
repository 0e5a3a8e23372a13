import LiveTable.Query.Filter.Token

namespace LiveTable

inductive Associativity where
  | left | right | none
deriving DecidableEq

namespace Operator

-- How tightly an operator binds; the loosest has level 0.
def level : Operator → Nat
  | pipe => 0
  | comma => 1
  | alternative => 2
  | or => 3
  | and => 4
  | compare _ => 5
  | add | subtract => 6

def associativity : Operator → Associativity
  | pipe | alternative => .right
  | compare _ => .none
  | _ => .left

end Operator

namespace Filter

def Token.operator? : Token → Option Operator
  | pipe => some .pipe
  | comma => some .comma
  | alternative => some .alternative
  | ident "or" => some .or
  | ident "and" => some .and
  | cmp c => some (.compare c)
  | plus => some .add
  | minus => some .subtract
  | _ => none

def operandLevel : Nat := 7

namespace Parser

abbrev Tokens := List (Nat × Token)

abbrev Parsed := Except SyntaxError (Filter × Tokens)

def faultAt (stop : Nat) (ts : Tokens) (reason : Reason) : SyntaxError :=
  ⟨(ts.head?.map (·.1)).getD stop, reason⟩

def expect (stop : Nat) (t : Token) (ts : Tokens) : Except SyntaxError Tokens :=
  match ts with
  | (_, u) :: rest => if u = t then .ok rest else .error (faultAt stop ts (.expecting t))
  | [] => .error (faultAt stop ts (.expecting t))

def callOf (stop : Nat) (name : String) (args : List Filter) (ts : Tokens) : Parsed :=
  match Builtin.lookup? name args.length with
  | some f => .ok (.call f args, ts)
  | none => .error (faultAt stop ts (.unknownFunction name args.length))

def literalOfWord? : String → Option Json
  | "null" => some .null
  | "true" => some (.bool true)
  | "false" => some (.bool false)
  | _ => none

mutual

def expression (stop : Nat) : Nat → Nat → Tokens → Parsed
  | 0, _, ts => .error (faultAt stop ts .endOfExpression)
  | fuel + 1, level, ts =>
    if level < operandLevel then do
      let (left, ts) ← expression stop fuel (level + 1) ts
      operators stop fuel level left ts
    else do
      let (base, ts) ← operand stop fuel ts
      suffixes stop fuel base ts

def operators (stop : Nat) : Nat → Nat → Filter → Tokens → Parsed
  | 0, _, _, ts => .error (faultAt stop ts .endOfExpression)
  | fuel + 1, level, left, ts =>
    match ts with
    | [] => .ok (left, ts)
    | (_, t) :: rest =>
      match t.operator? with
      | none => .ok (left, ts)
      | some op =>
        if op.level = level then
          match op.associativity with
          | .right => do
            let (right, ts) ← expression stop fuel level rest
            return (.binary op left right, ts)
          | .none => do
            let (right, ts) ← expression stop fuel (level + 1) rest
            return (.binary op left right, ts)
          | .left => do
            let (right, ts) ← expression stop fuel (level + 1) rest
            operators stop fuel level (.binary op left right) ts
        else .ok (left, ts)

def suffixes (stop : Nat) : Nat → Filter → Tokens → Parsed
  | 0, _, ts => .error (faultAt stop ts .endOfExpression)
  | fuel + 1, base, ts =>
    match ts with
    | (_, .field name) :: rest => suffixes stop fuel (.field base name) rest
    | (_, .question) :: rest => suffixes stop fuel (.attempt base) rest
    | (_, .dot) :: (_, .leftBracket) :: rest => do
      let (e, rest) ← bracket stop fuel base rest
      suffixes stop fuel e rest
    | (_, .leftBracket) :: rest => do
      let (e, rest) ← bracket stop fuel base rest
      suffixes stop fuel e rest
    | ts => .ok (base, ts)

def bracket (stop : Nat) : Nat → Filter → Tokens → Parsed
  | 0, _, ts => .error (faultAt stop ts .endOfExpression)
  | fuel + 1, base, ts =>
    match ts with
    | (_, .rightBracket) :: rest => .ok (.iterate base, rest)
    | ts => do
      let (position, ts) ← expression stop fuel 0 ts
      let ts ← expect stop .rightBracket ts
      return (.index base position, ts)

def operand (stop : Nat) : Nat → Tokens → Parsed
  | 0, ts => .error (faultAt stop ts .endOfExpression)
  | fuel + 1, ts =>
    match ts with
    | [] => .error (faultAt stop ts .endOfExpression)
    | (_, .dot) :: (_, .leftBracket) :: rest => bracket stop fuel .identity rest
    | (_, .dot) :: rest => .ok (.identity, rest)
    | (_, .dotDot) :: rest => .ok (.recurse, rest)
    | (_, .field name) :: rest => .ok (.field .identity name, rest)
    | (_, .str text) :: rest => .ok (.literal (.string text), rest)
    | (_, .num x) :: rest => .ok (.literal (Json.ofFloat x), rest)
    | (_, .minus) :: (_, .num x) :: rest => .ok (.literal (Json.ofFloat (-x)), rest)
    | (_, .minus) :: rest => .error (faultAt stop (rest.drop 1) .expectingNumber)
    | (_, .leftParen) :: rest => do
      let (inner, ts) ← expression stop fuel 0 rest
      let ts ← expect stop .rightParen ts
      return (inner, ts)
    | (_, .leftBracket) :: (_, .rightBracket) :: rest => .ok (.emptyArray, rest)
    | (_, .leftBracket) :: rest => do
      let (inner, ts) ← expression stop fuel 0 rest
      let ts ← expect stop .rightBracket ts
      return (.collect inner, ts)
    | (_, .ident name) :: rest =>
      match literalOfWord? name with
      | some v => .ok (.literal v, rest)
      | none =>
        match rest with
        | (_, .leftParen) :: rest => do
          let (args, ts) ← arguments stop fuel [] rest
          callOf stop name args ts
        | rest => callOf stop name [] rest
    | (_, t) :: _ => .error (faultAt stop ts (.unexpected t))

def arguments (stop : Nat) : Nat → List Filter → Tokens → Except SyntaxError (List Filter × Tokens)
  | 0, _, ts => .error (faultAt stop ts .endOfExpression)
  | fuel + 1, acc, ts => do
    let (arg, ts) ← expression stop fuel 0 ts
    match ts with
    | (_, .semicolon) :: rest => arguments stop fuel (arg :: acc) rest
    | ts => do
      let ts ← expect stop .rightParen ts
      return ((arg :: acc).reverse, ts)

end

-- Enough for every nesting that so many tokens can have.
def fuelFor (ts : Tokens) : Nat := 12 * (ts.length + 1)

end Parser

def ofTokens (stop : Nat) (ts : Parser.Tokens) : Except SyntaxError Filter := do
  let (filter, rest) ← Parser.expression stop (Parser.fuelFor ts) 0 ts
  match rest with
  | [] => return filter
  | (offset, t) :: _ => throw ⟨offset, .unexpected t⟩

def parse (expr : String) : Except SyntaxError Filter := do
  ofTokens expr.utf8ByteSize (← Token.tokens 0 expr.toList)

end Filter

end LiveTable
