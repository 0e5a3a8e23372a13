import LiveTable.Proofs.FilterReading

namespace LiveTable

-- How tightly an operator binds, and how tightly operators must bind that stand without parentheses before
-- and behind it.
structure Binding where
  own : Nat
  before : Nat
  behind : Nat

namespace Operator

def binding : Operator → Binding
  | pipe => ⟨0, 1, 0⟩
  | comma => ⟨1, 1, 2⟩
  | alternative => ⟨2, 3, 2⟩
  | or => ⟨3, 3, 4⟩
  | and => ⟨4, 4, 5⟩
  | compare _ => ⟨5, 6, 6⟩
  | add | subtract => ⟨6, 6, 7⟩

def token : Operator → Filter.Token
  | pipe => .pipe
  | comma => .comma
  | alternative => .alternative
  | or => .ident "or"
  | and => .ident "and"
  | compare c => .cmp c
  | add => .plus
  | subtract => .minus

theorem token_operator (op : Operator) : op.token.operator? = some op := by
  cases op <;> rfl

theorem level_below_operand (op : Operator) : op.level < Filter.operandLevel := by
  cases op <;> simp [level, Filter.operandLevel]

theorem binding_bounded (op : Operator) : op.binding.own ≤ Filter.operandLevel ∧
    op.binding.before ≤ Filter.operandLevel ∧ op.binding.behind ≤ Filter.operandLevel := by
  cases op <;> simp [binding, Filter.operandLevel]

theorem binding_own (op : Operator) : op.binding.own = op.level := by
  cases op <;> rfl

theorem binding_left {op : Operator} (h : op.associativity = .left) :
    op.binding.before = op.level ∧ op.binding.behind = op.level + 1 := by
  cases op <;> first | exact ⟨rfl, rfl⟩ | cases h

theorem binding_right {op : Operator} (h : op.associativity = .right) :
    op.binding.before = op.level + 1 ∧ op.binding.behind = op.level := by
  cases op <;> first | exact ⟨rfl, rfl⟩ | cases h

theorem binding_none {op : Operator} (h : op.associativity = .none) :
    op.binding.before = op.level + 1 ∧ op.binding.behind = op.level + 1 := by
  cases op <;> first | exact ⟨rfl, rfl⟩ | cases h

theorem same_level_associativity {op other : Operator} (h : op.level = other.level) :
    op.associativity = other.associativity := by
  cases op <;> cases other <;> first | rfl | cases h

end Operator

theorem Builtin.takes_at_most_one {f : Builtin} {n : Nat} (h : f.takes n = true) : n ≤ 1 := by
  cases f <;> simp [Builtin.takes] at h <;> omega

theorem Builtin.lookup_name {f : Builtin} {n : Nat} (h : f.takes n = true) :
    Builtin.lookup? f.name n = some f := by
  have small := Builtin.takes_at_most_one h
  obtain rfl | rfl : n = 0 ∨ n = 1 := by omega
  · cases f <;> first | rfl | cases h
  · cases f <;> first | rfl | cases h

theorem Builtin.name_no_literal (f : Builtin) : Filter.Parser.literalOfWord? f.name = none := by
  cases f <;> rfl

namespace Filter

open LiveTable.Filter.Parser

inductive Opening : Tokens → Prop
  | bracket (i : Nat) : Opening [(i, .leftBracket)]
  | point (i j : Nat) : Opening [(i, .dot), (j, .leftBracket)]

-- A filter and tokens that write it where only operators of at least a level stand without parentheses. The
-- places of the tokens do not matter.
inductive Written : Nat → Filter → Tokens → Prop
  | identity {level : Nat} (i : Nat) : Written level .identity [(i, .dot)]
  | recurse {level : Nat} (i : Nat) : Written level .recurse [(i, .dotDot)]
  | null {level : Nat} (i : Nat) : Written level (.literal .null) [(i, .ident "null")]
  | yes {level : Nat} (i : Nat) : Written level (.literal (.bool true)) [(i, .ident "true")]
  | no {level : Nat} (i : Nat) : Written level (.literal (.bool false)) [(i, .ident "false")]
  | text {level : Nat} (i : Nat) (s : String) : Written level (.literal (.string s)) [(i, .str s)]
  | number {level : Nat} (i : Nat) (x : Float) : Written level (.literal (Json.ofFloat x)) [(i, .num x)]
  | negative {level : Nat} (i j : Nat) (x : Float) :
      Written level (.literal (Json.ofFloat (-x))) [(i, .minus), (j, .num x)]
  | ownField {level : Nat} (i : Nat) (name : String) : Written level (.field .identity name) [(i, .field name)]
  | field {level : Nat} {base : Filter} {ts : Tokens} (i : Nat) (name : String)
      (below : Written operandLevel base ts) : Written level (.field base name) (ts ++ [(i, .field name)])
  | index {level : Nat} {base position : Filter} {ts opening us : Tokens} (i : Nat)
      (below : Written operandLevel base ts) (opens : Opening opening) (inside : Written 0 position us) :
      Written level (.index base position) (ts ++ (opening ++ (us ++ [(i, .rightBracket)])))
  | iterate {level : Nat} {base : Filter} {ts opening : Tokens} (i : Nat)
      (below : Written operandLevel base ts) (opens : Opening opening) :
      Written level (.iterate base) (ts ++ (opening ++ [(i, .rightBracket)]))
  | attempt {level : Nat} {inner : Filter} {ts : Tokens} (i : Nat) (below : Written operandLevel inner ts) :
      Written level (.attempt inner) (ts ++ [(i, .question)])
  | emptyArray {level : Nat} (i j : Nat) : Written level .emptyArray [(i, .leftBracket), (j, .rightBracket)]
  | collect {level : Nat} {inner : Filter} {ts : Tokens} (i j : Nat) (inside : Written 0 inner ts) :
      Written level (.collect inner) ((i, .leftBracket) :: (ts ++ [(j, .rightBracket)]))
  | word {level : Nat} {f : Builtin} (i : Nat) (taken : f.takes 0 = true) :
      Written level (.call f []) [(i, .ident f.name)]
  | call {level : Nat} {f : Builtin} {arg : Filter} {ts : Tokens} (i j k : Nat) (taken : f.takes 1 = true)
      (inside : Written 0 arg ts) :
      Written level (.call f [arg]) ((i, .ident f.name) :: (j, .leftParen) :: (ts ++ [(k, .rightParen)]))
  | binary {level : Nat} {op : Operator} {left right : Filter} {ts us : Tokens} (i : Nat)
      (tight : level ≤ op.binding.own) (before : Written op.binding.before left ts)
      (behind : Written op.binding.behind right us) :
      Written level (.binary op left right) (ts ++ (i, op.token) :: us)
  | parenthesized {level : Nat} {op : Operator} {left right : Filter} {ts : Tokens} (i j : Nat)
      (loose : op.binding.own < level) (inside : Written 0 (.binary op left right) ts) :
      Written level (.binary op left right) ((i, .leftParen) :: (ts ++ [(j, .rightParen)]))

theorem written_binary {op : Operator} {left right : Filter} (level : Nat)
    (before : ∀ level, ∃ ts, Written level left ts) (behind : ∀ level, ∃ ts, Written level right ts) :
    ∃ ts, Written level (.binary op left right) ts := by
  obtain ⟨ts, before⟩ := before op.binding.before
  obtain ⟨us, behind⟩ := behind op.binding.behind
  by_cases tight : level ≤ op.binding.own
  · exact ⟨_, .binary 0 tight before behind⟩
  · exact ⟨_, .parenthesized 0 0 (Nat.lt_of_not_le tight) (.binary 0 (Nat.zero_le _) before behind)⟩

theorem written_call {f : Builtin} {args : List Filter} (level : Nat) (taken : f.takes args.length = true)
    (inside : ∀ arg ∈ args, ∀ level, ∃ ts, Written level arg ts) : ∃ ts, Written level (.call f args) ts := by
  match args with
  | [] => exact ⟨_, .word 0 taken⟩
  | [arg] =>
      obtain ⟨ts, inside⟩ := inside arg (List.mem_singleton_self arg) 0
      exact ⟨_, .call 0 0 0 taken inside⟩
  | _ :: _ :: _ =>
      have small := Builtin.takes_at_most_one taken
      simp at small

theorem readable_written {f : Filter} (readable : Readable f) : ∀ level, ∃ ts, Written level f ts := by
  induction readable with
  | identity => exact fun level => ⟨_, .identity 0⟩
  | recurse => exact fun level => ⟨_, .recurse 0⟩
  | null => exact fun level => ⟨_, .null 0⟩
  | bool b =>
      cases b with
      | true => exact fun level => ⟨_, .yes 0⟩
      | false => exact fun level => ⟨_, .no 0⟩
  | text s => exact fun level => ⟨_, .text 0 s⟩
  | number x => exact fun level => ⟨_, .number 0 x⟩
  | field name _ ih =>
      intro level
      obtain ⟨ts, below⟩ := ih operandLevel
      exact ⟨_, .field 0 name below⟩
  | index _ _ base position =>
      intro level
      obtain ⟨ts, below⟩ := base operandLevel
      obtain ⟨us, inside⟩ := position 0
      exact ⟨_, .index 0 below (.bracket 0) inside⟩
  | iterate _ ih =>
      intro level
      obtain ⟨ts, below⟩ := ih operandLevel
      exact ⟨_, .iterate 0 below (.bracket 0)⟩
  | attempt _ ih =>
      intro level
      obtain ⟨ts, below⟩ := ih operandLevel
      exact ⟨_, .attempt 0 below⟩
  | emptyArray => exact fun level => ⟨_, .emptyArray 0 0⟩
  | collect _ ih =>
      intro level
      obtain ⟨ts, inside⟩ := ih 0
      exact ⟨_, .collect 0 0 inside⟩
  | binary op _ _ before behind => exact fun level => written_binary level before behind
  | call taken _ ih => exact fun level => written_call level taken ih

end Filter

end LiveTable
