import LiveTable.Proofs.FilterReading

namespace LiveTable

-- From the start of `whole` up to `rest` stands a part with the property.
def Takes {α : Type} (P : List α → Prop) (whole rest : List α) : Prop := ∃ part, whole = part ++ rest ∧ P part

structure Chains {α : Type} (P : List α → Prop) : Prop where
  nil : P []
  append : ∀ {before behind}, P before → P behind → P (before ++ behind)

namespace Takes

variable {α : Type} {P : List α → Prop} {whole middle rest : List α}

theorem refl (chains : Chains P) (whole : List α) : Takes P whole whole := ⟨[], rfl, chains.nil⟩

theorem trans (chains : Chains P) (first : Takes P whole middle) (second : Takes P middle rest) :
    Takes P whole rest := by
  obtain ⟨before, rfl, here⟩ := first
  obtain ⟨behind, rfl, there⟩ := second
  exact ⟨before ++ behind, (List.append_assoc ..).symm, chains.append here there⟩

theorem cons {x : α} (chains : Chains P) (one : P [x]) (more : Takes P whole rest) : Takes P (x :: whole) rest :=
  trans chains ⟨[x], rfl, one⟩ more

end Takes

namespace Filter

open LiveTable.Filter.Parser

mutual

def texts : Filter → List String
  | literal value => value.string?.toList
  | field base name => texts base ++ [name]
  | index base position => texts base ++ texts position
  | iterate base | attempt base | collect base => texts base
  | binary _ left right => texts left ++ texts right
  | call _ args => textsOf args
  | identity | recurse | emptyArray => []

def textsOf : List Filter → List String
  | [] => []
  | f :: rest => texts f ++ textsOf rest

end

theorem texts_of_call (args : List Filter) : textsOf args = args.flatMap texts := by
  induction args with
  | nil => rfl
  | cons f rest ih => rw [textsOf, ih, List.flatMap_cons]

def Keeps (allowed : String → Prop) (f : Filter) : Prop := ∀ s ∈ f.texts, allowed s

def Token.text? : Token → Option String
  | field name => some name
  | str text => some text
  | _ => none

def Token.mark? : Token → Option Char
  | leftParen => some '('
  | rightParen => some ')'
  | leftBracket => some '['
  | rightBracket => some ']'
  | _ => none

def Token.closer? : Token → Option Token
  | leftParen => some rightParen
  | leftBracket => some rightBracket
  | _ => none

-- Tokens in which all texts are allowed, and all parentheses and brackets stand in pairs around such tokens.
inductive Balanced (allowed : String → Prop) : Tokens → Prop
  | nil : Balanced allowed []
  | append {before behind : Tokens} (first : Balanced allowed before) (second : Balanced allowed behind) :
      Balanced allowed (before ++ behind)
  | plain (offset : Nat) {t : Token} (unmarked : t.mark? = none) (inside : ∀ s ∈ t.text?, allowed s) :
      Balanced allowed [(offset, t)]
  | pair (start stop : Nat) {opener closer : Token} {inner : Tokens} (matching : opener.closer? = some closer)
      (inside : Balanced allowed inner) : Balanced allowed ((start, opener) :: (inner ++ [(stop, closer)]))

variable {allowed : String → Prop}

theorem balanced_chains : Chains (Balanced allowed) := ⟨.nil, .append⟩

def Closes (allowed : String → Prop) (closer : Token) (ts rest : Tokens) : Prop :=
  ∃ stop, Takes (Balanced allowed) ts ((stop, closer) :: rest)

section

variable {stop fuel level : Nat} {ts rest : Tokens} {f : Filter}

theorem takes_plain {offset : Nat} {t : Token} (unmarked : t.mark? = none) (inside : ∀ s ∈ t.text?, allowed s)
    (more : Takes (Balanced allowed) ts rest) : Takes (Balanced allowed) ((offset, t) :: ts) rest :=
  .cons balanced_chains (.plain offset unmarked inside) more

theorem takes_textless {offset : Nat} {t : Token} (unmarked : t.mark? = none) (textless : t.text? = none)
    (more : Takes (Balanced allowed) ts rest) : Takes (Balanced allowed) ((offset, t) :: ts) rest :=
  takes_plain unmarked (fun s member => by rw [textless] at member; cases member) more

theorem takes_pair {start : Nat} {opener closer : Token} (matching : opener.closer? = some closer)
    (closes : Closes allowed closer ts rest) : Takes (Balanced allowed) ((start, opener) :: ts) rest := by
  obtain ⟨stop, inner, rfl, inside⟩ := closes
  exact ⟨_, by simp, .pair start stop matching inside⟩

theorem closes_expected {closer : Token} {more : Tokens} (inner : Takes (Balanced allowed) ts more)
    (read : Parser.expect stop closer more = .ok rest) : Closes allowed closer ts rest := by
  unfold Parser.expect at read
  split at read
  · split at read
    · rename_i same
      cases read
      exact ⟨_, same ▸ inner⟩
    · cases read
  · cases read

end

-- All that is read with so much fuel takes balanced tokens, if the texts in what is read are allowed.
structure ReadsBalanced (allowed : String → Prop) (stop fuel : Nat) : Prop where
  expression : ∀ {level ts f rest}, expression stop fuel level ts = .ok (f, rest) → f.Keeps allowed →
    Takes (Balanced allowed) ts rest
  operators : ∀ {level left ts f rest}, operators stop fuel level left ts = .ok (f, rest) → f.Keeps allowed →
    left.Keeps allowed ∧ Takes (Balanced allowed) ts rest
  suffixes : ∀ {base ts f rest}, suffixes stop fuel base ts = .ok (f, rest) → f.Keeps allowed →
    base.Keeps allowed ∧ Takes (Balanced allowed) ts rest
  bracket : ∀ {base ts f rest}, bracket stop fuel base ts = .ok (f, rest) → f.Keeps allowed →
    base.Keeps allowed ∧ Closes allowed .rightBracket ts rest
  operand : ∀ {ts f rest}, operand stop fuel ts = .ok (f, rest) → f.Keeps allowed →
    Takes (Balanced allowed) ts rest
  arguments : ∀ {acc ts args rest}, arguments stop fuel acc ts = .ok (args, rest) →
    (∀ arg ∈ args, arg.Keeps allowed) →
    (∀ arg ∈ acc, arg.Keeps allowed) ∧ Closes allowed .rightParen ts rest

section

variable {stop fuel level : Nat} {ts rest : Tokens} {f : Filter}

theorem keeps_binary {op : Operator} {left right : Filter} :
    (Filter.binary op left right).Keeps allowed ↔ left.Keeps allowed ∧ right.Keeps allowed := by
  simp only [Keeps, texts, List.mem_append, or_imp, forall_and]

theorem keeps_index {base position : Filter} :
    (Filter.index base position).Keeps allowed ↔ base.Keeps allowed ∧ position.Keeps allowed := by
  simp only [Keeps, texts, List.mem_append, or_imp, forall_and]

theorem keeps_field {base : Filter} {name : String} :
    (Filter.field base name).Keeps allowed ↔ base.Keeps allowed ∧ allowed name := by
  simp only [Keeps, texts, List.mem_append, List.mem_singleton, or_imp, forall_and, forall_eq]

theorem keeps_call {b : Builtin} {args : List Filter} :
    (Filter.call b args).Keeps allowed ↔ ∀ arg ∈ args, arg.Keeps allowed := by
  simp only [Keeps, texts, texts_of_call, List.mem_flatMap]
  exact ⟨fun all arg member s inside => all s ⟨arg, member, inside⟩,
    fun all s ⟨arg, member, inside⟩ => all arg member s inside⟩

theorem call_of_read {name : String} {args : List Filter} (read : callOf stop name args ts = .ok (f, rest)) :
    ∃ b, f = .call b args ∧ ts = rest := by
  unfold callOf at read
  split at read
  · cases read
    exact ⟨_, rfl, rfl⟩
  · cases read

theorem operator_plain {t : Token} {op : Operator} (found : t.operator? = some op) :
    t.mark? = none ∧ t.text? = none := by
  cases t <;> first | exact ⟨rfl, rfl⟩ | simp [Token.operator?] at found

theorem balanced_expression (ih : ReadsBalanced allowed stop fuel)
    (read : expression stop (fuel + 1) level ts = .ok (f, rest)) (keeps : f.Keeps allowed) :
    Takes (Balanced allowed) ts rest := by
  rw [expression] at read
  split at read
  · obtain ⟨⟨left, more⟩, first, read⟩ := bind_ok.mp read
    obtain ⟨before, second⟩ := ih.operators read keeps
    exact .trans balanced_chains (ih.expression first before) second
  · obtain ⟨⟨base, more⟩, first, read⟩ := bind_ok.mp read
    obtain ⟨before, second⟩ := ih.suffixes read keeps
    exact .trans balanced_chains (ih.operand first before) second

theorem balanced_operators (ih : ReadsBalanced allowed stop fuel) {left : Filter}
    (read : operators stop (fuel + 1) level left ts = .ok (f, rest)) (keeps : f.Keeps allowed) :
    left.Keeps allowed ∧ Takes (Balanced allowed) ts rest := by
  rw [operators.eq_def] at read
  dsimp only at read
  split at read
  · cases read
    exact ⟨keeps, .refl balanced_chains _⟩
  · split at read
    · cases read
      exact ⟨keeps, .refl balanced_chains _⟩
    · rename_i found
      obtain ⟨unmarked, textless⟩ := operator_plain found
      split at read
      · split at read <;> obtain ⟨⟨right, more⟩, second, read⟩ := bind_ok.mp read
        case h_3 =>
          obtain ⟨joined, third⟩ := ih.operators read keeps
          obtain ⟨before, behind⟩ := keeps_binary.mp joined
          exact ⟨before, takes_textless unmarked textless (.trans balanced_chains (ih.expression second behind) third)⟩
        -- Behind an operator that groups to the right or not at all no other one is read here.
        all_goals
          cases read
          obtain ⟨before, behind⟩ := keeps_binary.mp keeps
          exact ⟨before, takes_textless unmarked textless (ih.expression second behind)⟩
      · cases read
        exact ⟨keeps, .refl balanced_chains _⟩

theorem balanced_suffixes (ih : ReadsBalanced allowed stop fuel) {base : Filter}
    (read : suffixes stop (fuel + 1) base ts = .ok (f, rest)) (keeps : f.Keeps allowed) :
    base.Keeps allowed ∧ Takes (Balanced allowed) ts rest := by
  rw [suffixes.eq_def] at read
  dsimp only at read
  split at read
  · obtain ⟨named, more⟩ := ih.suffixes read keeps
    obtain ⟨below, name⟩ := keeps_field.mp named
    exact ⟨below, takes_plain rfl (by simpa [Token.text?] using name) more⟩
  · obtain ⟨below, more⟩ := ih.suffixes read keeps
    exact ⟨below, takes_textless rfl rfl more⟩
  · obtain ⟨⟨indexed, middle⟩, first, read⟩ := bind_ok.mp read
    obtain ⟨joined, more⟩ := ih.suffixes read keeps
    obtain ⟨below, closes⟩ := ih.bracket first joined
    refine ⟨below, takes_textless rfl rfl ?_⟩
    exact .trans balanced_chains (takes_pair rfl closes) more
  · obtain ⟨⟨indexed, middle⟩, first, read⟩ := bind_ok.mp read
    obtain ⟨joined, more⟩ := ih.suffixes read keeps
    obtain ⟨below, closes⟩ := ih.bracket first joined
    exact ⟨below, .trans balanced_chains (takes_pair rfl closes) more⟩
  · cases read
    exact ⟨keeps, .refl balanced_chains _⟩

theorem balanced_bracket (ih : ReadsBalanced allowed stop fuel) {base : Filter}
    (read : bracket stop (fuel + 1) base ts = .ok (f, rest)) (keeps : f.Keeps allowed) :
    base.Keeps allowed ∧ Closes allowed .rightBracket ts rest := by
  rw [bracket.eq_def] at read
  dsimp only at read
  split at read
  · cases read
    exact ⟨keeps, _, .refl balanced_chains _⟩
  · obtain ⟨⟨position, more⟩, first, read⟩ := bind_ok.mp read
    obtain ⟨more, closing, read⟩ := bind_ok.mp read
    cases read
    obtain ⟨below, inside⟩ := keeps_index.mp keeps
    exact ⟨below, closes_expected (ih.expression first inside) closing⟩

theorem balanced_operand (ih : ReadsBalanced allowed stop fuel)
    (read : operand stop (fuel + 1) ts = .ok (f, rest)) (keeps : f.Keeps allowed) :
    Takes (Balanced allowed) ts rest := by
  rw [operand.eq_def] at read
  dsimp only at read
  split at read
  case h_1 => cases read
  case h_2 => exact takes_textless rfl rfl (takes_pair rfl (ih.bracket read keeps).2)
  case h_3 =>
    cases read
    exact takes_textless rfl rfl (.refl balanced_chains _)
  case h_4 =>
    cases read
    exact takes_textless rfl rfl (.refl balanced_chains _)
  case h_5 =>
    cases read
    exact takes_plain rfl (by simpa [Token.text?] using (keeps_field.mp keeps).2) (.refl balanced_chains _)
  case h_6 =>
    cases read
    exact takes_plain rfl (by simpa [Token.text?, Keeps, texts, Json.string?] using keeps) (.refl balanced_chains _)
  case h_7 =>
    cases read
    exact takes_textless rfl rfl (.refl balanced_chains _)
  case h_8 =>
    cases read
    exact takes_textless rfl rfl (takes_textless rfl rfl (.refl balanced_chains _))
  case h_9 => cases read
  case h_10 =>
    obtain ⟨⟨inner, more⟩, first, read⟩ := bind_ok.mp read
    obtain ⟨more, closing, read⟩ := bind_ok.mp read
    cases read
    exact takes_pair rfl (closes_expected (ih.expression first keeps) closing)
  case h_11 =>
    cases read
    exact takes_pair rfl ⟨_, .refl balanced_chains _⟩
  case h_12 =>
    obtain ⟨⟨inner, more⟩, first, read⟩ := bind_ok.mp read
    obtain ⟨more, closing, read⟩ := bind_ok.mp read
    cases read
    exact takes_pair rfl (closes_expected (ih.expression first keeps) closing)
  case h_13 =>
    split at read
    · cases read
      exact takes_textless rfl rfl (.refl balanced_chains _)
    · split at read
      · obtain ⟨⟨args, more⟩, first, read⟩ := bind_ok.mp read
        obtain ⟨b, rfl, rfl⟩ := call_of_read read
        exact takes_textless rfl rfl (takes_pair rfl (ih.arguments first (keeps_call.mp keeps)).2)
      · obtain ⟨b, rfl, rfl⟩ := call_of_read read
        exact takes_textless rfl rfl (.refl balanced_chains _)
  case h_14 => cases read

theorem balanced_arguments (ih : ReadsBalanced allowed stop fuel) {acc args : List Filter}
    (read : arguments stop (fuel + 1) acc ts = .ok (args, rest)) (keeps : ∀ arg ∈ args, arg.Keeps allowed) :
    (∀ arg ∈ acc, arg.Keeps allowed) ∧ Closes allowed .rightParen ts rest := by
  rw [arguments] at read
  obtain ⟨⟨arg, more⟩, first, read⟩ := bind_ok.mp read
  dsimp only at read
  split at read
  · obtain ⟨before, stop, others⟩ := ih.arguments read keeps
    rw [List.forall_mem_cons] at before
    refine ⟨before.2, stop, .trans balanced_chains (ih.expression first before.1) ?_⟩
    exact takes_textless rfl rfl others
  · obtain ⟨more, closing, read⟩ := bind_ok.mp read
    cases read
    have all : ∀ a ∈ arg :: acc, a.Keeps allowed := fun a member => keeps a (List.mem_reverse.mpr member)
    rw [List.forall_mem_cons] at all
    exact ⟨all.2, closes_expected (ih.expression first all.1) closing⟩

theorem reads_balanced (allowed : String → Prop) (stop fuel : Nat) : ReadsBalanced allowed stop fuel := by
  induction fuel with
  | zero => constructor <;> intros <;> contradiction
  | succ fuel ih =>
      exact ⟨balanced_expression ih, balanced_operators ih, balanced_suffixes ih, balanced_bracket ih,
        balanced_operand ih, balanced_arguments ih⟩

end

theorem of_tokens_balanced {stop : Nat} {ts : Tokens} {f : Filter} (read : ofTokens stop ts = .ok f)
    (keeps : f.Keeps allowed) : Balanced allowed ts := by
  obtain ⟨⟨g, rest⟩, first, read⟩ := bind_ok.mp read
  cases rest with
  | nil =>
      cases read
      obtain ⟨part, rfl, balanced⟩ := (reads_balanced allowed _ _).expression first keeps
      rwa [List.append_nil]
  | cons => cases read

end Filter

end LiveTable
