import LiveTable.Proofs.FilterNesting

namespace LiveTable

namespace Text

def marks : List Char := ['(', ')', '[', ']', '\x7b', '\x7d', '\'', '"']

def isQuiet (c : Char) : Bool := !marks.contains c

theorem quiet_class {p : Char → Bool} (apart : marks.any p = false) {c : Char} (inside : p c = true) :
    isQuiet c = true := by
  rw [isQuiet, Bool.not_eq_true', List.contains_eq_mem, decide_eq_false_iff_not]
  intro member
  rw [List.any_eq_false] at apart
  exact apart c member inside

theorem quiet_blank {c : Char} (blank : isBlank c = true) : isQuiet c = true := quiet_class (by decide) blank

theorem quiet_run {p : Char → Bool} (apart : marks.any p = false) (cs : List Char) :
    ∀ c ∈ cs.takeWhile p, isQuiet c = true :=
  fun c member => quiet_class apart (List.all_eq_true.mp List.all_takeWhile c member)

end Text

namespace Filter

open LiveTable.Filter.Parser LiveTable.Text

-- The first characters spell the second ones between quotes.
inductive Escapes : List Char → List Char → Prop
  | nil : Escapes [] []
  | plain {raw text : List Char} (c : Char) (unquoted : c ≠ '"') (unescaped : c ≠ '\\') (more : Escapes raw text) :
      Escapes (c :: raw) (c :: text)
  | escaped {raw text : List Char} (c : Char) (more : Escapes raw text) :
      Escapes ('\\' :: c :: raw) (Token.unescape c :: text)

theorem scan_string_escapes {cs text rest : List Char} (found : Token.scanString cs = some (text, rest)) :
    ∃ raw, cs = raw ++ '"' :: rest ∧ Escapes raw text := by
  fun_induction Token.scanString cs generalizing text rest with
  | case1 => cases found
  | case2 =>
      cases found
      exact ⟨[], rfl, .nil⟩
  | case3 c cs ih =>
      obtain ⟨⟨more, after⟩, scanned, same⟩ := Option.map_eq_some_iff.mp found
      cases same
      obtain ⟨raw, rfl, escapes⟩ := ih scanned
      exact ⟨'\\' :: c :: raw, rfl, .escaped c escapes⟩
  | case4 => cases found
  | case5 c cs unquoted unescaped alone ih =>
      obtain ⟨⟨more, after⟩, scanned, same⟩ := Option.map_eq_some_iff.mp found
      cases same
      obtain ⟨raw, rfl, escapes⟩ := ih scanned
      have other : c ≠ '\\' := by
        rintro rfl
        cases raw with
        | nil => exact unescaped _ _ rfl rfl
        | cons d raw => exact unescaped _ _ rfl rfl
      exact ⟨c :: raw, rfl, .plain c unquoted other escapes⟩

inductive Spells : List Char → Token → Prop
  | quiet {raw : List Char} {t : Token} (unmarked : t.mark? = none) (all : ∀ c ∈ raw, isQuiet c = true) : Spells raw t
  | mark {c : Char} {t : Token} (marked : t.mark? = some c) : Spells [c] t
  | text {raw text : List Char} (spells : Escapes raw text) : Spells ('"' :: (raw ++ ['"'])) (.str (String.ofList text))
  | name {raw text : List Char} (spells : Escapes raw text) :
      Spells ('.' :: '"' :: (raw ++ ['"'])) (.field (String.ofList text))

theorem spells_mark {raw : List Char} {t : Token} {c : Char} (spells : Spells raw t) (marked : t.mark? = some c) :
    raw = [c] := by
  cases spells with
  | quiet unmarked => rw [unmarked] at marked; cases marked
  | mark same => rw [Option.some.inj (same.symm.trans marked)]
  | text | name => cases marked

theorem spells_run {p : Char → Bool} (apart : marks.any p = false) {c : Char} (quiet : isQuiet c = true)
    (rest : List Char) {t : Token} (unmarked : t.mark? = none) :
    ∃ raw, c :: rest = raw ++ rest.dropWhile p ∧ Spells raw t := by
  refine ⟨c :: rest.takeWhile p, ?_, .quiet unmarked (List.forall_mem_cons.mpr ⟨quiet, quiet_run apart rest⟩)⟩
  rw [List.cons_append, List.takeWhile_append_dropWhile]

theorem scan_spells {c : Char} {rest after : List Char} {t : Token} (found : Token.scan c rest = .ok (t, after)) :
    ∃ raw, c :: rest = raw ++ after ∧ Spells raw t := by
  unfold Token.scan at found
  split at found
  case h_2 =>
    split at found
    · rename_i scanned
      cases found
      obtain ⟨raw, rfl, spells⟩ := scan_string_escapes scanned
      exact ⟨_, by simp, .name spells⟩
    · cases found
  case h_3 =>
    split at found
    · cases found
      exact spells_run (by decide) (by decide) _ rfl
    · cases found
      exact ⟨['.'], rfl, .quiet rfl (List.all_eq_true.mp (by decide))⟩
  case h_4 =>
    split at found
    · rename_i scanned
      cases found
      obtain ⟨raw, rfl, spells⟩ := scan_string_escapes scanned
      exact ⟨_, by simp, .text spells⟩
    · cases found
  case h_22 =>
    split at found
    · rename_i digit
      dsimp only at found
      split at found
      · cases found
        exact spells_run (by decide) (quiet_class (by decide) digit) _ rfl
      · cases found
    · split at found
      · rename_i letter
        cases found
        exact spells_run (by decide) (quiet_class (by decide) letter) _ rfl
      · cases found
  all_goals
    cases found
    first
    | exact ⟨[_], rfl, .mark rfl⟩
    | exact ⟨[_], rfl, .quiet rfl (List.all_eq_true.mp (by decide))⟩
    | exact ⟨[_, _], rfl, .quiet rfl (List.all_eq_true.mp (by decide))⟩

inductive Spelled : List Char → Tokens → Prop
  | nil : Spelled [] []
  | blank {c : Char} {cs : List Char} {ts : Tokens} (blank : Text.isBlank c = true) (more : Spelled cs ts) :
      Spelled (c :: cs) ts
  | token {raw cs : List Char} {t : Token} {ts : Tokens} (offset : Nat) (spells : Spells raw t) (more : Spelled cs ts) :
      Spelled (raw ++ cs) ((offset, t) :: ts)

theorem tokens_spelled {offset : Nat} {cs : List Char} {ts : Tokens} (read : Token.tokens offset cs = .ok ts) :
    Spelled cs ts := by
  fun_induction Token.tokens offset cs generalizing ts with
  | case1 =>
      cases read
      exact .nil
  | case2 offset c rest blank ih => exact .blank blank (ih read)
  | case3 => cases read
  | case4 offset c rest visible t after found shorter ih =>
      cases behind : Token.tokens (offset + (Token.byteLength (c :: rest) - Token.byteLength after)) after with
      | error e => rw [behind] at read; cases read
      | ok more =>
          rw [behind] at read
          cases read
          obtain ⟨raw, whole, spells⟩ := scan_spells found
          rw [whole]
          exact .token offset spells (ih behind)

theorem spelled_cons {cs : List Char} {offset : Nat} {t : Token} {ts : Tokens}
    (spelled : Spelled cs ((offset, t) :: ts)) :
    ∃ blanks raw after, cs = blanks ++ (raw ++ after) ∧ (∀ c ∈ blanks, Text.isBlank c = true) ∧ Spells raw t ∧
      Spelled after ts := by
  generalize whole : (offset, t) :: ts = all at spelled
  induction spelled with
  | nil => cases whole
  | @blank c cs all blank more ih =>
      obtain ⟨blanks, raw, after, rfl, before, spells, behind⟩ := ih whole
      exact ⟨c :: blanks, raw, after, rfl, List.forall_mem_cons.mpr ⟨blank, before⟩, spells, behind⟩
  | @token raw cs u all offset spells more _ =>
      cases whole
      exact ⟨[], raw, cs, rfl, by simp, spells, more⟩

theorem spelled_behind_blanks {blanks cs : List Char} {ts : Tokens} (blank : ∀ c ∈ blanks, Text.isBlank c = true)
    (spelled : Spelled cs ts) : Spelled (blanks ++ cs) ts := by
  induction blanks with
  | nil => exact spelled
  | cons c blanks ih =>
      rw [List.forall_mem_cons] at blank
      exact .blank blank.1 (ih blank.2)

theorem spelled_append {cs : List Char} {before behind : Tokens} (spelled : Spelled cs (before ++ behind)) :
    ∃ first second, cs = first ++ second ∧ Spelled first before ∧ Spelled second behind := by
  induction before generalizing cs with
  | nil => exact ⟨[], cs, rfl, .nil, spelled⟩
  | cons token before ih =>
      obtain ⟨blanks, raw, after, rfl, blank, spells, more⟩ := spelled_cons spelled
      obtain ⟨first, second, rfl, here, there⟩ := ih more
      exact ⟨blanks ++ (raw ++ first), second, by simp, spelled_behind_blanks blank (.token _ spells here), there⟩

def closer? : Char → Option Char
  | '(' => some ')'
  | '[' => some ']'
  | _ => none

theorem closer_marks {opener closer : Token} (matching : opener.closer? = some closer) :
    ∃ c d, opener.mark? = some c ∧ closer.mark? = some d ∧ closer? c = some d := by
  cases opener <;> cases matching <;> exact ⟨_, _, rfl, rfl, rfl⟩

-- A text in which parentheses and brackets stand in pairs around such texts, and texts that are allowed between quotes.
inductive Nested (allowed : String → Prop) : List Char → Prop
  | nil : Nested allowed []
  | append {before behind : List Char} (first : Nested allowed before) (second : Nested allowed behind) :
      Nested allowed (before ++ behind)
  | quiet {c : Char} (free : isQuiet c = true) : Nested allowed [c]
  | literal {raw text : List Char} (spells : Escapes raw text) (inside : allowed (String.ofList text)) :
      Nested allowed ('"' :: (raw ++ ['"']))
  | pair {opener closer : Char} {inner : List Char} (matching : closer? opener = some closer)
      (inside : Nested allowed inner) : Nested allowed (opener :: (inner ++ [closer]))

variable {allowed : String → Prop}

theorem nested_quiet {cs : List Char} (all : ∀ c ∈ cs, isQuiet c = true) : Nested allowed cs := by
  induction cs with
  | nil => exact .nil
  | cons c cs ih =>
      rw [List.forall_mem_cons] at all
      exact .append (.quiet all.1) (ih all.2)

theorem nested_blank {cs : List Char} (all : ∀ c ∈ cs, Text.isBlank c = true) : Nested allowed cs :=
  nested_quiet fun c member => quiet_blank (all c member)

theorem nested_spelling {raw : List Char} {t : Token} (spells : Spells raw t) (unmarked : t.mark? = none)
    (inside : ∀ s ∈ t.text?, allowed s) : Nested allowed raw := by
  cases spells with
  | quiet _ all => exact nested_quiet all
  | mark marked => rw [unmarked] at marked; cases marked
  | text spells => exact .literal spells (inside _ rfl)
  | name spells => exact .append (.quiet (c := '.') (by decide)) (.literal spells (inside _ rfl))

theorem spelled_nil {cs : List Char} (spelled : Spelled cs []) : ∀ c ∈ cs, Text.isBlank c = true := by
  generalize whole : ([] : Tokens) = all at spelled
  induction spelled with
  | nil => simp
  | blank blank more ih => exact List.forall_mem_cons.mpr ⟨blank, ih whole⟩
  | token offset spells more ih => cases whole

theorem spelled_single {cs : List Char} {offset : Nat} {t : Token} (spelled : Spelled cs [(offset, t)]) :
    ∃ before raw behind, cs = before ++ (raw ++ behind) ∧ (∀ c ∈ before, Text.isBlank c = true) ∧ Spells raw t ∧
      ∀ c ∈ behind, Text.isBlank c = true := by
  obtain ⟨before, raw, behind, whole, blank, spells, more⟩ := spelled_cons spelled
  exact ⟨before, raw, behind, whole, blank, spells, spelled_nil more⟩

theorem nested_balanced {ts : Tokens} (balanced : Balanced allowed ts) {cs : List Char} (spelled : Spelled cs ts) :
    Nested allowed cs := by
  induction balanced generalizing cs with
  | nil => exact nested_blank (spelled_nil spelled)
  | append _ _ before behind =>
      obtain ⟨first, second, rfl, here, there⟩ := spelled_append spelled
      exact .append (before here) (behind there)
  | plain offset unmarked inside =>
      obtain ⟨before, raw, behind, rfl, blank, spells, more⟩ := spelled_single spelled
      exact .append (nested_blank blank) (.append (nested_spelling spells unmarked inside) (nested_blank more))
  | pair start stop matching _ ih =>
      obtain ⟨before, raw, after, rfl, blank, opening, more⟩ := spelled_cons spelled
      obtain ⟨inner, rest, rfl, inside, last⟩ := spelled_append more
      obtain ⟨blanks, raw', behind, rfl, blanks_blank, closing, behind_blank⟩ := spelled_single last
      obtain ⟨c, d, opens, closes, pair⟩ := closer_marks matching
      obtain rfl := spells_mark opening opens
      obtain rfl := spells_mark closing closes
      have enclosed := Nested.pair pair (.append (ih inside) (nested_blank blanks_blank))
      have whole := Nested.append (nested_blank blank) (.append enclosed (nested_blank behind_blank))
      simpa using whole

theorem parse_nested {expr : String} {f : Filter} (read : parse expr = .ok f) (keeps : f.Keeps allowed) :
    Nested allowed expr.toList := by
  obtain ⟨ts, scanned, read⟩ := bind_ok.mp read
  exact nested_balanced (of_tokens_balanced read keeps) (tokens_spelled scanned)

end Filter

end LiveTable
