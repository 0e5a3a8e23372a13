import LiveTable.Proofs.FilterSpelling
import LiveTable.Proofs.Trimming
import LiveTable.Query.Basic

namespace LiveTable

namespace Query

-- Up to every place there are as many opening as closing parentheses, or more.
def ClosesOpened (cs : List Char) : Prop := ∀ before, before <+: cs → before.count ')' ≤ before.count '('

theorem parentheses_close_cons (depth : Nat) (c : Char) (rest : List Char) :
    parenthesesClose depth (c :: rest) =
      if c = '(' then parenthesesClose (depth + 1) rest
      else if c = ')' then depth != 0 && parenthesesClose (depth - 1) rest
      else parenthesesClose depth rest := by
  by_cases opens : c = '('
  · subst opens
    rfl
  · by_cases closes : c = ')'
    · subst closes
      rfl
    · rw [if_neg opens, if_neg closes, parenthesesClose]
      · exact opens
      · exact closes

theorem every_prefix_cons {P : List Char → Prop} (c : Char) (rest : List Char) :
    (∀ before, before <+: c :: rest → P before) ↔ P [] ∧ ∀ before, before <+: rest → P (c :: before) := by
  simp only [List.prefix_cons_iff, forall_eq_or_imp, forall_exists_index, and_imp]
  exact and_congr_right fun _ => ⟨fun all before inside => all _ before rfl inside,
    fun all _ before same inside => same ▸ all before inside⟩

theorem parentheses_close_iff (depth : Nat) (cs : List Char) :
    parenthesesClose depth cs = true ↔ ∀ before, before <+: cs → before.count ')' ≤ depth + before.count '(' := by
  induction cs generalizing depth with
  | nil => simp [parenthesesClose]
  | cons c rest ih =>
      rw [parentheses_close_cons, every_prefix_cons]
      by_cases opens : c = '('
      · subst opens
        simp [ih, Nat.add_right_comm, Nat.add_assoc]
      · by_cases closes : c = ')'
        · subst closes
          cases depth with
          | zero =>
              -- A parenthesis that closes nothing is already too many on its own.
              rw [if_neg opens, if_pos rfl]
              constructor
              · intro closed
                cases closed
              · intro all
                exact absurd (all.2 [] List.nil_prefix) (by decide)
          | succ depth => simp [ih, Nat.add_right_comm]
        · simp [ih, opens, closes]

theorem closes_opened_iff (cs : List Char) : ClosesOpened cs ↔ parenthesesClose 0 cs = true := by
  simp [ClosesOpened, parentheses_close_iff]

instance (cs : List Char) : Decidable (ClosesOpened cs) := decidable_of_iff _ (closes_opened_iff cs).symm

theorem closes_opened_append {before behind : List Char} (first : ClosesOpened before) (second : ClosesOpened behind) :
    ClosesOpened (before ++ behind) := by
  intro part inside
  rcases List.prefix_or_prefix_of_prefix inside (List.prefix_append before behind) with within | ⟨rest, rfl⟩
  · exact first part within
  · have here := first before List.prefix_rfl
    have there := second rest ((List.prefix_append_right_inj before).mp inside)
    rw [List.count_append, List.count_append]
    omega

theorem closes_opened_plain {cs : List Char} (free : ')' ∉ cs) : ClosesOpened cs := by
  intro part inside
  rw [List.count_eq_zero.mpr fun member => free (inside.subset member)]
  exact Nat.zero_le _

theorem closes_opened_parens {inner : List Char} (inside : ClosesOpened inner) :
    ClosesOpened ('(' :: (inner ++ [')'])) := by
  intro part within
  rw [List.prefix_cons_iff] at within
  rcases within with rfl | ⟨more, rfl, within⟩
  · exact Nat.le_refl _
  · rw [List.prefix_concat_iff] at within
    rcases within with rfl | within
    · have whole := inside inner List.prefix_rfl
      simp
      omega
    · have bound := inside more within
      simp
      omega

theorem closes_opened_around {first last : Char} {inner : List Char} (start : first ≠ ')') (stop : last ≠ ')')
    (inside : ClosesOpened inner) : ClosesOpened (first :: (inner ++ [last])) := by
  have before : ClosesOpened [first] := closes_opened_plain (by simpa using start.symm)
  have behind : ClosesOpened [last] := closes_opened_plain (by simpa using stop.symm)
  exact closes_opened_append before (closes_opened_append inside behind)

theorem escapes_close {raw text : List Char} (spells : Filter.Escapes raw text) (depth : Nat) :
    parenthesesClose depth raw = parenthesesClose depth text := by
  induction spells generalizing depth with
  | nil => rfl
  | plain c _ _ _ ih => simp only [parentheses_close_cons, ih]
  | escaped c _ ih =>
      have skipped (rest : List Char) : parenthesesClose depth ('\\' :: rest) = parenthesesClose depth rest := rfl
      have open_kept : Filter.Token.unescape c = '(' ↔ c = '(' := by
        unfold Filter.Token.unescape
        grind
      have close_kept : Filter.Token.unescape c = ')' ↔ c = ')' := by
        unfold Filter.Token.unescape
        grind
      simp only [skipped, parentheses_close_cons, ih, open_kept, close_kept]

theorem nested_closes {cs : List Char} (nested : Filter.Nested (ClosesOpened ·.toList) cs) : ClosesOpened cs := by
  induction nested with
  | nil => exact closes_opened_plain (by simp)
  | append _ _ before behind => exact closes_opened_append before behind
  | quiet free =>
      refine closes_opened_plain fun member => ?_
      rw [← List.mem_singleton.mp member] at free
      exact absurd free (by decide)
  | literal spells inside =>
      rw [closes_opened_iff, String.toList_ofList, ← escapes_close spells, ← closes_opened_iff] at inside
      exact closes_opened_around (by decide) (by decide) inside
  | @pair opener closer inner matching _ inside =>
      unfold Filter.closer? at matching
      split at matching <;> cases matching
      · exact closes_opened_parens inside
      · exact closes_opened_around (by decide) (by decide) inside

theorem wrapped_body (cs : List Char) :
    filterBody? ('(' :: (cs ++ [')'])) = if ClosesOpened cs then some cs else none := by
  simp [filterBody?, closes_opened_iff]

theorem parse_wrapped (e : String) :
    parse ("(" ++ e ++ ")") = if ClosesOpened e.toList then parseFilter e else parsePath ("(" ++ e ++ ")") := by
  have chars : ("(" ++ e ++ ")").toList = '(' :: (e.toList ++ [')']) := by simp
  have trimmed : Text.trimChars ("(" ++ e ++ ")").toList = ("(" ++ e ++ ")").toList := by
    rw [chars, Text.trim_enclosed (by decide) (by decide)]
  have body : filterBody? ("(" ++ e ++ ")").toList = if ClosesOpened e.toList then some e.toList else none := by
    rw [chars, wrapped_body]
  by_cases closes : ClosesOpened e.toList
  · simp only [parse, trimmed, body, if_pos closes, String.ofList_toList]
  · simp only [parse, trimmed, body, if_neg closes, String.ofList_toList]

theorem path_no_filter (expr : String) (f : Filter) : parsePath expr ≠ .ok (.filter f) := by
  unfold parsePath
  split <;> simp

theorem read_of_tokens {e : String} {f : Filter} (ts : Filter.Parser.Tokens)
    (scanned : (Filter.Token.tokens 0 e.toList).toOption = some ts) (read : Filter.ofTokens e.utf8ByteSize ts = .ok f) :
    Filter.parse e = .ok f := by
  cases found : Filter.Token.tokens 0 e.toList with
  | error _ =>
      rw [found] at scanned
      cases scanned
  | ok more =>
      rw [found] at scanned
      cases scanned
      rw [Filter.parse, found]
      exact read

def endsWith (s : String) : Filter := .call .endswith [.literal (.string s)]

/-- A text that is read as a filter gives, in parentheses, a query for this filter and no other one: exactly if in the
text, literals included, no parenthesis closes one that has not been opened before. It is so wherever this holds of
each text in the filter. -/
theorem wrapped_filter (e : String) (f : Filter) (read : Filter.parse e = .ok f) :
    (parse ("(" ++ e ++ ")") = .ok (.filter f) ↔ ClosesOpened e.toList) ∧
      (∀ g, parse ("(" ++ e ++ ")") = .ok (.filter g) → g = f) ∧
      (f.Keeps (ClosesOpened ·.toList) → parse ("(" ++ e ++ ")") = .ok (.filter f)) := by
  have taken : parseFilter e = .ok (.filter f) := by rw [parseFilter, read]
  have exactly : parse ("(" ++ e ++ ")") = .ok (.filter f) ↔ ClosesOpened e.toList := by
    rw [parse_wrapped]
    by_cases closes : ClosesOpened e.toList
    · rw [if_pos closes]
      exact ⟨fun _ => closes, fun _ => taken⟩
    · rw [if_neg closes]
      exact ⟨fun same => absurd same (path_no_filter _ f), fun inside => absurd inside closes⟩
  refine ⟨exactly, ?_, fun keeps => exactly.mpr (nested_closes (Filter.parse_nested read keeps))⟩
  intro g found
  rw [parse_wrapped] at found
  by_cases closes : ClosesOpened e.toList
  · rw [if_pos closes, taken] at found
    cases found
    rfl
  · rw [if_neg closes] at found
    exact absurd found (path_no_filter _ g)

theorem paired_parentheses_wrapped :
    Filter.parse "endswith(\"()\")" = .ok (endsWith "()") ∧
      parse ("(" ++ "endswith(\"()\")" ++ ")") = .ok (.filter (endsWith "()")) := by
  have read : Filter.parse "endswith(\"()\")" = .ok (endsWith "()") := by
    refine read_of_tokens [(0, .ident "endswith"), (8, .leftParen), (9, .str "()"), (13, .rightParen)] ?_ rfl
    decide +kernel
  refine ⟨read, (wrapped_filter _ _ read).2.2 fun s inside => ?_⟩
  obtain rfl : s = "()" := by simpa [endsWith, Filter.texts, Filter.textsOf, Json.string?] using inside
  decide

theorem closing_literal_unwrapped :
    Filter.parse "endswith(\")\")" = .ok (endsWith ")") ∧
      parse ("(" ++ "endswith(\")\")" ++ ")") ≠ .ok (.filter (endsWith ")")) := by
  have read : Filter.parse "endswith(\")\")" = .ok (endsWith ")") := by
    refine read_of_tokens [(0, .ident "endswith"), (8, .leftParen), (9, .str ")"), (12, .rightParen)] ?_ rfl
    decide +kernel
  refine ⟨read, fun wrapped => ?_⟩
  rw [parse_wrapped, if_neg (by decide)] at wrapped
  exact path_no_filter _ _ wrapped

end Query

end LiveTable
