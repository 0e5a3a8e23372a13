import LiveTable.Proofs.ColumnFlags
import LiveTable.Proofs.PathNesting
import LiveTable.Proofs.Wrapping
import Mathlib.Data.List.TakeWhile

namespace LiveTable

-- Texts that do not mislead the search for the flags: no quote in a filter, in a path nothing that opens or closes
-- either.
def Query.Legible : Query → Prop
  | .filter f => f.Keeps ('"' ∉ ·.toList)
  | .path p => Path.Unmarked (Path.textsOf p.steps)

namespace ColumnSpec

theorem escapes_quote {raw text : List Char} (spells : Filter.Escapes raw text) (free : '"' ∉ text) : '"' ∉ raw := by
  induction spells with
  | nil => exact free
  | plain c _ _ _ ih =>
      rw [List.mem_cons, not_or] at free ⊢
      exact ⟨free.1, ih free.2⟩
  | escaped c _ ih =>
      rw [List.mem_cons, not_or] at free
      have other : c ≠ '"' := by
        rintro rfl
        exact free.1 rfl
      simp [ih free.2, other.symm]

theorem nested_neutral {cs : List Char} (nested : Filter.Nested ('"' ∉ ·.toList) cs) : Neutral cs := by
  induction nested with
  | nil => exact neutral_nil
  | append _ _ before behind => exact neutral_append before behind
  | quiet free => exact neutral_quiet free
  | literal spells inside =>
      rw [String.toList_ofList] at inside
      exact neutral_quoted (.inr rfl) (escapes_quote spells inside)
  | pair matching _ inside =>
      refine neutral_pair ?_ inside
      unfold Filter.closer? at matching
      split at matching <;> cases matching <;> decide

theorem filter_body_enclosed {cs inner : List Char} (found : Query.filterBody? cs = some inner) :
    cs = '(' :: (inner ++ [')']) := by
  unfold Query.filterBody? at found
  split at found
  · split at found
    · rename_i rest closed
      rw [Bool.and_eq_true, beq_iff_eq] at closed
      obtain ⟨more, rfl⟩ := List.getLast?_eq_some_iff.mp closed.1
      rw [List.dropLast_concat] at found
      rw [Option.some.inj found]
    · cases found
  · cases found

theorem legible_neutral {q : String} {query : Query} (read : Query.parse q = .ok query) (legible : query.Legible) :
    Neutral (Text.trimChars q.toList) := by
  rw [Query.parse] at read
  split at read
  · rename_i inner found
    rw [filter_body_enclosed found]
    unfold Query.parseFilter at read
    split at read
    · rename_i f parsed
      cases read
      have nested := Filter.parse_nested parsed legible
      rw [String.toList_ofList] at nested
      exact neutral_pair (by decide) (nested_neutral nested)
    · cases read
  · unfold Query.parsePath at read
    split at read
    · rename_i p parsed
      cases read
      simpa using Path.parse_neutral parsed legible
    · cases read

theorem split_last_bar_append (s : Scan) (before behind : List Char) :
    splitLastBar? s (before ++ behind) =
      match splitLastBar? (before.foldl Scan.push s) behind with
      | some (text, flags) => some (before ++ text, flags)
      | none => (splitLastBar? s before).map fun (text, flags) => (text, flags ++ behind) := by
  induction before generalizing s with
  | nil => cases found : splitLastBar? s behind <;> simp [found, splitLastBar?]
  | cons c rest ih =>
      rw [List.cons_append, splitLastBar?, ih, List.foldl_cons]
      cases splitLastBar? (rest.foldl Scan.push (s.push c)) behind with
      | some found => rfl
      | none =>
          rw [splitLastBar?]
          cases splitLastBar? (s.push c) rest with
          | some found => rfl
          | none => by_cases bar : (c = '|' && s.isOutside) = true <;> simp [bar]

theorem split_last_bar_none (s : Scan) (cs : List Char) (free : '|' ∉ cs) : splitLastBar? s cs = none := by
  induction cs generalizing s with
  | nil => rfl
  | cons c rest ih =>
      rw [List.mem_cons, not_or] at free
      have other : ¬c = '|' := Ne.symm free.1
      simp [splitLastBar?, ih (s.push c) free.2, other]

theorem split_flags_behind (body flags : List Char) (letters : flags.all isFlag = true) :
    splitFlags (body ++ '|' :: flags) =
      if (body.foldl Scan.push ⟨0, none⟩).isOutside then (body, flags) else (body ++ '|' :: flags, []) := by
  have free : '|' ∉ flags := by
    intro member
    exact absurd (List.all_eq_true.mp letters '|' member) (by decide)
  have last (s : Scan) : splitLastBar? s ('|' :: flags) = if s.isOutside then some ([], flags) else none := by
    simp [splitLastBar?, split_last_bar_none _ flags free]
  rw [splitFlags, split_last_bar_append, last]
  by_cases outside : (body.foldl Scan.push ⟨0, none⟩).isOutside = true
  · simp [outside, letters]
  · -- Flags that began at an earlier bar would hold this one, which is no letter.
    rw [if_neg outside, if_neg outside]
    cases splitLastBar? ⟨0, none⟩ body with
    | none => rfl
    | some found =>
        have barred : (found.2 ++ '|' :: flags).all isFlag = false := by
          rw [List.all_append, List.all_cons]
          simp [show isFlag '|' = false by decide]
        simp [barred]

theorem split_name (name path : List Char) (free : ':' ∉ name) :
    splitName (name ++ ':' :: path) = (Text.trimChars name, Text.trimChars path) := by
  have before : ∀ c ∈ name, (c != ':') = true := by
    intro c member
    rw [bne_iff_ne]
    rintro rfl
    exact free member
  rw [splitName, List.takeWhile_append_of_pos before, List.dropWhile_append_of_pos before]
  simp

theorem parse_parts {raw : String} {body flags name path : List Char}
    (split : splitFlags (Text.trimChars raw.toList) = (body, flags)) (parts : splitName body = (name, path))
    (some_name : name ≠ []) (letters : name.all isNameChar = true) (some_path : path ≠ []) :
    parse raw =
      match Query.parse (String.ofList path) with
      | .ok q => .ok ⟨applyFlags (Column.named (String.ofList name)) flags, String.ofList path, some q⟩
      | .error e => .error (.invalidQuery (String.ofList name) e) := by
  have named : name.isEmpty = false := by simpa using some_name
  have queried : path.isEmpty = false := by simpa using some_path
  simp only [parse, split, parts, named, letters, queried]
  cases Query.parse (String.ofList path) <;> rfl

theorem parsed_query_some {q : String} {query : Query} (read : Query.parse q = .ok query) : q ≠ "" := by
  rintro rfl
  cases read

theorem flag_visible {c : Char} (flag : isFlag c = true) : Text.isBlank c = false := by
  have known := flag_letter c flag
  simp only [List.mem_cons, List.not_mem_nil, or_false] at known
  rcases known with rfl | rfl | rfl | rfl | rfl | rfl <;> decide

section

variable {name q flags : String} {query : Query} (named : name ≠ "") (name_trimmed : Text.trim name = name)
  (letters : name.toList.all isNameChar = true) (query_trimmed : Text.trim q = q)
  (read : Query.parse q = .ok query) (set : flags.toList.all isFlag = true)

include set in
theorem flags_trimmed : Text.trimEnd ('|' :: flags.toList) = '|' :: flags.toList := by
  refine Text.trim_end_visible fun c last => ?_
  rcases List.mem_cons.mp (List.mem_of_mem_getLast? last) with rfl | member
  · decide
  · exact flag_visible (List.all_eq_true.mp set c member)

include named name_trimmed set in
theorem written_trimmed : Text.trimChars (name ++ ":" ++ q ++ "|" ++ flags).toList =
    (name.toList ++ ':' :: q.toList) ++ '|' :: flags.toList := by
  have start := (Text.trim_fixed (Text.trimmed_chars name_trimmed)).1
  have joined := Text.trim_joined start (by simpa using named) (flags_trimmed set) (List.cons_ne_nil _ _)
    (':' :: q.toList)
  simpa using joined

include letters in
theorem name_colonless : ':' ∉ name.toList := by
  intro member
  exact absurd (List.all_eq_true.mp letters ':' member) (by decide)

include letters in
theorem name_passed (cs : List Char) :
    (name.toList ++ ':' :: cs).foldl Scan.push ⟨0, none⟩ = cs.foldl Scan.push ⟨0, none⟩ := by
  have quiet : Neutral name.toList :=
    neutral_plain fun c member => Text.quiet_class (by decide) (List.all_eq_true.mp letters c member)
  have colon : Neutral [':'] := neutral_quiet (by decide)
  rw [List.foldl_append, quiet, ← List.singleton_append, List.foldl_append, colon]

include named name_trimmed letters query_trimmed read set in
theorem parse_outside (outside : (q.toList.foldl Scan.push ⟨0, none⟩).isOutside = true) :
    parse (name ++ ":" ++ q ++ "|" ++ flags) = .ok ⟨flagged (Column.named name) flags.toList, q, some query⟩ := by
  have split : splitFlags (Text.trimChars (name ++ ":" ++ q ++ "|" ++ flags).toList) =
      (name.toList ++ ':' :: q.toList, flags.toList) := by
    rw [written_trimmed named name_trimmed set, split_flags_behind _ _ set, name_passed letters, if_pos outside]
  have parts := split_name name.toList q.toList (name_colonless letters)
  rw [Text.trimmed_chars name_trimmed, Text.trimmed_chars query_trimmed] at parts
  rw [parse_parts split parts (by simpa using named) letters (by simpa using parsed_query_some read),
    String.ofList_toList, String.ofList_toList, read, apply_flags _ _ (List.all_eq_true.mp set)]

include named name_trimmed letters query_trimmed read set in
theorem parse_inside (inside : (q.toList.foldl Scan.push ⟨0, none⟩).isOutside = false) (spec : ColumnSpec)
    (parsed : parse (name ++ ":" ++ q ++ "|" ++ flags) = .ok spec) : spec.path = q ++ "|" ++ flags := by
  have split : splitFlags (Text.trimChars (name ++ ":" ++ q ++ "|" ++ flags).toList) =
      (name.toList ++ ':' :: (q.toList ++ '|' :: flags.toList), []) := by
    rw [written_trimmed named name_trimmed set, split_flags_behind _ _ set, name_passed letters,
      if_neg (by simp [inside]), List.append_assoc, List.cons_append]
  have parts := split_name name.toList (q.toList ++ '|' :: flags.toList) (name_colonless letters)
  have start := (Text.trim_fixed (Text.trimmed_chars query_trimmed)).1
  have joined := Text.trim_joined start (by simpa using parsed_query_some read) (flags_trimmed set)
    (List.cons_ne_nil _ _) []
  rw [List.nil_append] at joined
  rw [Text.trimmed_chars name_trimmed, joined] at parts
  rw [parse_parts split parts (by simpa using named) letters (by simp)] at parsed
  split at parsed
  · rw [← Except.ok.inj parsed, ← String.toList_inj]
    simp
  · cases parsed

/-- A query that can be read on its own is read so between a name and flags, and the flags set what they say, exactly if
the quotes, parentheses, brackets and braces in the query leave the search for the last bar outside. Else the bar and
the flags become part of the path. The query is read so if its texts are free of quotes and, for a path, of
parentheses, brackets and braces. -/
theorem parse_flagged (name q flags : String) (query : Query) (named : name ≠ "") (name_trimmed : Text.trim name = name)
    (letters : name.toList.all isNameChar = true) (query_trimmed : Text.trim q = q)
    (read : Query.parse q = .ok query) (set : flags.toList.all isFlag = true) :
    (parse (name ++ ":" ++ q ++ "|" ++ flags) = .ok ⟨flagged (Column.named name) flags.toList, q, some query⟩ ↔
        (q.toList.foldl Scan.push ⟨0, none⟩).isOutside = true) ∧
      ((q.toList.foldl Scan.push ⟨0, none⟩).isOutside = false →
        ∀ spec, parse (name ++ ":" ++ q ++ "|" ++ flags) = .ok spec → spec.path = q ++ "|" ++ flags) ∧
      (query.Legible →
        parse (name ++ ":" ++ q ++ "|" ++ flags) =
          .ok ⟨flagged (Column.named name) flags.toList, q, some query⟩) := by
  have split := parse_outside named name_trimmed letters query_trimmed read set
  have unsplit := parse_inside named name_trimmed letters query_trimmed read set
  refine ⟨⟨fun parsed => ?_, split⟩, unsplit, fun legible => split ?_⟩
  · by_cases outside : (q.toList.foldl Scan.push ⟨0, none⟩).isOutside = true
    · exact outside
    · -- The path would be longer than it is.
      have longer := unsplit (Bool.eq_false_iff.mpr outside) _ parsed
      have lengths := congrArg String.length longer
      have bar : "|".length = 1 := rfl
      rw [String.length_append, String.length_append, bar] at lengths
      dsimp only at lengths
      omega
  · have neutral := legible_neutral read legible
    rw [Text.trimmed_chars query_trimmed] at neutral
    rw [neutral]
    rfl

def pipedFields : Filter := .binary .pipe (.field .identity "a") (.field .identity "b")

theorem piped_fields_parsed :
    parse ("B" ++ ":" ++ ("(" ++ ".a|.b" ++ ")") ++ "|" ++ "WR") =
      .ok ⟨flagged (Column.named "B") "WR".toList, "(" ++ ".a|.b" ++ ")", some (.filter pipedFields)⟩ := by
  have inner : Filter.parse ".a|.b" = .ok pipedFields := by
    refine Query.read_of_tokens [(0, .field "a"), (2, .pipe), (3, .field "b")] ?_ rfl
    decide +kernel
  have read : Query.parse ("(" ++ ".a|.b" ++ ")") = .ok (.filter pipedFields) := by
    rw [Query.parse_wrapped, if_pos (by decide), Query.parseFilter, inner]
  refine (parse_flagged "B" ("(" ++ ".a|.b" ++ ")") "WR" (.filter pipedFields) (by decide) (by decide +kernel)
    (by decide +kernel) (by decide +kernel) read (by decide +kernel)).2.2 fun s inside => ?_
  have named : s = "a" ∨ s = "b" := by simpa [pipedFields, Filter.texts] using inside
  rcases named with rfl | rfl <;> decide

theorem escaped_quote_unparsed :
    (Query.parse "(.a | contains(\"\\\"\"))").toOption.isSome = true ∧
      (parse ("Q" ++ ":" ++ "(.a | contains(\"\\\"\"))" ++ "|" ++ "W")).toOption.isNone = true := by
  decide +kernel

end

end ColumnSpec

end LiveTable
