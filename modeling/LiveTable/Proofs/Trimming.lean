import LiveTable.Text.Blank
import Mathlib.Data.List.TakeWhile

namespace LiveTable.Text

theorem trim_start_behind (cs : List Char) : ∃ before, cs = before ++ trimStart cs ∧ ∀ c ∈ before, isBlank c = true :=
  ⟨cs.takeWhile isBlank, List.takeWhile_append_dropWhile.symm, List.all_eq_true.mp List.all_takeWhile⟩

theorem trim_end_before (cs : List Char) : ∃ behind, cs = trimEnd cs ++ behind ∧ ∀ c ∈ behind, isBlank c = true := by
  obtain ⟨before, whole, blank⟩ := trim_start_behind cs.reverse
  refine ⟨before.reverse, ?_, fun c member => blank c (List.mem_reverse.mp member)⟩
  rw [trimEnd, ← trimStart, ← List.reverse_append, ← whole, List.reverse_reverse]

theorem trim_start_filter (p : Char → Bool) (blank : ∀ c, p c = false → isBlank c = true) (cs : List Char) :
    trimStart (cs.filter p) = (trimStart cs).filter p := by
  unfold trimStart
  induction cs with
  | nil => rfl
  | cons c cs ih =>
      by_cases kept : p c = true
      · rw [List.filter_cons_of_pos kept, List.dropWhile_cons, List.dropWhile_cons, ih]
        split
        · rfl
        · rw [List.filter_cons_of_pos kept]
      · have dropped : isBlank c = true := blank c (Bool.eq_false_iff.mpr kept)
        rw [List.filter_cons_of_neg kept, ih, List.dropWhile_cons_of_pos dropped]

theorem trim_end_filter (p : Char → Bool) (blank : ∀ c, p c = false → isBlank c = true) (cs : List Char) :
    trimEnd (cs.filter p) = (trimEnd cs).filter p := by
  rw [trimEnd, trimEnd, ← trimStart, ← trimStart, ← List.filter_reverse, trim_start_filter p blank, List.filter_reverse]

theorem mem_trim_end_filter (p : Char → Bool) (blank : ∀ c, p c = false → isBlank c = true) (c : Char)
    (kept : p c = true) (cs : List Char) : c ∈ trimEnd (cs.filter p) ↔ c ∈ trimEnd cs := by
  rw [trim_end_filter p blank, List.mem_filter, and_iff_left kept]

theorem trim_between (cs : List Char) : ∃ before behind, cs = before ++ (trimChars cs ++ behind) ∧
    (∀ c ∈ before, isBlank c = true) ∧ ∀ c ∈ behind, isBlank c = true := by
  obtain ⟨before, whole, first⟩ := trim_start_behind cs
  obtain ⟨behind, inner, last⟩ := trim_end_before (trimStart cs)
  exact ⟨before, behind, by rw [trimChars, ← inner, ← whole], first, last⟩

theorem trim_fixed {cs : List Char} (fixed : trimChars cs = cs) : trimStart cs = cs ∧ trimEnd cs = cs := by
  obtain ⟨before, whole, _⟩ := trim_start_behind cs
  obtain ⟨behind, inner, _⟩ := trim_end_before (trimStart cs)
  have size := congrArg List.length whole
  have kept := congrArg List.length inner
  rw [← trimChars, fixed, List.length_append] at kept
  rw [List.length_append] at size
  have none_before : before = [] := List.eq_nil_of_length_eq_zero (by omega)
  have start : trimStart cs = cs := by
    rw [none_before, List.nil_append] at whole
    exact whole.symm
  refine ⟨start, ?_⟩
  rwa [trimChars, start] at fixed

theorem trim_start_append {cs : List Char} (fixed : trimStart cs = cs) (some : cs ≠ []) (behind : List Char) :
    trimStart (cs ++ behind) = cs ++ behind := by
  cases cs with
  | nil => exact absurd rfl some
  | cons c rest =>
      have visible : ¬isBlank c = true := List.dropWhile_eq_self_iff.mp fixed (Nat.zero_lt_succ _)
      simp [trimStart, visible]

theorem trim_end_append {cs : List Char} (fixed : trimEnd cs = cs) (some : cs ≠ []) (before : List Char) :
    trimEnd (before ++ cs) = before ++ cs := by
  have reversed : trimStart cs.reverse = cs.reverse := by
    rw [← List.reverse_reverse (trimStart cs.reverse)]
    exact congrArg List.reverse fixed
  have whole := trim_start_append reversed (by simpa using some) before.reverse
  rw [trimEnd, ← trimStart, List.reverse_append, whole, List.reverse_append, List.reverse_reverse, List.reverse_reverse]

theorem trim_start_visible {cs : List Char} (start : ∀ c ∈ cs.head?, isBlank c = false) : trimStart cs = cs := by
  cases cs with
  | nil => rfl
  | cons c rest => simp [trimStart, start c rfl]

theorem trim_end_visible {cs : List Char} (stop : ∀ c ∈ cs.getLast?, isBlank c = false) : trimEnd cs = cs := by
  rw [trimEnd, ← trimStart, trim_start_visible (by simpa using stop), List.reverse_reverse]

theorem trim_visible_ends {cs : List Char} (start : ∀ c ∈ cs.head?, isBlank c = false)
    (stop : ∀ c ∈ cs.getLast?, isBlank c = false) : trimChars cs = cs := by
  rw [trimChars, trim_start_visible start, trim_end_visible stop]

theorem trim_text (s : String) : (trim s).toList = trimChars s.toList := String.toList_ofList

theorem trimmed_chars {s : String} (trimmed : trim s = s) : trimChars s.toList = s.toList := by
  rw [← trim_text, trimmed]

theorem trim_joined {first last : List Char} (start : trimStart first = first) (some_first : first ≠ [])
    (stop : trimEnd last = last) (some_last : last ≠ []) (middle : List Char) :
    trimChars (first ++ (middle ++ last)) = first ++ (middle ++ last) := by
  rw [trimChars, trim_start_append start some_first, ← List.append_assoc, trim_end_append stop some_last]

theorem trim_enclosed {opener closer : Char} (opens : isBlank opener = false) (closes : isBlank closer = false)
    (inner : List Char) : trimChars (opener :: (inner ++ [closer])) = opener :: (inner ++ [closer]) := by
  simp [trimChars, trimStart, trimEnd, opens, closes]

theorem trim_visible {cs : List Char} (visible : ∀ c ∈ cs, isBlank c = false) : trimChars cs = cs :=
  trim_visible_ends (fun c first => visible c (List.mem_of_mem_head? first))
    fun c last => visible c (List.mem_of_mem_getLast? last)

theorem trim_visible_text {s : String} (visible : ∀ c ∈ s.toList, isBlank c = false) : trim s = s := by
  rw [trim, trim_visible visible, String.ofList_toList]

end LiveTable.Text
