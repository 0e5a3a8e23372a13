import LiveTable.Text.Search

namespace LiveTable.Text

theorem split_first {c : Char} {before : List Char} (absent : c ∉ before) (after : List Char) :
    (before ++ c :: after).splitOn c = before :: after.splitOn c := by
  have first : (before ++ c :: after).splitOn c = before.splitOn c ++ after.splitOn c :=
    List.splitOnP_append_cons before after (beq_self_eq_true c)
  rw [first, List.splitOn_eq_singleton absent, List.singleton_append]

theorem split_induction (c : Char) {motive : List Char → Prop} (whole : ∀ text, c ∉ text → motive text)
    (broken : ∀ before after, c ∉ before → motive after → motive (before ++ c :: after)) (text : List Char) :
    motive text := by
  by_cases inside : c ∈ text
  · obtain ⟨before, after, same, absent⟩ := List.eq_append_cons_of_mem inside
    have shorter : after.length < text.length := by
      rw [same, List.length_append, List.length_cons]
      omega
    rw [same]
    exact broken before after absent (split_induction c whole broken after)
  · exact whole text inside
termination_by text.length

theorem split_length (c : Char) (text : List Char) : (text.splitOn c).length = text.count c + 1 := by
  induction text using split_induction c with
  | whole text absent =>
      rw [List.splitOn_eq_singleton absent, List.count_eq_zero_of_not_mem absent, List.length_singleton]
  | broken before after absent ih =>
      rw [split_first absent, List.length_cons, ih, List.count_append, List.count_eq_zero_of_not_mem absent,
        List.count_cons_self, Nat.zero_add]

theorem split_parts (c : Char) (text part : List Char) (member : part ∈ text.splitOn c) :
    c ∉ part ∧ ∀ d ∈ part, d ∈ text := by
  induction text using split_induction c with
  | whole text absent =>
      rw [List.splitOn_eq_singleton absent, List.mem_singleton] at member
      subst member
      exact ⟨absent, fun _ given => given⟩
  | broken before after absent ih =>
      rw [split_first absent, List.mem_cons] at member
      rcases member with rfl | later
      · exact ⟨absent, fun _ given => List.mem_append_left _ given⟩
      · obtain ⟨free, kept⟩ := ih later
        exact ⟨free, fun d given => List.mem_append_right _ (List.mem_cons_of_mem c (kept d given))⟩

theorem break_at_char (c : Char) (text : List Char) :
    breakAt [c] text = none ∧ c ∉ text ∨
      ∃ before after, breakAt [c] text = some (before, after) ∧ text = before ++ c :: after ∧ c ∉ before := by
  induction text with
  | nil => exact .inl ⟨rfl, List.not_mem_nil⟩
  | cons d text ih =>
      by_cases same : c = d
      · subst same
        exact .inr ⟨[], text, by simp [breakAt], rfl, List.not_mem_nil⟩
      · have passed : breakAt [c] (d :: text) =
            (breakAt [c] text).map fun parts => (d :: parts.1, parts.2) := by
          simp [breakAt, same]
        rw [passed]
        rcases ih with ⟨whole, absent⟩ | ⟨before, after, broken, rfl, absent⟩
        · exact .inl ⟨by rw [whole]; rfl, List.not_mem_cons_of_ne_of_not_mem same absent⟩
        · exact .inr ⟨d :: before, after, by rw [broken]; rfl, rfl, List.not_mem_cons_of_ne_of_not_mem same absent⟩

theorem split_loop_char (c : Char) (fuel : Nat) (text : List Char) (enough : text.length ≤ fuel) :
    splitLoop [c] fuel text = text.splitOn c := by
  induction fuel generalizing text with
  | zero =>
      rw [List.eq_nil_of_length_eq_zero (Nat.le_zero.mp enough), List.splitOn_nil]
      rfl
  | succ fuel ih =>
      rcases break_at_char c text with ⟨whole, absent⟩ | ⟨before, after, broken, rfl, absent⟩
      · rw [splitLoop, whole, List.splitOn_eq_singleton absent]
      · rw [List.length_append, List.length_cons] at enough
        rw [splitLoop, broken, split_first absent]
        exact congrArg (before :: ·) (ih after (by omega))

theorem split_at_char (c : Char) (text : List Char) : splitChars [c] text = text.splitOn c :=
  split_loop_char c text.length text (Nat.le_refl _)

theorem split_on_char (c : Char) (text : String) : splitOnChar c text = (text.toList.splitOn c).map String.ofList := by
  rw [splitOnChar, split, String.toList_singleton, split_at_char]

theorem lines_count (c : Char) (lines : List (List Char)) :
    ((lines.flatMap (· ++ [c])).splitOn c).length = lines.length + lines.flatten.count c + 1 := by
  rw [split_length]
  induction lines with
  | nil => rfl
  | cons line lines ih =>
      simp only [List.flatMap_cons, List.flatten_cons, List.count_append, List.count_singleton_self, List.length_cons]
      omega

theorem lines_split (c : Char) (lines : List (List Char)) (whole : ∀ line ∈ lines, c ∉ line) :
    (lines.flatMap (· ++ [c])).splitOn c = lines ++ [[]] := by
  induction lines with
  | nil => rfl
  | cons line lines ih =>
      rw [List.flatMap_cons, List.append_assoc, List.singleton_append, split_first (whole line List.mem_cons_self),
        ih fun other member => whole other (List.mem_cons_of_mem line member)]
      rfl

theorem lines_split_iff (c : Char) (lines : List (List Char)) :
    (lines.flatMap (· ++ [c])).splitOn c = lines ++ [[]] ↔ ∀ line ∈ lines, c ∉ line := by
  refine ⟨fun split line member broken => ?_, lines_split c lines⟩
  have counted := lines_count c lines
  rw [split, List.length_append, List.length_singleton] at counted
  have none : lines.flatten.count c = 0 := by omega
  exact List.count_eq_zero.mp none (List.mem_flatten_of_mem member broken)

end LiveTable.Text
