import LiveTable.Proofs.Declaration
import Mathlib.Data.List.Forall2
import Mathlib.Data.List.Induction

namespace LiveTable

namespace ColumnSpec

def side? : Char → Option Align
  | 'L' => some .left
  | 'N' | 'R' => some .right
  | _ => none

def lastSide? (flags : List Char) : Option Align := flags.reverse.findSome? side?

def flagged (c : Column) (flags : List Char) : Column :=
  { c with
    align := (lastSide? flags).getD c.align
    wide := c.wide || flags.contains 'W'
    hidden := c.hidden || flags.contains 'H'
    time := c.time || flags.contains 'T'
    capacity := c.capacity || flags.contains 'N' }

theorem flag_letter (c : Char) (flag : isFlag c = true) : c ∈ ['N', 'T', 'W', 'L', 'R', 'H'] :=
  List.contains_iff_mem.mp flag

theorem last_side_append (flags : List Char) (flag : Char) :
    lastSide? (flags ++ [flag]) = (side? flag).or (lastSide? flags) := by
  rw [lastSide?, List.reverse_append, List.reverse_singleton, List.singleton_append, List.findSome?_cons]
  cases side? flag <;> rfl

theorem flagged_append (c : Column) (flags : List Char) (flag : Char) (letter : isFlag flag = true) :
    flagged c (flags ++ [flag]) = applyFlag (flagged c flags) flag := by
  have known := flag_letter flag letter
  simp only [List.mem_cons, List.not_mem_nil, or_false] at known
  rcases known with rfl | rfl | rfl | rfl | rfl | rfl <;>
    simp [flagged, applyFlag, last_side_append, side?]

-- The flags are read one after another, so the induction is from their end.
theorem apply_flags (c : Column) (flags : List Char) (letters : ∀ flag ∈ flags, isFlag flag = true) :
    applyFlags c flags = flagged c flags := by
  induction flags using List.reverseRecOn with
  | nil => simp [applyFlags, flagged, lastSide?]
  | append_singleton flags flag ih =>
      have before := ih fun other member => letters other (List.mem_append_left _ member)
      rw [flagged_append c flags flag (letters flag (by simp)), ← before, applyFlags, List.foldl_append]
      rfl

def flagsOf (raw : String) : List Char := (splitFlags (Text.trimChars raw.toList)).2

theorem split_flags_letters (cs : List Char) : ∀ flag ∈ (splitFlags cs).2, isFlag flag = true := by
  unfold splitFlags
  split
  · split
    · rename_i letters
      exact List.all_eq_true.mp letters
    · intro flag member
      cases member
  · intro flag member
    cases member

theorem parse_column (raw : String) (spec : ColumnSpec) (read : parse raw = .ok spec) :
    spec.column = flagged (Column.named spec.name) (flagsOf raw) := by
  have column (name : String) := apply_flags (Column.named name) _ (split_flags_letters (Text.trimChars raw.toList))
  rw [parse] at read
  simp only [column] at read
  split at read
  · cases read
  split at read
  · cases read
  split at read
  · rw [← Except.ok.inj read]
    rfl
  split at read
  · rw [← Except.ok.inj read]
    rfl
  · cases read

end ColumnSpec

namespace ColumnSpecs

theorem parse_onto_each (specs next : ColumnSpecs) (columns : List String)
    (parsed : parseOnto specs columns = .ok next) : ∃ more,
      next = specs ++ more ∧ List.Forall₂ (fun raw spec => ColumnSpec.parse raw = .ok spec) columns more := by
  induction columns generalizing specs with
  | nil =>
      cases parsed
      exact ⟨[], (List.append_nil _).symm, .nil⟩
  | cons raw rest ih =>
      rw [parseOnto] at parsed
      cases read : ColumnSpec.parse raw with
      | error e => simp [read] at parsed
      | ok spec =>
          by_cases taken : specs.any (·.name == spec.name) = true
          · simp [read, taken] at parsed
          · simp only [read, if_neg taken] at parsed
            obtain ⟨more, rfl, each⟩ := ih _ parsed
            exact ⟨spec :: more, List.append_assoc .., .cons read each⟩

theorem parse_each (columns : List String) (specs : ColumnSpecs) (parsed : parse columns = .ok specs) (j : Nat)
    (raw : String) (written : columns[j]? = some raw) :
    ∃ spec, specs[j]? = some spec ∧ ColumnSpec.parse raw = .ok spec := by
  obtain ⟨more, listed, each⟩ := parse_onto_each [] specs columns parsed
  rw [List.nil_append] at listed
  subst listed
  obtain ⟨inside, rfl⟩ := List.getElem?_eq_some_iff.mp written
  have same := each.length_eq
  exact ⟨specs[j], List.getElem?_eq_getElem (same ▸ inside), List.Forall₂.get each inside (same ▸ inside)⟩

end ColumnSpecs

namespace Column

theorem merge_right (c builtin : Column) :
    (c.merge builtin).align = .right ↔ c.align = .right ∨ builtin.align = .right := by
  rw [merge]
  cases c.align <;> cases builtin.align <;> simp

theorem taking_right (c : Column) (h : Header) :
    (c.taking h).align = .right ↔ c.align = .right ∨ ∃ builtin ∈ h, builtin.name = c.name ∧ builtin.align = .right := by
  have adds (custom builtin : Column) : decide ((custom.merge builtin).align = .right) =
      (decide (custom.align = .right) || decide (builtin.align = .right)) := by
    rw [Bool.eq_iff_iff, Bool.or_eq_true, decide_eq_true_eq, decide_eq_true_eq, decide_eq_true_eq]
    exact merge_right custom builtin
  have right := taking_mark (fun d => decide (d.align = .right)) c h adds
  rw [Bool.eq_iff_iff] at right
  simpa using right

end Column

namespace ColumnSpecs

theorem flagged_side_shown (specs : ColumnSpecs) (columns : List String) (builtin : Header) (j : Nat) (raw : String)
    (parsed : parse columns = .ok specs) (written : columns[j]? = some raw) :
    ∃ spec shown, ColumnSpec.parse raw = .ok spec ∧ (specs.header builtin)[j]? = some shown ∧ shown.name = spec.name ∧
      (shown.align = .right ↔ ColumnSpec.lastSide? (ColumnSpec.flagsOf raw) = some .right ∨
        ∃ c ∈ builtin, c.name = spec.name ∧ c.align = .right) ∧
      (builtin.Distinct → ∀ c ∈ builtin, c.name = spec.name →
        (shown.align = (ColumnSpec.lastSide? (ColumnSpec.flagsOf raw)).getD c.align ↔
          ¬(ColumnSpec.lastSide? (ColumnSpec.flagsOf raw) = some .left ∧ c.align = .right))) := by
  obtain ⟨spec, listed, read⟩ := parse_each columns specs parsed j raw written
  have own : spec.column.align = (ColumnSpec.lastSide? (ColumnSpec.flagsOf raw)).getD .left := by
    rw [ColumnSpec.parse_column raw spec read]
    rfl
  have shown : (specs.header builtin)[j]? = some (spec.column.taking builtin) := by
    rw [header_columns specs builtin (parse_distinct specs columns parsed), List.getElem?_append_left,
      List.getElem?_map, listed]
    · rfl
    · rw [List.length_map]
      exact (List.getElem?_eq_some_iff.mp listed).1
  have right : (spec.column.taking builtin).align = .right ↔
      ColumnSpec.lastSide? (ColumnSpec.flagsOf raw) = some .right ∨
        ∃ c ∈ builtin, c.name = spec.name ∧ c.align = .right := by
    rw [Column.taking_right, own]
    generalize ColumnSpec.lastSide? (ColumnSpec.flagsOf raw) = said
    rcases said with _ | _ | _ <;> simp [ColumnSpec.name]
  refine ⟨spec, _, read, shown, spec.column.taking_name builtin, right, ?_⟩
  intro distinct c member named
  rw [Column.taking_present spec.column c builtin distinct member named, Column.merge, own]
  generalize ColumnSpec.lastSide? (ColumnSpec.flagsOf raw) = said
  cases side : c.align <;> rcases said with _ | _ | _ <;> simp

def restartsHeader : Header := [Column.named "NAME", { name := "RESTARTS", align := .right }]

def nameToTheRight : ColumnSpecs := (parse ["NAME|LWR"]).toOption.getD []

theorem name_shown_right :
    ColumnSpec.lastSide? (ColumnSpec.flagsOf "NAME|LWR") = some .right ∧
      ∃ shown, (nameToTheRight.header restartsHeader)[0]? = some shown ∧ shown.align = .right := by
  have last : ColumnSpec.lastSide? (ColumnSpec.flagsOf "NAME|LWR") = some .right := by decide +kernel
  obtain ⟨_, shown, _, listed, _, right, _⟩ := flagged_side_shown nameToTheRight ["NAME|LWR"] restartsHeader 0
    "NAME|LWR" (parse_accepted _ (by decide +kernel)) rfl
  exact ⟨last, shown, listed, right.mpr (.inl last)⟩

theorem left_flag_gives_way :
    ∃ specs, parse ["RESTARTS|L"] = .ok specs ∧ ColumnSpec.lastSide? (ColumnSpec.flagsOf "RESTARTS|L") = some .left ∧
      (specs.header restartsHeader).map (fun c => (c.name, c.align)) = [("RESTARTS", .right), ("NAME", .left)] :=
  ⟨_, parse_accepted _ (by decide +kernel), by decide +kernel⟩

end ColumnSpecs

end LiveTable
