import LiveTable.Proofs.DecimalRuns
import LiveTable.Proofs.Trimming
import LiveTable.Proofs.UnsignedNumber

namespace LiveTable

namespace Elapsed

theorem numeric_visible {c : Char} (numeric : isNumeric c = true) : Text.isBlank c = false := by
  have range : '.'.toNat ≤ c.toNat ∧ c.toNat ≤ '9'.toNat := by
    rw [isNumeric, Bool.or_eq_true, Text.digit_range, beq_iff_eq] at numeric
    rcases numeric with digit | rfl
    · exact ⟨le_trans (by decide) digit.1, digit.2⟩
    · decide
  by_contra blank
  simp [Text.isBlank, Char.le_def, UInt32.le_iff_toNat_le, ← Char.toNat_inj] at blank range
  omega

theorem written_numeric (n : ℕ) : ∀ c ∈ Nat.toDigits 10 n, isNumeric c = true :=
  fun c member => digit_numeric (Reading.written_digits n c member)

end Elapsed

namespace Reading

open Elapsed (isNumeric)

theorem written_read (n : ℕ) : floatOfChars? (Nat.toDigits 10 n) = some (scaled n 0) := by
  have digits := written_digits n
  have whole : (Nat.toDigits 10 n).takeWhile isDigit = Nat.toDigits 10 n := List.takeWhile_eq_self_iff.mpr digits
  have nothing : (Nat.toDigits 10 n).dropWhile isDigit = [] := List.dropWhile_eq_nil_iff.mpr digits
  have read : unsignedFloat? (Nat.toDigits 10 n) = some (scaled n 0) := by
    simp [unsignedFloat?, whole, nothing, exponent?, nat_of_written, Nat.toDigits_ne_nil]
  rw [floatOfChars?, Elapsed.numeric_sign _ (Elapsed.written_numeric n)]
  simp [read]

theorem exponent_starts {cs : List Char} {e : Int} (read : exponent? cs = some e) :
    ∀ c ∈ cs.head?, c = 'e' ∨ c = 'E' := by
  cases cs with
  | nil => simp
  | cons c rest =>
      rw [exponent?, Option.ite_none_right_eq_some] at read
      simpa using read.1

theorem unsigned_parts {cs : List Char} {x : Float} (read : unsignedFloat? cs = some x) : ∃ front behind,
    cs = front ++ behind ∧ (∀ c ∈ front, isNumeric c = true) ∧ ∀ c ∈ behind.head?, c = 'e' ∨ c = 'E' := by
  have digits {ds : List Char} : ∀ c ∈ ds.takeWhile isDigit, isNumeric c = true :=
    fun c member => Elapsed.digit_numeric (List.mem_takeWhile_imp member)
  have whole : cs.takeWhile isDigit ++ cs.dropWhile isDigit = cs := List.takeWhile_append_dropWhile
  simp only [unsignedFloat?, Option.ite_none_left_eq_some, Option.map_eq_some_iff] at read
  obtain ⟨_, e, exponent, _⟩ := read
  split at exponent
  · rename_i part point
    have decimals : part.takeWhile isDigit ++ part.dropWhile isDigit = part := List.takeWhile_append_dropWhile
    refine ⟨cs.takeWhile isDigit ++ '.' :: part.takeWhile isDigit, part.dropWhile isDigit, ?_, ?_,
      exponent_starts exponent⟩
    · rw [List.append_assoc, List.cons_append, decimals, ← point, whole]
    · exact List.forall_mem_append.mpr ⟨digits, List.forall_mem_cons.mpr ⟨rfl, digits⟩⟩
  · exact ⟨_, _, whole.symm, digits, exponent_starts exponent⟩

theorem numbered_unread {number unit : List Char} {c : Char} (some : number ≠ [])
    (numeric : ∀ d ∈ number, isNumeric d = true) (other : isNumeric c = false) (lower : c ≠ 'e') (upper : c ≠ 'E') :
    floatOfChars? (number ++ c :: unit) = none := by
  have unsigned : unsignedFloat? (number ++ c :: unit) = none := by
    by_contra read
    obtain ⟨x, read⟩ := Option.ne_none_iff_exists'.mp read
    obtain ⟨front, behind, split, front_numeric, starts⟩ := unsigned_parts read
    have stops : ∀ d ∈ (c :: unit).head?, isNumeric d = false := by simpa using other
    have stops' : ∀ d ∈ behind.head?, isNumeric d = false := by
      intro d member
      rcases starts d member with rfl | rfl <;> decide
    have same : c :: unit = behind := by
      rw [← (Text.front_taken numeric stops).2, split, (Text.front_taken front_numeric stops').2]
    rcases starts c (by rw [← same]; rfl) with rfl | rfl <;> contradiction
  cases number with
  | nil => exact absurd rfl some
  | cons d ds =>
      have first := numeric d List.mem_cons_self
      have word : word? (d :: (ds ++ c :: unit)) = none := Elapsed.numeric_no_word List.mem_cons_self first
      rw [List.cons_append] at unsigned ⊢
      simp only [floatOfChars?, Elapsed.numeric_unsigned _ first, unsigned, word, Option.or_none, Option.map_none]

end Reading

namespace Elapsed

theorem numbered_untimed {s : String} {number unit : List Char} (text : s.toList = number ++ unit)
    (some : number ≠ []) (numeric : ∀ c ∈ number, isNumeric c = true) (visible : ∀ c ∈ s.toList, Text.isBlank c = false)
    (stops : ∀ c ∈ unit.head?, isNumeric c = false) (untimed : unit? unit = none) : seconds? s = none := by
  obtain ⟨taken, left⟩ := Text.front_taken numeric stops
  have trimmed : (Text.trim s).toList = number ++ unit := by
    rw [Text.trim_visible_text visible, text]
  simp only [seconds?]
  split
  · rfl
  · rw [sum?, trimmed, taken, left, untimed]
    simp [some]

end Elapsed

end LiveTable
