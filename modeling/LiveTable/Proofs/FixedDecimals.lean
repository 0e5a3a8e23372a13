import LiveTable.Proofs.NumberedCells
import LiveTable.Proofs.Rounding

namespace LiveTable

namespace Reading

theorem zeros_value (count : ℕ) : natOfDigits (List.replicate count '0') = 0 := by
  induction count with
  | zero => rfl
  | succ count ih => rw [List.replicate_succ, nat_of_digits_cons, ih, digitValue, Nat.sub_self, Nat.zero_mul]

end Reading

namespace Fixed

open Reading (isDigit natOfDigits scaled)

theorem laid_out {places : ℕ} (some : 0 < places) (units : ℕ) : ∃ part,
    (layOut places units).toList = Nat.toDigits 10 (units / 10 ^ places) ++ '.' :: part ∧ part.length = places ∧
      (∀ c ∈ part, isDigit c = true) ∧ natOfDigits part = units % 10 ^ places := by
  have short : (Nat.toDigits 10 (units % 10 ^ places)).length ≤ places :=
    (Nat.length_toDigits_le_iff (by decide) some).mpr (Nat.mod_lt _ (Nat.pow_pos (by decide)))
  have length : (units % 10 ^ places).repr.length = (Nat.toDigits 10 (units % 10 ^ places)).length := by
    rw [← String.length_toList, Nat.toList_repr]
  refine ⟨List.replicate (places - (Nat.toDigits 10 (units % 10 ^ places)).length) '0' ++
    Nat.toDigits 10 (units % 10 ^ places), ?_, ?_, ?_, ?_⟩
  · simp only [layOut, Nat.pow_eq, Nat.toString_eq_repr, length, String.toList_append, String.toList_ofList,
      Nat.toList_repr, List.append_assoc]
    rfl
  · rw [List.length_append, List.length_replicate]
    omega
  · intro c member
    rcases List.mem_append.mp member with zero | digit
    · rw [List.eq_of_mem_replicate zero]
      rfl
    · exact Reading.written_digits _ c digit
  · rw [Reading.nat_of_digits_append, Reading.zeros_value, Reading.nat_of_written, Nat.zero_mul, Nat.zero_add]

theorem laid_out_some {places : ℕ} (some : 0 < places) (units : ℕ) : (layOut places units).toList ≠ [] := by
  obtain ⟨part, text, _, _, _⟩ := laid_out some units
  simp [text]

theorem laid_out_numeric {places : ℕ} (some : 0 < places) (units : ℕ) :
    ∀ c ∈ (layOut places units).toList, Elapsed.isNumeric c = true := by
  obtain ⟨part, text, _, digits, _⟩ := laid_out some units
  intro c member
  rw [text, List.mem_append, List.mem_cons] at member
  rcases member with whole | rfl | decimal
  · exact Elapsed.written_numeric _ c whole
  · rfl
  · exact Elapsed.digit_numeric (digits c decimal)

theorem laid_out_read {places : ℕ} (some : 0 < places) (units : ℕ) :
    Reading.floatOfChars? (layOut places units).toList = .some (scaled units (-places)) := by
  have numeric := laid_out_numeric some units
  obtain ⟨part, text, size, digits, value⟩ := laid_out some units
  have point : ∀ c ∈ ('.' :: part).head?, isDigit c = false := by simp [isDigit]
  obtain ⟨first, behind⟩ := Text.front_taken (Reading.written_digits (units / 10 ^ places)) point
  have decimals : part.takeWhile isDigit = part := List.takeWhile_eq_self_iff.mpr digits
  have nothing : part.dropWhile isDigit = [] := List.dropWhile_eq_nil_iff.mpr digits
  have all : natOfDigits (Nat.toDigits 10 (units / 10 ^ places) ++ part) = units := by
    rw [Reading.nat_of_digits_append, Reading.nat_of_written, value, size, Nat.mul_comm, Nat.div_add_mod]
  have read : Reading.unsignedFloat? (layOut places units).toList = .some (scaled units (-places)) := by
    rw [text, Reading.unsignedFloat?]
    simp only [first, behind, decimals, nothing, all, size, Reading.exponent?]
    simp [Nat.toDigits_ne_nil]
  rw [Reading.floatOfChars?, Elapsed.numeric_sign _ numeric]
  simp [read]

theorem laid_out_order {places : ℕ} (some : 0 < places) (a b : ℕ) {as bs : List Char}
    (stops : ∀ c ∈ as.head?, isDigit c = false) (stops' : ∀ c ∈ bs.head?, isDigit c = false) :
    Text.naturalOrderChars ((layOut places a).toList ++ as) ((layOut places b).toList ++ bs) =
      (compare a b).then (Text.naturalOrderChars as bs) := by
  obtain ⟨part, text, length, digits, value⟩ := laid_out some a
  obtain ⟨part', text', length', digits', value'⟩ := laid_out some b
  have nonempty {ds : List Char} (long : ds.length = places) : ds ≠ [] := by
    rintro rfl
    exact absurd long some.ne
  have small (n : ℕ) : n % 10 ^ places < 10 ^ places := Nat.mod_lt n (by positivity)
  have point (cs : List Char) : ∀ c ∈ ('.' :: cs).head?, isDigit c = false := by simp [isDigit]
  rw [text, text', List.append_assoc, List.append_assoc, List.cons_append, List.cons_append,
    Text.written_order _ _ (point _) (point _), Text.character_order (by decide), Std.compare_self, Ordering.eq_then,
    Text.run_order (nonempty length) (nonempty length') digits digits' stops stops',
    Text.compare_runs_value digits digits', length, length', Std.compare_self, Ordering.then_eq, ← Ordering.then_assoc,
    value, value', Text.compare_leading (small a) (small b), Nat.div_add_mod', Nat.div_add_mod']

theorem of_float_value (places : ℕ) {x : Float} {v : ℚ} (value : Binary64.HasValue x v) :
    ofFloat places x = layOut places (nearestEven (v * 10 ^ places)) := by
  obtain ⟨m, e, normal, rfl⟩ := value
  have ratio := Binary64.ratio_value (Binary64.magnitude x)
  rw [Binary64.normal_magnitude normal] at ratio
  rw [ofFloat, Binary64.normal_magnitude normal]
  dsimp only
  rw [ofRatio, round_div_nearest _ (Binary64.ratio_positive _), Nat.pow_eq, Nat.cast_mul, mul_div_right_comm, ratio]
  push_cast
  rfl

end Fixed

end LiveTable
