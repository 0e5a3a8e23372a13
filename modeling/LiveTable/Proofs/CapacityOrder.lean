import LiveTable.Proofs.AmountCells
import LiveTable.Proofs.CellCharacters
import LiveTable.Proofs.CellOrder

namespace LiveTable

namespace Quantity

theorem read_back_mono {a b k k' tenths tenths' : ℕ} {unit unit' : String} (first : Shown a unit k tenths)
    (second : Shown b unit' k' tenths') (le : to53Bits a ≤ to53Bits b) : readBack k tenths ≤ readBack k' tenths' := by
  obtain ⟨low, high⟩ := shown_tenths first
  obtain ⟨low', high'⟩ := shown_tenths second
  obtain ⟨least, most⟩ := tenths_between low high
  obtain ⟨least', _⟩ := tenths_between low' high'
  have some : (0 : ℚ) < tenths := by exact_mod_cast (by omega : 0 < tenths)
  have units : k ≤ k' := by
    have span : 2 ^ k < 2 ^ (k' + 10) := (first.low.trans le).trans_lt second.high
    have close := (Nat.pow_lt_pow_iff_right (by decide)).mp span
    have tens := first.tens
    have tens' := second.tens
    omega
  apply nearest_mono (by positivity)
  rcases units.lt_or_eq with smaller | rfl
  · -- A thousand and twenty-four of the smaller unit are not more than one of the greater unit.
    have apart : k + 10 ≤ k' := by
      have tens := first.tens
      have tens' := second.tens
      omega
    calc nearest (tenths / 10) * 2 ^ k ≤ 2 ^ 10 * 2 ^ k := by gcongr
      _ = 2 ^ (k + 10) := by rw [pow_add, mul_comm]
      _ ≤ 2 ^ k' := pow_le_pow_right₀ (by norm_num) apart
      _ ≤ nearest (tenths' / 10) * 2 ^ k' := le_mul_of_one_le_left (by positivity) least'
  · have more : tenths ≤ tenths' := by
      rw [first.rounded, second.rounded]
      exact round_div_mono (Nat.two_pow_pos k) (Nat.mul_le_mul_right 10 le)
    have grown : nearest (tenths / 10) ≤ nearest (tenths' / 10) := by
      apply nearest_mono (by positivity)
      gcongr
    gcongr

end Quantity

namespace CellOrder

open Quantity (showBytes Shown)

variable {o : CellOrder} (capacity : o.capacity = true) (duration : o.duration = false)

include capacity in
theorem compare_quantities (s t : String) : o.compareAmounts s t = byReading o.amount s t := by
  have number (s : String) (x : Float) (read : o.amount? s = some x) : Binary64.isNaN x = false := by
    rw [amount?, if_pos capacity] at read
    exact quantity_number s x read
  exact compare_amounts_read o s t (number s) (number t)

theorem without_no_commas {s : String} (free : ',' ∉ s.toList) : withoutCommas s = s := by
  have all : s.toList.filter (· != ',') = s.toList :=
    List.filter_eq_self.mpr fun c member => bne_iff_ne.mpr (by rintro rfl; exact free member)
  rw [withoutCommas, all, String.ofList_toList]

theorem by_reading_same (read : String → Option Int) (s : String) : byReading read s s = .eq :=
  Std.ReflCmp.compare_self

include capacity duration in
theorem compare_shown (a b : ℕ) :
    o.compare (showBytes a) (showBytes b) = byReading o.amount (showBytes a) (showBytes b) := by
  by_cases same : showBytes a = showBytes b
  · rw [same, compare_same, by_reading_same]
  · rw [compare, if_neg same, duration, Quantity.show_bytes_untimed, Quantity.show_bytes_untimed]
    simp only [capacity, Bool.or_true, if_true, without_no_commas (Quantity.show_bytes_no_comma _)]
    exact compare_quantities capacity _ _

include capacity in
theorem amount_not_negative {s : String} {x : Int} (read : o.amount s = some x) : 0 ≤ x := by
  simp only [amount, amount?, capacity, if_true, Option.map_eq_some_iff] at read
  obtain ⟨y, parsed, rfl⟩ := read
  unfold Quantity.parse? at parsed
  grind

include capacity in
theorem amount_zero : o.amount (showBytes 0) = some 0 := by
  have zero : (Quantity.parse? (showBytes 0)).map Binary64.key = some 0 := by decide +kernel
  simpa only [amount, amount?, capacity, if_true] using zero

include capacity in
theorem amount_few {n : ℕ} (some : 0 < n) (few : n < 1024) : o.amount (showBytes n) = none := by
  simp only [amount, amount?, capacity, if_true, Quantity.parse_few some few, Option.map_none]

include capacity in
theorem amount_many {n : ℕ} (many : 1024 ≤ n) (short : n < 2 ^ 64) : ∃ unit k tenths x, Shown n unit k tenths ∧
    o.amount (showBytes n) = some (Binary64.key x) ∧ Binary64.HasValue x (Quantity.readBack k tenths) := by
  obtain ⟨unit, k, tenths, shown⟩ := Quantity.shown_in_units many short
  obtain ⟨x, read, value⟩ := Quantity.parse_shown shown
  refine ⟨unit, k, tenths, x, shown, ?_, value⟩
  simp only [amount, amount?, capacity, if_true, read, Option.map_some]

include capacity in
theorem zero_first (t : String) : byReading o.amount (showBytes 0) t ≠ .gt := by
  cases read : o.amount t with
  | none => simp [byReading, amount_zero capacity, read]
  | some y =>
      have positive := amount_not_negative capacity read
      simp [byReading, amount_zero capacity, read, Int.compare_eq_gt]
      omega

include capacity in
theorem few_ordered {a b : ℕ} (some : 0 < a) (le : a ≤ b) (few : b < 1024) :
    byReading o.amount (showBytes a) (showBytes b) ≠ .gt := by
  have before : Text.naturalOrder (showBytes a) (showBytes b) ≠ .gt := by
    rw [Quantity.show_few some (le.trans_lt few), Quantity.show_few (some.trans_le le) few,
      Text.numbered_order a b (by simp [Reading.isDigit]), Nat.compare_ne_gt]
    exact le
  simpa only [byReading, amount_few capacity some (le.trans_lt few), amount_few capacity (some.trans_le le) few]

include capacity in
theorem few_behind_many {a b : ℕ} (some : 0 < a) (few : a < 1024) (many : 1024 ≤ b) (short : b < 2 ^ 64) :
    byReading o.amount (showBytes a) (showBytes b) = .gt := by
  obtain ⟨_, _, _, x, _, read, _⟩ := amount_many capacity many short
  simp only [byReading, amount_few capacity some few, read]

include capacity in
theorem many_ordered {a b : ℕ} (many : 1024 ≤ a) (le : a ≤ b) (short : b < 2 ^ 64) :
    byReading o.amount (showBytes a) (showBytes b) ≠ .gt := by
  obtain ⟨_, _, _, x, shown, read, value⟩ := amount_many capacity many (le.trans_lt short)
  obtain ⟨_, _, _, y, shown', read', value'⟩ := amount_many capacity (many.trans le) short
  have ordered : Binary64.key x ≤ Binary64.key y := by
    apply Binary64.key_le value value'
    exact Quantity.read_back_mono shown shown' (Quantity.to_53_bits_mono (by omega) le)
  simp only [byReading, read, read', ne_eq, Int.compare_eq_gt, not_lt]
  exact ordered

/-- The cells of two amounts, the first not greater, are out of order just where only the first is shown in bytes. -/
theorem capacity_cells_ordered (o : CellOrder) (capacity : o.capacity = true) (duration : o.duration = false) {a b : ℕ}
    (le : a ≤ b) (short : b < 2 ^ 64) :
    o.compare (showBytes a) (showBytes b) = .gt ↔ 0 < a ∧ a < 1024 ∧ 1024 ≤ b := by
  rw [compare_shown capacity duration]
  rcases Nat.eq_zero_or_pos a with rfl | some
  · have first := zero_first capacity (showBytes b)
    simp [first]
  by_cases few : a < 1024
  · by_cases few' : b < 1024
    · have ordered := few_ordered capacity some le few'
      simp [ordered, few']
    · simp [few_behind_many capacity some few (not_lt.mp few') short, some, few, not_lt.mp few']
  · have ordered := many_ordered capacity (not_lt.mp few) le short
    simp [ordered, few]

theorem gibibyte_before_tebibytes :
    (⟨true, false, true⟩ : CellOrder).compare (showBytes (2 ^ 30)) (showBytes (2 ^ 41)) ≠ .gt := by
  intro greater
  have few := (capacity_cells_ordered ⟨true, false, true⟩ rfl rfl (by decide) (by decide)).mp greater
  exact absurd few.2.1 (by decide)

theorem bytes_behind_kibibytes : (512 : ℕ) ≤ 2048 ∧ 2048 < 2 ^ 64 ∧
    (⟨true, false, true⟩ : CellOrder).compare (showBytes 512) (showBytes 2048) = .gt := by
  refine ⟨by decide, by decide, ?_⟩
  rw [compare_shown rfl rfl]
  exact few_behind_many rfl (by decide) (by decide) (by decide) (by decide)

end CellOrder

end LiveTable
