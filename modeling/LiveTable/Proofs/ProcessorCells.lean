import LiveTable.Proofs.AgeCells
import LiveTable.Proofs.CapacityOrder

namespace LiveTable

namespace Quantity

open Elapsed (isNumeric)

-- The cell of so many thousandths shows so many hundredths of a core.
def hundredths (n : ℕ) : ℕ := nearestEven (nearest (nearest n / 1000) * 100)

theorem show_thousandths {n : ℕ} (few : n < 1000) : showMillicores n = toString n ++ "m" := if_neg (not_le.mpr few)

theorem cores_bounds {n : ℕ} (many : 1000 ≤ n) (short : n < 2 ^ 64) :
    1 ≤ nearest n / 1000 ∧ nearest n / 1000 ≤ 2 ^ 80 := by
  have least := nearest_mono (x := (1000 : ℕ)) (y := n) (by norm_num) (by exact_mod_cast many)
  have most := nearest_mono (x := n) (y := 2 ^ 64) (by exact_mod_cast (by omega : 0 < n)) (by exact_mod_cast short.le)
  rw [nearest_small (by decide) (by decide), Nat.cast_ofNat] at least
  rw [nearest_power] at most
  constructor <;> linarith

theorem show_cores {n : ℕ} (many : 1000 ≤ n) (short : n < 2 ^ 64) :
    showMillicores n = Fixed.layOut 2 (hundredths n) ++ "c" := by
  have thousand : (1000.0 : Float) = Binary64.ofInt (1000 : ℕ) := Float.toBits_inj.mp (by decide +kernel)
  obtain ⟨least, most⟩ := cores_bounds many short
  obtain ⟨above, below⟩ := Binary64.moderate_place least most
  have value := Binary64.quotient_nearest (Binary64.of_int_value (by omega) short)
    (Binary64.whole_value (n := 1000) (by decide) (by decide)) above below
  rw [showMillicores, if_pos many, thousand, Fixed.of_float_value 2 value, hundredths]
  norm_num

theorem hundredths_mono {a b : ℕ} (many : 1000 ≤ a) (le : a ≤ b) (short : b < 2 ^ 64) :
    hundredths a ≤ hundredths b := by
  obtain ⟨least, _⟩ := cores_bounds many (le.trans_lt short)
  have grown : nearest a ≤ nearest b :=
    nearest_mono (by exact_mod_cast (by omega : 0 < a)) (by exact_mod_cast le)
  apply nearest_even_mono
  refine mul_le_mul_of_nonneg_right (nearest_mono (by linarith) ?_) (by norm_num)
  linarith

theorem thousandths_text {n : ℕ} (few : n < 1000) : (showMillicores n).toList = Nat.toDigits 10 n ++ ['m'] := by
  rw [show_thousandths few, String.toList_append, Nat.toString_eq_repr, Nat.toList_repr]
  rfl

theorem cores_text {n : ℕ} (many : 1000 ≤ n) (short : n < 2 ^ 64) :
    (showMillicores n).toList = (Fixed.layOut 2 (hundredths n)).toList ++ ['c'] := by
  rw [show_cores many short, String.toList_append]
  rfl

theorem show_millicores_parts {n : ℕ} (short : n < 2 ^ 64) : ∃ number c, (showMillicores n).toList = number ++ [c] ∧
    number ≠ [] ∧ (∀ d ∈ number, isNumeric d = true) ∧ (c = 'm' ∨ c = 'c') := by
  by_cases few : n < 1000
  · exact ⟨_, _, thousandths_text few, Nat.toDigits_ne_nil, Elapsed.written_numeric n, .inl rfl⟩
  · exact ⟨_, _, cores_text (not_lt.mp few) short, Fixed.laid_out_some two_pos _, Fixed.laid_out_numeric two_pos _,
      .inr rfl⟩

theorem show_millicores_visible {n : ℕ} (short : n < 2 ^ 64) :
    ∀ d ∈ (showMillicores n).toList, Text.isBlank d = false := by
  obtain ⟨number, c, text, _, numeric, unit⟩ := show_millicores_parts short
  rw [text, List.forall_mem_append, List.forall_mem_singleton]
  exact ⟨fun d member => Elapsed.numeric_visible (numeric d member), by rcases unit with rfl | rfl <;> decide⟩

theorem show_millicores_no_comma {n : ℕ} (short : n < 2 ^ 64) : ',' ∉ (showMillicores n).toList := by
  obtain ⟨number, c, text, _, numeric, unit⟩ := show_millicores_parts short
  rw [text, List.mem_append, List.mem_singleton]
  rintro (member | rfl)
  · exact absurd (numeric ',' member) (by decide)
  · exact absurd unit (by decide)

theorem show_millicores_unread {n : ℕ} (short : n < 2 ^ 64) :
    Reading.floatOfChars? (showMillicores n).toList = none := by
  obtain ⟨number, c, text, some, numeric, unit⟩ := show_millicores_parts short
  rw [text]
  rcases unit with rfl | rfl <;> exact Reading.numbered_unread some numeric (by decide) (by decide) (by decide)

theorem thousandths_time {n : ℕ} (few : n < 1000) :
    Elapsed.seconds? (showMillicores n) = some (Binary64.ofInt (n * 60 : ℕ)) := by
  rw [show_thousandths few]
  exact Elapsed.writes_read (Elapsed.alone_writes n .minute) (by omega)

theorem cores_untimed {n : ℕ} (many : 1000 ≤ n) (short : n < 2 ^ 64) : Elapsed.seconds? (showMillicores n) = none :=
  Elapsed.numbered_untimed (cores_text many short) (Fixed.laid_out_some two_pos _) (Fixed.laid_out_numeric two_pos _)
    (show_millicores_visible short) (by simp [isNumeric, Reading.isDigit]) rfl

theorem thousandths_beside_cores {a b : ℕ} (few : a < 1000) (many : 1000 ≤ b) (short : b < 2 ^ 64) :
    Text.naturalOrder (showMillicores a) (showMillicores b) = (compare a (hundredths b / 100)).then .gt := by
  obtain ⟨part, text, _, _, _⟩ := Fixed.laid_out two_pos (hundredths b)
  rw [Text.naturalOrder, thousandths_text few, cores_text many short, text, List.append_assoc, List.cons_append,
    Text.written_order _ _ (by simp [Reading.isDigit]) (by simp [Reading.isDigit]), Text.character_order (by decide)]
  rfl

theorem cores_beside_cores {a b : ℕ} (many : 1000 ≤ a) (many' : 1000 ≤ b) (short : a < 2 ^ 64) (short' : b < 2 ^ 64) :
    Text.naturalOrder (showMillicores a) (showMillicores b) = compare (hundredths a) (hundredths b) := by
  have even : Text.naturalOrder "c" "c" = .eq := Std.ReflCmp.compare_self
  have same : Text.naturalOrderChars ['c'] ['c'] = .eq := even
  rw [Text.naturalOrder, cores_text many short, cores_text many' short',
    Fixed.laid_out_order two_pos _ _ (by simp [Reading.isDigit]) (by simp [Reading.isDigit]), same, Ordering.then_eq]

end Quantity

namespace CellOrder

open Quantity (showMillicores hundredths)

section

variable {o : CellOrder} (number : o.number = true) (duration : o.duration = false) (capacity : o.capacity = false)

include number duration capacity in
theorem compare_processors {a b : ℕ} (many : 1000 ≤ b) (short : a < 2 ^ 64) (short' : b < 2 ^ 64) :
    o.compare (showMillicores a) (showMillicores b) = Text.naturalOrder (showMillicores a) (showMillicores b) := by
  have unread {n : ℕ} (short : n < 2 ^ 64) : o.amount? (withoutCommas (showMillicores n)) = none := by
    rw [without_no_commas (Quantity.show_millicores_no_comma short), amount?, capacity, Reading.float?, Text.trim,
      String.toList_ofList, Text.trim_visible (Quantity.show_millicores_visible short)]
    exact Quantity.show_millicores_unread short
  rw [compare]
  by_cases same : showMillicores a = showMillicores b
  · have even : Text.naturalOrder (showMillicores b) (showMillicores b) = .eq := Std.ReflCmp.compare_self
    rw [if_pos same, same, even]
  · rw [if_neg same, duration, Quantity.cores_untimed many short']
    simp only [number, Bool.true_or, if_true, compareAmounts, unread short, unread short']
    rw [without_no_commas (Quantity.show_millicores_no_comma short),
      without_no_commas (Quantity.show_millicores_no_comma short')]
    cases Elapsed.seconds? (showMillicores a) <;> rfl

end

theorem few_thousandths_ordered (o : CellOrder) {a b : ℕ} (le : a ≤ b) (few : b < 1000) :
    o.compare (showMillicores a) (showMillicores b) ≠ .gt :=
  whole_times_ordered o (Quantity.thousandths_time (le.trans_lt few)) (Quantity.thousandths_time few)
    (Nat.mul_le_mul_right 60 le) (by omega)

theorem processor_cells_ordered (o : CellOrder) (number : o.number = true) (duration : o.duration = false)
    (capacity : o.capacity = false) {a b : ℕ} (le : a ≤ b) (short : b < 2 ^ 64) :
    o.compare (showMillicores a) (showMillicores b) = .gt ↔ a < 1000 ∧ 1000 ≤ b ∧ hundredths b / 100 ≤ a := by
  by_cases few' : b < 1000
  · simp [few_thousandths_ordered o le few', few']
  rw [compare_processors number duration capacity (not_lt.mp few') (le.trans_lt short) short]
  by_cases few : a < 1000
  · rw [Quantity.thousandths_beside_cores few (not_lt.mp few') short, Ordering.then_eq_gt, Nat.compare_eq_gt,
      Nat.compare_eq_eq, eq_self, and_true]
    omega
  · have ordered := Quantity.hundredths_mono (not_lt.mp few) le short
    rw [Quantity.cores_beside_cores (not_lt.mp few) (not_lt.mp few') (le.trans_lt short) short]
    simp [Nat.compare_eq_gt, few, ordered]

theorem cores_in_order :
    (⟨true, false, false⟩ : CellOrder).compare (showMillicores 1500) (showMillicores 2500) ≠ .gt := by
  intro greater
  have few := (processor_cells_ordered ⟨true, false, false⟩ rfl rfl rfl (by decide) (by decide)).mp greater
  exact absurd few.1 (by decide)

theorem thousandths_behind_core : (999 : ℕ) ≤ 1000 ∧ 1000 < 2 ^ 64 ∧
    (⟨true, false, false⟩ : CellOrder).compare (showMillicores 999) (showMillicores 1000) = .gt := by
  have one_core : showMillicores 1000 = "1.00c" := by decide +kernel
  refine ⟨by decide, by decide, ?_⟩
  rw [compare_processors rfl rfl rfl (by decide) (by decide) (by decide), one_core]
  decide +kernel

end CellOrder

end LiveTable
