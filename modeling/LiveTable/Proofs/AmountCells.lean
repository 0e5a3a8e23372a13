import LiveTable.Cell.Quantity
import LiveTable.Proofs.FixedDecimals

namespace LiveTable

namespace Quantity

theorem strip_end_equal {unit other : String} (length : unit.toList.length = other.toList.length) (number : List Char) :
    stripEnd? unit (number ++ other.toList) = if unit = other then some number else none := by
  have ends : unit.toList.isSuffixOf (number ++ other.toList) = true ↔ unit = other := by
    rw [List.isSuffixOf_iff_suffix]
    constructor
    · rintro ⟨before, same⟩
      exact String.toList_inj.mp (List.append_inj_right' same length)
    · rintro rfl
      exact List.suffix_append _ _
  simp only [stripEnd?, ends, length, List.length_append, Nat.add_sub_cancel, List.take_left]

theorem strip_end_absent {unit : String} {c : Char} (some : unit.toList ≠ []) (absent : c ∉ unit.toList)
    (number : List Char) : stripEnd? unit (number ++ [c]) = none := by
  rw [stripEnd?, if_neg]
  intro ends
  rcases List.suffix_concat_iff.mp (List.isSuffixOf_iff_suffix.mp ends) with empty | ⟨front, split, _⟩
  · exact some empty
  · exact absent (by simp [split])

theorem split_binary {unit : String} {size : ℕ} (known : (unit, size) ∈ binaryUnits) (number : List Char) :
    splitUnit (number ++ unit.toList) = (number, Binary64.ofInt size) := by
  have long : ∀ entry ∈ binaryUnits, entry.1.toList.length = 2 := by decide
  have same (other : String) (length : other.toList.length = 2) :
      stripEnd? other (number ++ unit.toList) = if other = unit then some number else none :=
    strip_end_equal (length.trans (long _ known).symm) number
  generalize number ++ unit.toList = cs at same ⊢
  simp only [binaryUnits, List.mem_cons, Prod.mk.injEq, List.not_mem_nil, or_false] at known
  rcases known with ⟨rfl, rfl⟩ | ⟨rfl, rfl⟩ | ⟨rfl, rfl⟩ | ⟨rfl, rfl⟩ | ⟨rfl, rfl⟩ | ⟨rfl, rfl⟩ <;>
    simp [splitUnit, binaryUnits, same]

theorem split_absent {c : Char} (absent : ∀ entry ∈ binaryUnits ++ decimalUnits, c ∉ entry.1.toList) (other : c ≠ 'm')
    (number : List Char) : splitUnit (number ++ [c]) = (number ++ [c], 1.0) := by
  have named : ∀ entry ∈ binaryUnits ++ decimalUnits, entry.1.toList ≠ [] := by decide
  have part : stripEnd? "m" (number ++ [c]) = none := strip_end_absent (by decide) (by simpa using other) number
  unfold splitUnit
  dsimp only
  generalize whole : List.findSome? _ (binaryUnits ++ decimalUnits) = scaled
  have nothing : scaled = none := by
    rw [← whole, List.findSome?_eq_none_iff]
    intro entry member
    simp only [strip_end_absent (named entry member) (absent entry member), Option.map_none]
  simp only [nothing, part, Option.map_none, Option.or_none, Option.getD_none]

theorem tenths_value {t : ℕ} (low : 10 ≤ t) (high : t ≤ 10240) :
    Binary64.HasValue (Reading.scaled t (-1)) (nearest (t / 10)) := by
  have some : t ≠ 0 := by omega
  have length : (Nat.toDigits 10 t).length ≤ 5 := (Nat.length_toDigits_le_iff (by decide) (by decide)).mpr (by omega)
  have ordinary : Reading.scaled t (-1) = Float.ofScientific t true 1 := by
    rw [Reading.scaled, if_neg some, if_neg (by omega), if_neg (by omega)]
    rfl
  -- So few digits are exact as a double, and the quotient by ten is the only rounding.
  have quotient : Float.ofScientific t true 1 = t.toUInt64.toFloat / Float.exactlyRepresentablePowersOfTen[1] := by
    rw [Float.ofScientific, dif_pos ⟨by omega, by decide⟩]
    rfl
  have natural : t.toUInt64.toNat = t := Nat.mod_eq_of_lt (by omega)
  have dividend := Binary64.natural_nearest t.toUInt64 (by omega)
  rw [natural, nearest_small (by omega) (by omega)] at dividend
  have least : (10 : ℚ) ≤ t := by exact_mod_cast low
  have most : (t : ℚ) ≤ 10240 := by exact_mod_cast high
  have range := Binary64.moderate_place (x := t / 10) (by linarith) (by linarith)
  rw [ordinary, quotient]
  exact Binary64.quotient_nearest dividend Binary64.ten_value range.1 range.2

theorem to_53_bits_nearest {n : ℕ} (some : 0 < n) : (to53Bits n : ℚ) = nearest n := by
  rw [to53Bits, Nat.pow_eq]
  by_cases small : n < 2 ^ 53
  · rw [if_pos small, nearest_small some small]
  · rw [if_neg small]
    have long : 53 ≤ n.log2 := (Nat.le_log2 (by omega)).mpr (by omega)
    have place : lastPlace n = (n.log2 - 52 : ℕ) := by
      rw [natural_place]
      omega
    simp only [Nat.pow_eq]
    push_cast
    rw [round_div_nearest n (Nat.two_pow_pos _), nearest, inLastPlaces, place, zpow_natCast]
    push_cast
    rfl

theorem to_53_bits_mono {a b : ℕ} (some : 0 < a) (le : a ≤ b) : to53Bits a ≤ to53Bits b := by
  rw [← Nat.cast_le (α := ℚ), to_53_bits_nearest some, to_53_bits_nearest (by omega)]
  exact nearest_mono (by exact_mod_cast some) (by exact_mod_cast le)

theorem found_unit {bytes : ℕ} (low : 2 ^ 10 ≤ bytes) (high : bytes < 2 ^ 70) : ∃ unit k,
    binaryUnits.find? (fun (_, size) => size ≤ bytes) = some (unit, 2 ^ k) ∧ 10 ∣ k ∧ k ≤ 60 ∧ 2 ^ k ≤ bytes ∧
      bytes < 2 ^ (k + 10) := by
  by_cases sixty : 2 ^ 60 ≤ bytes
  · exact ⟨"Ei", 60, by simp [binaryUnits]; omega, by decide, by decide, sixty, high⟩
  by_cases fifty : 2 ^ 50 ≤ bytes
  · exact ⟨"Pi", 50, by simp [binaryUnits]; omega, by decide, by decide, fifty, not_le.mp sixty⟩
  by_cases forty : 2 ^ 40 ≤ bytes
  · exact ⟨"Ti", 40, by simp [binaryUnits]; omega, by decide, by decide, forty, not_le.mp fifty⟩
  by_cases thirty : 2 ^ 30 ≤ bytes
  · exact ⟨"Gi", 30, by simp [binaryUnits]; omega, by decide, by decide, thirty, not_le.mp forty⟩
  by_cases twenty : 2 ^ 20 ≤ bytes
  · exact ⟨"Mi", 20, by simp [binaryUnits]; omega, by decide, by decide, twenty, not_le.mp thirty⟩
  · exact ⟨"Ki", 10, by simp [binaryUnits]; omega, by decide, by decide, low, not_le.mp twenty⟩

def shownUnits : List String := "" :: "B" :: binaryUnits.map Prod.fst

theorem show_bytes_parts (n : ℕ) : ∃ number unit, (showBytes n).toList = number ++ unit.toList ∧ number ≠ [] ∧
    (∀ c ∈ number, Elapsed.isNumeric c = true) ∧ unit ∈ shownUnits := by
  rw [showBytes]
  by_cases zero : n = 0
  · rw [if_pos zero]
    exact ⟨Nat.toDigits 10 0, "", rfl, Nat.toDigits_ne_nil, Elapsed.written_numeric 0, by decide⟩
  · rw [if_neg zero]
    dsimp only
    split
    · rename_i unit size found
      have known := List.mem_map_of_mem (f := Prod.fst) (List.mem_of_find?_eq_some found)
      exact ⟨_, unit, String.toList_append, Fixed.laid_out_some one_pos _, Fixed.laid_out_numeric one_pos _,
        List.mem_cons_of_mem _ (List.mem_cons_of_mem _ known)⟩
    · refine ⟨Nat.toDigits 10 n, "B", ?_, Nat.toDigits_ne_nil, Elapsed.written_numeric n, by decide⟩
      rw [String.toList_append, Nat.toString_eq_repr, Nat.toList_repr]

theorem show_bytes_some (n : ℕ) : (showBytes n).toList ≠ [] := by
  obtain ⟨number, unit, text, some, _, _⟩ := show_bytes_parts n
  simp [text, some]

theorem show_bytes_visible (n : ℕ) : ∀ c ∈ (showBytes n).toList, Text.isBlank c = false := by
  obtain ⟨number, unit, text, _, numeric, known⟩ := show_bytes_parts n
  have visible : ∀ unit ∈ shownUnits, (unit.toList.all fun c => !Text.isBlank c) = true := by decide
  intro c member
  rw [text, List.mem_append] at member
  rcases member with digit | letter
  · exact Elapsed.numeric_visible (numeric c digit)
  · simpa using List.all_eq_true.mp (visible unit known) c letter

theorem show_bytes_untimed (n : ℕ) : Elapsed.seconds? (showBytes n) = none := by
  obtain ⟨number, unit, text, some, numeric, known⟩ := show_bytes_parts n
  have strange : ∀ unit ∈ shownUnits, (unit.toList.head?.all fun c => !Elapsed.isNumeric c) = true ∧
      (Elapsed.unit? unit.toList).isNone = true := by decide
  obtain ⟨stops, untimed⟩ := strange unit known
  exact Elapsed.numbered_untimed text some numeric (show_bytes_visible n)
    (fun c start => by simpa [Option.mem_def.mp start] using stops) (Option.isNone_iff_eq_none.mp untimed)

-- Behind the number of tenths an amount has a unit, the greatest that is not greater than the amount.
structure Shown (n : ℕ) (unit : String) (k tenths : ℕ) : Prop where
  text : showBytes n = Fixed.layOut 1 tenths ++ unit
  known : (unit, 2 ^ k) ∈ binaryUnits
  tens : 10 ∣ k
  most : k ≤ 60
  low : 2 ^ k ≤ to53Bits n
  high : to53Bits n < 2 ^ (k + 10)
  rounded : tenths = Fixed.roundDiv (to53Bits n * 10) (2 ^ k)

theorem shown_in_units {n : ℕ} (low : 1024 ≤ n) (high : n < 2 ^ 64) : ∃ unit k tenths, Shown n unit k tenths := by
  have least : to53Bits 1024 ≤ to53Bits n := to_53_bits_mono (by decide) low
  have most : to53Bits n ≤ to53Bits (2 ^ 64) := to_53_bits_mono (by omega) high.le
  have bottom : to53Bits 1024 = 2 ^ 10 := by decide +kernel
  have top : to53Bits (2 ^ 64) = 2 ^ 64 := by decide +kernel
  have enough : 2 ^ 10 ≤ to53Bits n := by omega
  have bounded : to53Bits n < 2 ^ 70 := by omega
  obtain ⟨unit, k, found, tens, sixty, below, above⟩ := found_unit enough bounded
  refine ⟨unit, k, _, ?_, List.mem_of_find?_eq_some found, tens, sixty, below, above, rfl⟩
  rw [showBytes, if_neg (by omega)]
  simp only [found, Fixed.ofRatio]

theorem shown_tenths {n k tenths : ℕ} {unit : String} (shown : Shown n unit k tenths) :
    10 ≤ tenths ∧ tenths ≤ 10240 := by
  have size : 0 < 2 ^ k := Nat.two_pow_pos k
  have exactly (m : ℕ) : Fixed.roundDiv (2 ^ k * m) (2 ^ k) = m := by
    rw [round_div_nearest _ size]
    push_cast
    rw [mul_div_cancel_left₀ _ (by positivity), nearest_even_natural]
  have above := shown.high
  rw [Nat.pow_add] at above
  have bottom := round_div_mono size (Nat.mul_le_mul_right 10 shown.low)
  have top := round_div_mono size (show to53Bits n * 10 ≤ 2 ^ k * 10240 by omega)
  rw [exactly] at bottom top
  rw [shown.rounded]
  exact ⟨bottom, top⟩

-- What is read back: the tenths and then the amount are rounded to a double.
def readBack (k tenths : ℕ) : ℚ := nearest (nearest (tenths / 10) * 2 ^ k)

theorem tenths_between {tenths : ℕ} (low : 10 ≤ tenths) (high : tenths ≤ 10240) :
    1 ≤ nearest (tenths / 10) ∧ nearest (tenths / 10) ≤ 2 ^ 10 := by
  have least : (10 : ℚ) ≤ tenths := by exact_mod_cast low
  have most : (tenths : ℚ) ≤ 10240 := by exact_mod_cast high
  exact nearest_between (by linarith) (by linarith)

theorem parse_shown {n k tenths : ℕ} {unit : String} (shown : Shown n unit k tenths) :
    ∃ x, parse? (showBytes n) = some x ∧ Binary64.HasValue x (readBack k tenths) := by
  obtain ⟨low, high⟩ := shown_tenths shown
  obtain ⟨least, most⟩ := tenths_between low high
  have text : (showBytes n).toList = (Fixed.layOut 1 tenths).toList ++ unit.toList := by
    rw [shown.text, String.toList_append]
  have trimmed := Text.trim_visible (show_bytes_visible n)
  have some_text : (showBytes n).toList.isEmpty = false := by simpa using show_bytes_some n
  have power : Binary64.HasValue (Binary64.ofInt (2 ^ k : ℕ)) (2 ^ k) := by
    have short : 2 ^ k < 2 ^ 64 := Nat.pow_lt_pow_right (by decide) (by have := shown.most; omega)
    have value := Binary64.of_int_value (Nat.two_pow_pos k) short
    push_cast at value ⊢
    rwa [nearest_power] at value
  have range : -1074 ≤ lastPlace (nearest (tenths / 10) * 2 ^ k) ∧ lastPlace (nearest (tenths / 10) * 2 ^ k) < 971 := by
    have bottom : (1 : ℚ) ≤ 2 ^ k := one_le_pow₀ (by norm_num)
    have top : (2 : ℚ) ^ k ≤ 2 ^ 60 := pow_le_pow_right₀ (by norm_num) shown.most
    apply Binary64.moderate_place
    · exact one_le_mul_of_one_le_of_one_le least bottom
    · calc nearest (tenths / 10) * 2 ^ k ≤ 2 ^ 10 * 2 ^ 60 := by gcongr
        _ ≤ 2 ^ 80 := by norm_num
  have value := Binary64.product_nearest (tenths_value low high) power range.1 range.2
  refine ⟨_, ?_, value⟩
  have read := Fixed.laid_out_read one_pos tenths
  simp only [parse?, trimmed, some_text]
  rw [text, split_binary shown.known]
  simp only [read, Bool.false_eq_true, if_false]
  exact if_pos (by simpa using ⟨Binary64.value_finite value, Binary64.key_positive value⟩)

theorem show_few {n : ℕ} (some : 0 < n) (few : n < 1024) : showBytes n = toString n ++ "B" := by
  have same : to53Bits n = n := if_pos (by rw [Nat.pow_eq]; omega)
  have none : binaryUnits.find? (fun (_, size) => size ≤ n) = none := by
    simp [binaryUnits]
    omega
  rw [showBytes, if_neg some.ne']
  simp only [same, none]

theorem parse_few {n : ℕ} (some : 0 < n) (few : n < 1024) : parse? (showBytes n) = none := by
  have trimmed := Text.trim_visible (show_bytes_visible n)
  have some_text : (showBytes n).toList.isEmpty = false := by simpa using show_bytes_some n
  have text : (showBytes n).toList = Nat.toDigits 10 n ++ ['B'] := by
    rw [show_few some few, String.toList_append, Nat.toString_eq_repr, Nat.toList_repr]
    rfl
  have split := split_absent (c := 'B') (by decide) (by decide) (Nat.toDigits 10 n)
  simp only [parse?, trimmed, some_text, Bool.false_eq_true, if_false]
  rw [text, split]
  have unread : Reading.floatOfChars? (Nat.toDigits 10 n ++ ['B']) = none :=
    Reading.numbered_unread Nat.toDigits_ne_nil (Elapsed.written_numeric n) (by decide) (by decide) (by decide)
  simp only [unread]

end Quantity

end LiveTable
