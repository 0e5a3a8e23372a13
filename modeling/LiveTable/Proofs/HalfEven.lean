import LiveTable.Number.Fixed
import Mathlib

namespace LiveTable

-- The whole number nearest to a number that is not negative.
def nearestEven (y : ℚ) : ℕ :=
  if y < ⌊y⌋₊ + 1 / 2 then ⌊y⌋₊ else if ⌊y⌋₊ + 1 / 2 < y then ⌊y⌋₊ + 1 else ⌊y⌋₊ + ⌊y⌋₊ % 2

theorem nearest_even_between (y : ℚ) : ⌊y⌋₊ ≤ nearestEven y ∧ nearestEven y ≤ ⌊y⌋₊ + 1 := by
  unfold nearestEven
  split_ifs <;> omega

theorem nearest_even_mono {x y : ℚ} (le : x ≤ y) : nearestEven x ≤ nearestEven y := by
  rcases (Nat.floor_mono le).lt_or_eq with below | same
  · have above := (nearest_even_between x).2
    have beneath := (nearest_even_between y).1
    omega
  · unfold nearestEven
    rw [same]
    split_ifs <;> first | omega | linarith

theorem nearest_even_natural (n : ℕ) : nearestEven n = n := by
  rw [nearestEven, Nat.floor_natCast, if_pos (by linarith)]

theorem nearest_even_at_least {n : ℕ} {y : ℚ} (le : n ≤ y) : n ≤ nearestEven y := by
  have kept := nearest_even_mono le
  rwa [nearest_even_natural] at kept

theorem nearest_even_at_most {n : ℕ} {y : ℚ} (le : y ≤ n) : nearestEven y ≤ n := by
  have kept := nearest_even_mono le
  rwa [nearest_even_natural] at kept

theorem round_div_nearest (num : ℕ) {den : ℕ} (pos : 0 < den) : Fixed.roundDiv num den = nearestEven (num / den) := by
  have positive : (0 : ℚ) < den := Nat.cast_pos.mpr pos
  have floor : ⌊(num : ℚ) / den⌋₊ = num / den := Nat.floor_div_eq_div num den
  have parts : (num : ℚ) = den * (num / den : ℕ) + (num % den : ℕ) := by exact_mod_cast (Nat.div_add_mod num den).symm
  have less : (num : ℚ) / den < (num / den : ℕ) + 1 / 2 ↔ 2 * (num % den) < den := by
    rw [div_lt_iff₀ positive, ← Nat.cast_lt (α := ℚ)]
    push_cast
    constructor <;> intro <;> linarith
  have more : (num / den : ℕ) + 1 / 2 < (num : ℚ) / den ↔ den < 2 * (num % den) := by
    rw [lt_div_iff₀ positive, ← Nat.cast_lt (α := ℚ)]
    push_cast
    constructor <;> intro <;> linarith
  unfold nearestEven Fixed.roundDiv
  simp only [floor, less, more]
  grind

theorem round_div_mono {num num' den : ℕ} (pos : 0 < den) (le : num ≤ num') :
    Fixed.roundDiv num den ≤ Fixed.roundDiv num' den := by
  rw [round_div_nearest num pos, round_div_nearest num' pos]
  apply nearest_even_mono
  gcongr

def lastPlace (x : ℚ) : ℤ := Int.log 2 x - 52

-- So many of the last of 53 bits, not always a whole number.
def inLastPlaces (x : ℚ) : ℚ := x / 2 ^ lastPlace x

def nearest (x : ℚ) : ℚ := nearestEven (inLastPlaces x) * 2 ^ lastPlace x

theorem place_positive (e : ℤ) : (0 : ℚ) < 2 ^ e := zpow_pos (by norm_num) e

theorem in_last_places (x : ℚ) : x = inLastPlaces x * 2 ^ lastPlace x :=
  (div_mul_cancel₀ x (place_positive _).ne').symm

theorem place_split (k : ℕ) (e : ℤ) : (2 : ℚ) ^ k * 2 ^ e = 2 ^ (k + e) := by
  rw [zpow_add₀ (by norm_num), zpow_natCast]

theorem at_least_place {x : ℚ} {e : ℤ} (positive : 0 < x) : 2 ^ 52 * 2 ^ e ≤ x ↔ e ≤ lastPlace x := by
  have log := Int.zpow_le_iff_le_log (b := 2) (x := 52 + e) Nat.one_lt_two positive
  have split := place_split 52 e
  push_cast at log split
  rw [split, log, lastPlace]
  omega

theorem below_place {x : ℚ} {e : ℤ} (positive : 0 < x) : x < 2 ^ 53 * 2 ^ e ↔ lastPlace x ≤ e := by
  have log := Int.lt_zpow_iff_log_lt (b := 2) (x := 53 + e) Nat.one_lt_two positive
  have split := place_split 53 e
  push_cast at log split
  rw [split, log, lastPlace]
  omega

theorem last_places_bounds {x : ℚ} (positive : 0 < x) : 2 ^ 52 ≤ inLastPlaces x ∧ inLastPlaces x < 2 ^ 53 := by
  rw [inLastPlaces, le_div_iff₀ (place_positive _), div_lt_iff₀ (place_positive _)]
  exact ⟨(at_least_place positive).mpr (le_refl _), (below_place positive).mpr (le_refl _)⟩

theorem nearest_places_bounds {x : ℚ} (positive : 0 < x) :
    2 ^ 52 ≤ nearestEven (inLastPlaces x) ∧ nearestEven (inLastPlaces x) ≤ 2 ^ 53 := by
  obtain ⟨low, high⟩ := last_places_bounds positive
  exact ⟨nearest_even_at_least (by exact_mod_cast low), nearest_even_at_most (by exact_mod_cast high.le)⟩

theorem last_place_mono {x y : ℚ} (positive : 0 < x) (le : x ≤ y) : lastPlace x ≤ lastPlace y :=
  Int.sub_le_sub_right (Int.log_mono_right positive le) 52

theorem nearest_mono {x y : ℚ} (positive : 0 < x) (le : x ≤ y) : nearest x ≤ nearest y := by
  rcases (last_place_mono positive le).lt_or_eq with below | same
  · -- What is rounded at a lower place does not pass the power of two between the places.
    have top : (nearestEven (inLastPlaces x) : ℚ) ≤ 2 ^ 53 := by exact_mod_cast (nearest_places_bounds positive).2
    have bottom : (2 : ℚ) ^ 52 ≤ nearestEven (inLastPlaces y) := by
      exact_mod_cast (nearest_places_bounds (positive.trans_le le)).1
    have step : (2 : ℚ) * 2 ^ lastPlace x ≤ 2 ^ lastPlace y := by
      rw [← zpow_one_add₀ (by norm_num)]
      exact zpow_le_zpow_right₀ (by norm_num) (by omega)
    calc nearest x ≤ 2 ^ 53 * 2 ^ lastPlace x := mul_le_mul_of_nonneg_right top (place_positive _).le
      _ = 2 ^ 52 * (2 * 2 ^ lastPlace x) := by ring
      _ ≤ 2 ^ 52 * 2 ^ lastPlace y := mul_le_mul_of_nonneg_left step (by norm_num)
      _ ≤ nearest y := mul_le_mul_of_nonneg_right bottom (place_positive _).le
  · have places : inLastPlaces x ≤ inLastPlaces y := by
      rw [inLastPlaces, inLastPlaces, same]
      exact div_le_div_of_nonneg_right le (place_positive _).le
    rw [nearest, nearest, same]
    exact mul_le_mul_of_nonneg_right (by exact_mod_cast nearest_even_mono places) (place_positive _).le

theorem exact_place {m : ℕ} (e : ℤ) (low : 2 ^ 52 ≤ m) (high : m < 2 ^ 53) : lastPlace (m * 2 ^ e) = e := by
  have positive : (0 : ℚ) < m * 2 ^ e := mul_pos (by exact_mod_cast (by omega : 0 < m)) (place_positive e)
  apply le_antisymm
  · exact (below_place positive).mp (mul_lt_mul_of_pos_right (by exact_mod_cast high) (place_positive _))
  · exact (at_least_place positive).mp (mul_le_mul_of_nonneg_right (by exact_mod_cast low) (place_positive _).le)

theorem nearest_exact (m : ℕ) (e : ℤ) (low : 2 ^ 52 ≤ m) (high : m < 2 ^ 53) : nearest (m * 2 ^ e) = m * 2 ^ e := by
  rw [nearest, inLastPlaces, exact_place e low high, mul_div_cancel_right₀ _ (place_positive e).ne',
    nearest_even_natural]

theorem nearest_power (k : ℕ) : nearest (2 ^ k) = 2 ^ k := by
  have split : ((2 ^ 52 : ℕ) : ℚ) * 2 ^ (k - 52 : ℤ) = 2 ^ k := by
    rw [Nat.cast_pow, Nat.cast_ofNat, place_split, ← zpow_natCast]
    congr 1
    omega
  rw [← split]
  exact nearest_exact (2 ^ 52) (k - 52) (le_refl _) (by norm_num)

theorem scaled_place {n : ℕ} (some : 0 < n) (e : ℤ) : lastPlace (n * 2 ^ e) = n.log2 + e - 52 := by
  have positive : (0 : ℚ) < n * 2 ^ e := mul_pos (by exact_mod_cast some) (place_positive e)
  have low : (2 : ℚ) ^ n.log2 ≤ n := by exact_mod_cast Nat.log2_self_le some.ne'
  have high : (n : ℚ) < 2 ^ (n.log2 + 1) := by exact_mod_cast Nat.lt_log2_self
  have bottom : ((52 : ℕ) : ℤ) + (n.log2 + e - 52) = n.log2 + e := by push_cast; ring
  have top : ((53 : ℕ) : ℤ) + (n.log2 + e - 52) = (n.log2 + 1 : ℕ) + e := by push_cast; ring
  apply le_antisymm
  · rw [← below_place positive, place_split, top, ← place_split]
    exact mul_lt_mul_of_pos_right high (place_positive e)
  · rw [← at_least_place positive, place_split, bottom, ← place_split]
    exact mul_le_mul_of_nonneg_right low (place_positive e).le

theorem natural_place (n : ℕ) : lastPlace n = n.log2 - 52 := by
  rw [lastPlace, Int.log_natCast, Nat.log2_eq_log_two]

theorem nearest_small {n : ℕ} (some : 0 < n) (small : n < 2 ^ 53) : nearest n = n := by
  have short : n.log2 ≤ 52 := Nat.le_of_lt_succ ((Nat.log2_lt (by omega)).mpr small)
  have place : lastPlace n = -(52 - n.log2 : ℕ) := by
    rw [natural_place]
    omega
  have places : inLastPlaces n = (n * 2 ^ (52 - n.log2) : ℕ) := by
    rw [inLastPlaces, place, zpow_neg, zpow_natCast, div_inv_eq_mul]
    push_cast
    rfl
  rw [nearest, places, nearest_even_natural, ← places]
  exact (in_last_places n).symm

theorem nearest_between {x : ℚ} {k : ℕ} (low : 1 ≤ x) (high : x ≤ 2 ^ k) : 1 ≤ nearest x ∧ nearest x ≤ 2 ^ k := by
  have first := nearest_mono one_pos low
  have last := nearest_mono (by linarith) high
  have one := nearest_power 0
  rw [pow_zero] at one
  rw [one] at first
  rw [nearest_power] at last
  exact ⟨first, last⟩

end LiveTable
