import LiveTable.Proofs.HalfEven
import LiveTable.Proofs.UnsignedNumber

namespace LiveTable.Binary64

open Float.Model (Format UnpackedFloat totalExponent)
open Float.Model.UnpackedFloat (Accuracy ExtendedMantissa Sign packComponents roundWithAccuracy shiftToTargetExponent
  shiftToExponent accuracyOfFraction unpackExponent unpackMantissa unpackSign)

-- A mantissa, its next bit, and whether anything stands behind that one, of a number.
def Holds (em : ExtendedMantissa) (y : ℚ) : Prop :=
  ∃ rest : ℚ, 0 ≤ rest ∧ rest < 1 / 2 ∧ (em.stickyBit = true ↔ 0 < rest) ∧
    y = em.mantissa + em.roundBit.toNat / 2 + rest

theorem half_bit (b : Bool) : (b.toNat : ℚ) / 2 = 0 ∨ (b.toNat : ℚ) / 2 = 1 / 2 := by
  cases b <;> simp

theorem holds_floor {em : ExtendedMantissa} {y : ℚ} (holds : Holds em y) : ⌊y⌋₊ = em.mantissa := by
  obtain ⟨rest, low, high, _, rfl⟩ := holds
  refine (Nat.floor_eq_iff (by positivity)).mpr ?_
  rcases half_bit em.roundBit with bit | bit <;> rw [bit] <;> constructor <;> linarith

theorem holds_rounded {em : ExtendedMantissa} {y : ℚ} (holds : Holds em y) : em.roundedMantissa = nearestEven y := by
  rw [nearestEven, holds_floor holds]
  obtain ⟨rest, low, high, sticky, rfl⟩ := holds
  obtain ⟨mantissa, round, behind⟩ := em
  cases round <;> cases behind <;>
    simp only [Bool.false_eq_true, false_iff, true_iff, not_lt, Bool.toNat_false, Bool.toNat_true] at sticky ⊢ <;>
    simp only [ExtendedMantissa.roundedMantissa, ExtendedMantissa.accuracy, Accuracy.roundToNearestEven] <;>
    push_cast <;> split_ifs <;> first | rfl | linarith

theorem holds_shifted_once {em : ExtendedMantissa} {y : ℚ} (holds : Holds em y) : Holds em.shiftRightOne (y / 2) := by
  obtain ⟨rest, low, high, sticky, rfl⟩ := holds
  obtain ⟨mantissa, round, behind⟩ := em
  have halves : (mantissa : ℚ) = 2 * (mantissa / 2 : ℕ) + (mantissa % 2 : ℕ) := by
    exact_mod_cast (Nat.div_add_mod mantissa 2).symm
  have bit : (mantissa % 2 != 0).toNat = mantissa % 2 := by
    rcases Nat.mod_two_eq_zero_or_one mantissa with even | odd
    · rw [even]
      rfl
    · rw [odd]
      rfl
  refine ⟨(round.toNat / 2 + rest) / 2, by positivity, ?_, ?_, ?_⟩
  · rcases half_bit round with bit | bit <;> rw [bit] <;> linarith
  · simp only [ExtendedMantissa.shiftRightOne, Bool.or_eq_true, sticky]
    cases round
    · simp
    · simp
      linarith
  · simp only [ExtendedMantissa.shiftRightOne, bit]
    linarith

theorem holds_shifted {em : ExtendedMantissa} {y : ℚ} (holds : Holds em y) (n : ℕ) : Holds (em >>> n) (y / 2 ^ n) := by
  induction n with
  | zero =>
      rw [pow_zero, div_one]
      exact holds
  | succ n ih =>
      rw [pow_succ, ← div_div]
      exact holds_shifted_once ih

theorem holds_exact (m : ℕ) : Holds (.ofMantissaAndAccuracy m .exact) m :=
  ⟨0, le_refl _, by norm_num, by simp [ExtendedMantissa.ofMantissaAndAccuracy],
    by simp [ExtendedMantissa.ofMantissaAndAccuracy]⟩

theorem holds_fraction (m : ℕ) {num den : ℕ} (proper : num < den) :
    Holds (.ofMantissaAndAccuracy m (accuracyOfFraction num den)) (m + num / den) := by
  have positive : (0 : ℚ) < den := Nat.cast_pos.mpr (Nat.zero_lt_of_lt proper)
  unfold accuracyOfFraction
  by_cases whole : num = 0
  · rw [if_pos whole, whole, Nat.cast_zero, zero_div, add_zero]
    exact holds_exact m
  · rw [if_neg whole]
    have some : (0 : ℚ) < num / den := div_pos (Nat.cast_pos.mpr (Nat.pos_of_ne_zero whole)) positive
    cases side : compare (2 * num) den with
    | lt =>
        have below : (num : ℚ) / den < 1 / 2 := by
          rw [div_lt_div_iff₀ positive (by norm_num)]
          exact_mod_cast (by have := Nat.compare_eq_lt.mp side; omega : num * 2 < 1 * den)
        exact ⟨num / den, some.le, below, by simp [ExtendedMantissa.ofMantissaAndAccuracy, some],
          by simp [ExtendedMantissa.ofMantissaAndAccuracy]⟩
    | eq =>
        have half : (num : ℚ) / den = 1 / 2 := by
          rw [div_eq_div_iff positive.ne' (by norm_num)]
          exact_mod_cast (by have := Nat.compare_eq_eq.mp side; omega : num * 2 = 1 * den)
        exact ⟨0, le_refl _, by norm_num, by simp [ExtendedMantissa.ofMantissaAndAccuracy],
          by simp [ExtendedMantissa.ofMantissaAndAccuracy, half]⟩
    | gt =>
        have above : 1 / 2 < (num : ℚ) / den := by
          rw [div_lt_div_iff₀ (by norm_num) positive]
          exact_mod_cast (by have := Nat.compare_eq_gt.mp side; omega : 1 * den < num * 2)
        have less : (num : ℚ) / den < 1 := (div_lt_one positive).mpr (by exact_mod_cast proper)
        exact ⟨num / den - 1 / 2, by linarith, by linarith,
          by simpa [ExtendedMantissa.ofMantissaAndAccuracy] using above,
          by simp [ExtendedMantissa.ofMantissaAndAccuracy]⟩

theorem log_of_bounds {m k : ℕ} (low : 2 ^ k ≤ m) (high : m < 2 ^ (k + 1)) : m.log2 = k := by
  have some : m ≠ 0 := (Nat.two_pow_pos k).trans_le low |>.ne'
  exact (Nat.log2_eq_iff some).mpr ⟨low, high⟩

theorem target_place (total : ℤ) : Format.binary64.targetExponent total = max (total - 53) (-1074) := rfl

theorem target_exponent {m k : ℕ} {e : ℤ} (log : m.log2 = k + 52) (normal : -1074 ≤ e + k) :
    Format.binary64.targetExponent (totalExponent m e) = e + k := by
  rw [target_place, totalExponent, log]
  push_cast
  omega

theorem shift_to_target {m k : ℕ} {e : ℤ} (acc : Accuracy) (log : m.log2 = k + 52) (normal : -1074 ≤ e + k) :
    shiftToTargetExponent .binary64 m e acc = (ExtendedMantissa.ofMantissaAndAccuracy m acc >>> k, e + k) := by
  have shift : (e + k - e).toNat = k := by omega
  simp only [shiftToTargetExponent, target_exponent log normal, shiftToExponent, shift]

theorem places_shifted {x y : ℚ} {e : ℤ} (scaled : x = y * 2 ^ e) {k : ℕ} (place : lastPlace x = e + k) :
    inLastPlaces x = y / 2 ^ k := by
  rw [inLastPlaces, place, scaled, zpow_add₀ (by norm_num), zpow_natCast, mul_comm ((2 : ℚ) ^ e),
    mul_div_mul_right _ _ (place_positive e).ne']

theorem leading_bits {m : ℕ} {e : ℤ} {acc : Accuracy} {x y : ℚ} (holds : Holds (.ofMantissaAndAccuracy m acc) y)
    (scaled : x = y * 2 ^ e) (positive : 0 < x) (k : ℕ) (place : lastPlace x = e + k) : m.log2 = k + 52 := by
  have floor : ⌊y⌋₊ = m := by
    rw [holds_floor holds]
    cases acc with
    | exact => rfl
    | inexact side => cases side <;> rfl
  obtain ⟨low, high⟩ := last_places_bounds positive
  have places := places_shifted scaled place
  have length : (0 : ℚ) < 2 ^ k := by positivity
  rw [places, le_div_iff₀ length, ← pow_add] at low
  rw [places, div_lt_iff₀ length, ← pow_add] at high
  have nonneg : 0 ≤ y := le_trans (by positivity) low
  apply log_of_bounds
  · rw [← floor, Nat.add_comm k]
    exact Nat.le_floor (by exact_mod_cast low)
  · rw [← floor, show k + 52 + 1 = 53 + k by omega]
    exact (Nat.floor_lt nonneg).mpr (by exact_mod_cast high)

theorem shifted_mantissa (m k : ℕ) : (ExtendedMantissa.ofMantissaAndAccuracy m .exact >>> k).mantissa = m / 2 ^ k := by
  have floor := holds_floor (holds_shifted (holds_exact m) k)
  have quotient : ⌊(m : ℚ) / (2 ^ k : ℕ)⌋₊ = m / 2 ^ k := Nat.floor_div_eq_div m (2 ^ k)
  rw [← floor, ← quotient]
  push_cast
  rfl

-- The rounded mantissa is shifted once more, by the one place that it may have become too long.
theorem round_finished {m n k : ℕ} {e d : ℤ} {acc : Accuracy} {em : ExtendedMantissa}
    (first : shiftToTargetExponent .binary64 m e acc = (em, d)) (rounded : em.roundedMantissa = n)
    (log : n.log2 = k + 52) (normal : -1074 ≤ d + k) (some : 0 < n / 2 ^ k) :
    roundWithAccuracy .binary64 .positive m e acc = .finite .positive (n / 2 ^ k) (d + k) some := by
  unfold roundWithAccuracy
  simp only [first, rounded, shift_to_target .exact log normal, shifted_mantissa, dif_neg some.ne']

theorem rounded_nearest {m : ℕ} {e : ℤ} {acc : Accuracy} {x y : ℚ} (holds : Holds (.ofMantissaAndAccuracy m acc) y)
    (scaled : x = y * 2 ^ e) (positive : 0 < x) (long : e ≤ lastPlace x) (normal : -1074 ≤ lastPlace x) :
    ∃ (n : ℕ) (d : ℤ) (some : 0 < n), roundWithAccuracy .binary64 .positive m e acc = .finite .positive n d some ∧
      2 ^ 52 ≤ n ∧ n < 2 ^ 53 ∧ lastPlace x ≤ d ∧ d ≤ lastPlace x + 1 ∧ nearest x = n * 2 ^ d := by
  obtain ⟨k, place⟩ := Int.le.dest long
  have first := shift_to_target acc (leading_bits holds scaled positive k place.symm) (place ▸ normal)
  have rounded : (ExtendedMantissa.ofMantissaAndAccuracy m acc >>> k).roundedMantissa =
      nearestEven (inLastPlaces x) := by
    rw [places_shifted scaled place.symm]
    exact holds_rounded (holds_shifted holds k)
  obtain ⟨low, high⟩ := nearest_places_bounds positive
  rw [place] at first
  rw [nearest]
  generalize nearestEven (inLastPlaces x) = n at rounded low high ⊢
  rcases high.lt_or_eq with below | rfl
  · have finished := round_finished (k := 0) first rounded (log_of_bounds low below) (by omega) (by omega)
    refine ⟨_, _, _, finished, ?_⟩
    simpa using ⟨low, below⟩
  · have finished := round_finished (k := 1) first rounded (log_of_bounds (le_refl _) (by norm_num)) (by omega)
      (by norm_num)
    refine ⟨_, _, _, finished, by norm_num, by norm_num, by omega, by omega, ?_⟩
    rw [zpow_add₀ (by norm_num)]
    norm_num
    ring

-- A positive double of 53 significant bits, with its mantissa and its exponent.
structure Normal (x : Float) (m : ℕ) (e : ℤ) : Prop where
  low : 2 ^ 52 ≤ m
  high : m < 2 ^ 53
  least : -1074 ≤ e
  most : e ≤ 971
  bits : (x.toBits.toNat : ℤ) = (e + 1074) * 2 ^ 52 + m

def HasValue (x : Float) (v : ℚ) : Prop := ∃ m e, Normal x m e ∧ v = m * 2 ^ e

theorem packed_components (exponent mantissa : ℕ) (small : exponent < 2 ^ 11) :
    (packComponents .binary64 .positive (BitVec.ofNat 11 exponent) (BitVec.ofNat 52 mantissa)).toNat =
      exponent * 2 ^ 52 + mantissa % 2 ^ 52 := by
  change (0#1 ++ BitVec.ofNat 11 exponent ++ BitVec.ofNat 52 mantissa).toNat = _
  simp only [BitVec.toNat_append, BitVec.toNat_ofNat, Nat.mod_eq_of_lt small]
  rw [← Nat.shiftLeft_add_eq_or_of_lt (Nat.mod_lt _ (Nat.two_pow_pos 52)), Nat.shiftLeft_eq]
  simp

theorem normal_packed {x : Float} {m : ℕ} {e : ℤ} (some : 0 < m) (low : 2 ^ 52 ≤ m) (high : m < 2 ^ 53)
    (least : -1074 ≤ e) (most : e ≤ 971)
    (packed : x.toBits.toBitVec = UnpackedFloat.pack .binary64 (.finite .positive m e some)) : Normal x m e := by
  refine ⟨low, high, least, most, ?_⟩
  have biased : (e + Format.binary64.exponentBias + Format.binary64.mantissaBitsWithoutImplicit).toNat =
      (e + 1075).toNat := by
    have bias : (Format.binary64.exponentBias : ℤ) = 1023 := rfl
    rw [bias]
    push_cast
    omega
  have fits : ¬2 ^ Format.binary64.exponentBits ≤ (e + 1075).toNat + 1 := by
    change ¬2 ^ 11 ≤ _
    omega
  have long : m.log2 + 1 = Format.binary64.mantissaBits := by
    rw [log_of_bounds low high]
    rfl
  have bits : x.toBits.toNat = (UnpackedFloat.pack .binary64 (.finite .positive m e some)).toNat := by
    rw [← packed]
    rfl
  rw [bits]
  simp only [UnpackedFloat.pack, biased, if_neg fits, if_pos long]
  rw [packed_components _ _ (by omega)]
  push_cast
  omega

theorem normal_fields {x : Float} {m : ℕ} {e : ℤ} (normal : Normal x m e) :
    exponentField x = (e + 1075).toNat ∧ fractionField x = m - 2 ^ 52 ∧ x.toBits.toNat < 2 ^ 63 := by
  obtain ⟨low, high, least, most, bits⟩ := normal
  rw [exponentField, fractionField]
  simp only [Nat.pow_eq]
  omega

theorem unpacked_fields (bits : BitVec Format.binary64.numBits) {m : ℕ} {e : ℤ} (low : 2 ^ 52 ≤ m)
    (least : -1074 ≤ e) (most : e ≤ 971) (exponent : (unpackExponent bits).toNat = (e + 1075).toNat)
    (fraction : (unpackMantissa bits).toNat = m - 2 ^ 52) (short : bits.toNat < 2 ^ 63) :
    ∃ some, UnpackedFloat.unpack .binary64 bits = .finite .positive m e some := by
  have positive : Sign.ofBitVec (unpackSign bits) = .positive := by
    refine if_pos (BitVec.eq_of_toNat_eq ?_)
    simp [unpackSign, Nat.shiftRight_eq_div_pow]
    omega
  have finite : ¬unpackExponent bits = -1#_ := by
    intro full
    have ones := congrArg BitVec.toNat full
    have top : 2 ^ Format.binary64.exponentBits - 1 = 2047 := rfl
    rw [exponent, BitVec.neg_one_eq_allOnes, BitVec.toNat_allOnes, top] at ones
    omega
  have implicit : ¬unpackExponent bits = 0#_ := by
    intro none
    have zeros := congrArg BitVec.toNat none
    rw [exponent, BitVec.toNat_ofNat, Nat.zero_mod] at zeros
    omega
  have mantissa : (1#1 ++ unpackMantissa bits).toNat = m := by
    rw [BitVec.toNat_append, ← Nat.shiftLeft_add_eq_or_of_lt (unpackMantissa bits).isLt, fraction, Nat.shiftLeft_eq]
    change 1 * 2 ^ 52 + _ = m
    omega
  have place : ((e + 1075).toNat : ℤ) - (Format.binary64.exponentBias + Format.binary64.mantissaBitsWithoutImplicit) =
      e := by
    have bias : (Format.binary64.exponentBias : ℤ) = 1023 := rfl
    rw [bias]
    push_cast
    omega
  refine ⟨by omega, ?_⟩
  rw [UnpackedFloat.unpack]
  simp only [if_neg finite, if_neg implicit, positive, mantissa, exponent, place]

theorem normal_unpacked {x : Float} {m : ℕ} {e : ℤ} (normal : Normal x m e) :
    ∃ some, x.toModel.unpack = .finite .positive m e some := by
  obtain ⟨exponent, fraction, short⟩ := normal_fields normal
  rw [exponent_field] at exponent
  rw [fraction_field] at fraction
  exact unpacked_fields x.toBits.toBitVec normal.low normal.least normal.most exponent fraction short

theorem normal_key {x : Float} {m : ℕ} {e : ℤ} (normal : Normal x m e) : key x = (e + 1074) * 2 ^ 52 + m := by
  obtain ⟨_, _, short⟩ := normal_fields normal
  have unsigned : negative x = false := by
    rw [negative, decide_eq_false_iff_not, ge_iff_le, UInt64.le_iff_toNat_le, not_le]
    exact short
  rw [key, unsigned]
  simp only [Bool.false_eq_true, if_false, Nat.pow_eq, Nat.mod_eq_of_lt short]
  exact normal.bits

theorem normal_magnitude {x : Float} {m : ℕ} {e : ℤ} (normal : Normal x m e) : magnitude x = ⟨m, e⟩ := by
  obtain ⟨exponent, fraction, _⟩ := normal_fields normal
  have least := normal.least
  have place : ((e + 1075).toNat : ℤ) - 1075 = e := by omega
  rw [magnitude, if_neg (by omega), exponent, fraction, Nat.pow_eq, Nat.add_sub_cancel' normal.low, place]

theorem ratio_positive (m : Magnitude) : 0 < m.ratio.2 := by
  rw [Magnitude.ratio]
  split
  · exact one_pos
  · exact Nat.pow_pos (by decide)

theorem ratio_value (m : Magnitude) : (m.ratio.1 / m.ratio.2 : ℚ) = m.mantissa * 2 ^ m.exponent := by
  rw [Magnitude.ratio]
  split
  · rename_i e same
    rw [same]
    simp
  · rename_i e same
    rw [same, zpow_negSucc]
    simp [div_eq_mul_inv]

theorem value_finite {x : Float} {v : ℚ} (value : HasValue x v) : isFinite x = true := by
  obtain ⟨m, e, normal, _⟩ := value
  have field := (normal_fields normal).1
  have most := normal.most
  rw [isFinite, bne_iff_ne]
  omega

theorem value_positive {x : Float} {v : ℚ} (value : HasValue x v) : 0 < v := by
  obtain ⟨m, e, normal, rfl⟩ := value
  have low := normal.low
  exact mul_pos (by exact_mod_cast (by omega : 0 < m)) (place_positive e)

theorem key_positive {x : Float} {v : ℚ} (value : HasValue x v) : 0 ≤ key x := by
  obtain ⟨m, e, normal, _⟩ := value
  have least := normal.least
  rw [normal_key normal]
  omega

theorem value_less {x y : Float} {v w : ℚ} (first : HasValue x v) (second : HasValue y w) (less : key x < key y) :
    v < w := by
  obtain ⟨m, e, left, rfl⟩ := first
  obtain ⟨n, d, right, rfl⟩ := second
  rw [normal_key left, normal_key right] at less
  obtain ⟨low', high, _, _, _⟩ := left
  obtain ⟨low, high', _, _, _⟩ := right
  by_cases same : e = d
  · subst same
    exact mul_lt_mul_of_pos_right (by exact_mod_cast (by omega : m < n)) (place_positive e)
  · have step : (2 : ℚ) * 2 ^ e ≤ 2 ^ d := by
      rw [← zpow_one_add₀ (by norm_num)]
      exact zpow_le_zpow_right₀ (by norm_num) (by omega)
    calc (m : ℚ) * 2 ^ e < 2 ^ 53 * 2 ^ e := mul_lt_mul_of_pos_right (by exact_mod_cast high) (place_positive e)
      _ = 2 ^ 52 * (2 * 2 ^ e) := by ring
      _ ≤ 2 ^ 52 * 2 ^ d := mul_le_mul_of_nonneg_left step (by norm_num)
      _ ≤ n * 2 ^ d := mul_le_mul_of_nonneg_right (by exact_mod_cast low) (place_positive d).le

theorem key_le {x y : Float} {v w : ℚ} (first : HasValue x v) (second : HasValue y w) (le : v ≤ w) :
    key x ≤ key y := by
  by_contra greater
  exact absurd (value_less second first (not_le.mp greater)) (not_lt.mpr le)

theorem rounded_value {z : Float} {m : ℕ} {e : ℤ} {acc : Accuracy} {x y : ℚ}
    (holds : Holds (.ofMantissaAndAccuracy m acc) y) (scaled : x = y * 2 ^ e) (positive : 0 < x)
    (long : e ≤ lastPlace x) (least : -1074 ≤ lastPlace x) (most : lastPlace x < 971)
    (packed : z.toBits.toBitVec = UnpackedFloat.pack .binary64 (roundWithAccuracy .binary64 .positive m e acc)) :
    HasValue z (nearest x) := by
  obtain ⟨n, d, some, rounded, low, high, below, above, same⟩ := rounded_nearest holds scaled positive long least
  rw [rounded] at packed
  exact ⟨n, d, normal_packed some low high (by omega) (by omega) packed, same⟩

theorem product_nearest {x y : Float} {v w : ℚ} (first : HasValue x v) (second : HasValue y w)
    (least : -1074 ≤ lastPlace (v * w)) (most : lastPlace (v * w) < 971) : HasValue (x * y) (nearest (v * w)) := by
  have positive := mul_pos (value_positive first) (value_positive second)
  obtain ⟨m, e, left, rfl⟩ := first
  obtain ⟨n, d, right, rfl⟩ := second
  obtain ⟨_, unpacked⟩ := normal_unpacked left
  obtain ⟨_, unpacked'⟩ := normal_unpacked right
  have scaled : (m : ℚ) * 2 ^ e * (n * 2 ^ d) = (m * n : ℕ) * 2 ^ (e + d) := by
    rw [zpow_add₀ (by norm_num)]
    push_cast
    ring
  have packed : (x * y).toBits.toBitVec =
      UnpackedFloat.pack .binary64 (UnpackedFloat.mul .binary64 x.toModel.unpack y.toModel.unpack) := rfl
  rw [unpacked, unpacked'] at packed
  have long : e + d ≤ lastPlace (m * 2 ^ e * (n * 2 ^ d)) := by
    rw [← at_least_place positive, scaled]
    refine mul_le_mul_of_nonneg_right ?_ (place_positive _).le
    exact_mod_cast left.low.trans (Nat.le_mul_of_pos_right m (by have := right.low; omega))
  exact rounded_value (holds_exact (m * n)) scaled positive long least most packed

-- The dividend is lengthened until the quotient has enough bits, except where these would stand below all doubles.
theorem div_lengthened {m n : ℕ} {e d : ℤ} (left : m.log2 = 52) (right : n.log2 = 52) :
    ∃ k : ℕ, e - d - k ≤ max (e - d - 53) (-1074) ∧ UnpackedFloat.divCore .binary64 m e n d =
      (m * 2 ^ k / n, e - d - k, accuracyOfFraction (m * 2 ^ k % n) n) := by
  have target : Format.binary64.targetExponent (totalExponent m e - totalExponent n d) =
      max (e - d - 53) (-1074) := by
    rw [target_place, totalExponent, totalExponent, left, right]
    push_cast
    omega
  refine ⟨(e - d - min (e - d) (max (e - d - 53) (-1074))).toNat, by omega, ?_⟩
  simp only [UnpackedFloat.divCore, target, Nat.shiftLeft_eq]
  congr 2
  omega

theorem quotient_nearest {x y : Float} {v w : ℚ} (first : HasValue x v) (second : HasValue y w)
    (least : -1074 ≤ lastPlace (v / w)) (most : lastPlace (v / w) < 971) : HasValue (x / y) (nearest (v / w)) := by
  have positive := div_pos (value_positive first) (value_positive second)
  obtain ⟨m, e, left, rfl⟩ := first
  obtain ⟨n, d, right, rfl⟩ := second
  obtain ⟨_, unpacked⟩ := normal_unpacked left
  obtain ⟨some, unpacked'⟩ := normal_unpacked right
  obtain ⟨k, short, lengthened⟩ :=
    div_lengthened (e := e) (d := d) (log_of_bounds left.low left.high) (log_of_bounds right.low right.high)
  have packed : (x / y).toBits.toBitVec =
      UnpackedFloat.pack .binary64 (UnpackedFloat.div .binary64 x.toModel.unpack y.toModel.unpack) := rfl
  rw [unpacked, unpacked', UnpackedFloat.div, lengthened] at packed
  have divisor : (0 : ℚ) < n := by exact_mod_cast some
  have parts : ((m * 2 ^ k / n : ℕ) : ℚ) + (m * 2 ^ k % n : ℕ) / n = m * 2 ^ k / n := by
    have whole : (m * 2 ^ k : ℚ) = n * (m * 2 ^ k / n : ℕ) + (m * 2 ^ k % n : ℕ) := by
      exact_mod_cast (Nat.div_add_mod (m * 2 ^ k) n).symm
    rw [whole, add_div, mul_div_cancel_left₀ _ divisor.ne']
  have scaled : (m : ℚ) * 2 ^ e / (n * 2 ^ d) =
      (((m * 2 ^ k / n : ℕ) : ℚ) + (m * 2 ^ k % n : ℕ) / n) * 2 ^ (e - d - k) := by
    rw [parts, zpow_sub₀ (by norm_num), zpow_sub₀ (by norm_num), zpow_natCast]
    field_simp
  have long : e - d - k ≤ lastPlace (m * 2 ^ e / (n * 2 ^ d)) := by
    have halved : (2 : ℚ) ^ 52 * 2 ^ (e - d - 53) ≤ m * 2 ^ e / (n * 2 ^ d) := by
      have low : (2 : ℚ) ^ 52 ≤ m := by exact_mod_cast left.low
      have high : (n : ℚ) ≤ 2 ^ 53 := by exact_mod_cast right.high.le
      have whole : (2 : ℚ) ^ (e - d - 53) * (2 ^ 53 * 2 ^ d) = 2 ^ e := by
        rw [place_split, ← zpow_add₀ (by norm_num)]
        congr 1
        push_cast
        ring
      rw [le_div_iff₀ (mul_pos divisor (place_positive d))]
      calc (2 : ℚ) ^ 52 * 2 ^ (e - d - 53) * (n * 2 ^ d)
          ≤ 2 ^ 52 * 2 ^ (e - d - 53) * (2 ^ 53 * 2 ^ d) := by gcongr
        _ = 2 ^ 52 * 2 ^ e := by rw [mul_assoc, whole]
        _ ≤ m * 2 ^ e := by gcongr
    rw [at_least_place positive] at halved
    omega
  exact rounded_value (holds_fraction _ (Nat.mod_lt _ some)) scaled positive long least most packed

theorem lengthened_value (n k : ℕ) (e : ℤ) : (n : ℚ) * 2 ^ e = (n * 2 ^ k : ℕ) * 2 ^ (e - k) := by
  rw [zpow_sub₀ (by norm_num), zpow_natCast]
  push_cast
  field_simp

theorem round_lengthened {n : ℕ} {e : ℤ} (some : 0 < n) (least : -1074 ≤ lastPlace (n * 2 ^ e)) :
    ∃ k : ℕ, e - k ≤ lastPlace (n * 2 ^ e) ∧ UnpackedFloat.round .binary64 .positive n e =
      roundWithAccuracy .binary64 .positive (n * 2 ^ k) (e - k) .exact := by
  rw [scaled_place some] at least ⊢
  have target : Format.binary64.targetExponent (totalExponent n e) = n.log2 + e - 52 := by
    rw [target_place, totalExponent]
    omega
  refine ⟨(e - (n.log2 + e - 52 : ℤ)).toNat, by omega, ?_⟩
  simp only [UnpackedFloat.round, target, UnpackedFloat.decreaseExponent, Nat.shiftLeft_eq]

theorem normalized_value {z : Float} {n : ℕ} {e : ℤ} (some : 0 < n) (least : -1074 ≤ lastPlace (n * 2 ^ e))
    (most : lastPlace (n * 2 ^ e) < 971)
    (packed : z.toBits.toBitVec = UnpackedFloat.pack .binary64 (UnpackedFloat.normalize .binary64 n e .positive)) :
    HasValue z (nearest (n * 2 ^ e)) := by
  obtain ⟨k, long, lengthened⟩ := round_lengthened some least
  have positive : (0 : ℚ) < n * 2 ^ e := mul_pos (by exact_mod_cast some) (place_positive e)
  have greater : compare (n : ℤ) 0 = .gt := Int.compare_eq_gt.mpr (by exact_mod_cast some)
  rw [UnpackedFloat.normalize, greater] at packed
  simp only [Int.toNat_natCast, lengthened] at packed
  exact rounded_value (holds_exact _) (lengthened_value n k e) positive long least most packed

theorem sum_nearest {x y : Float} {v w : ℚ} (first : HasValue x v) (second : HasValue y w)
    (most : lastPlace (v + w) < 971) : HasValue (x + y) (nearest (v + w)) := by
  have least := last_place_mono (value_positive first) (le_add_of_nonneg_right (value_positive second).le)
  obtain ⟨m, e, left, rfl⟩ := first
  obtain ⟨n, d, right, rfl⟩ := second
  rw [exact_place e left.low left.high] at least
  obtain ⟨some, unpacked⟩ := normal_unpacked left
  obtain ⟨_, unpacked'⟩ := normal_unpacked right
  -- Both are brought to the smaller exponent, where their mantissas are added.
  have scaled : (m : ℚ) * 2 ^ e + n * 2 ^ d =
      (m * 2 ^ (e - min e d).toNat + n * 2 ^ (d - min e d).toNat : ℕ) * 2 ^ min e d := by
    have first := lengthened_value m (e - min e d).toNat e
    have second := lengthened_value n (d - min e d).toNat d
    rw [show e - ((e - min e d).toNat : ℤ) = min e d by omega] at first
    rw [show d - ((d - min e d).toNat : ℤ) = min e d by omega] at second
    rw [first, second]
    push_cast
    ring
  have packed : (x + y).toBits.toBitVec =
      UnpackedFloat.pack .binary64 (UnpackedFloat.add .binary64 x.toModel.unpack y.toModel.unpack) := rfl
  rw [unpacked, unpacked'] at packed
  simp only [UnpackedFloat.add, UnpackedFloat.decreaseExponent, Nat.shiftLeft_eq, Sign.apply, ← Int.natCast_add]
    at packed
  rw [scaled] at least most ⊢
  exact normalized_value (by positivity) (left.least.trans least) most packed

theorem natural_nearest (n : UInt64) (some : 0 < n.toNat) : HasValue n.toFloat (nearest n.toNat) := by
  have short : n.toNat.log2 < 64 := (Nat.log2_lt (by omega)).mpr n.toNat_lt
  have place := scaled_place some 0
  have value : HasValue n.toFloat (nearest (n.toNat * 2 ^ (0 : ℤ))) :=
    normalized_value some (by omega) (by omega) rfl
  rwa [zpow_zero, mul_one] at value

theorem of_int_value {n : ℕ} (some : 0 < n) (short : n < 2 ^ 64) : HasValue (ofInt n) (nearest n) := by
  have unsigned : ¬(n : ℤ) < 0 := by omega
  have same : (UInt64.ofNat (n : ℤ).natAbs).toNat = n := by
    rw [Int.natAbs_natCast, UInt64.toNat_ofNat', Nat.mod_eq_of_lt short]
  have value := natural_nearest (UInt64.ofNat (n : ℤ).natAbs) (by omega)
  rw [same] at value
  rwa [ofInt, if_neg unsigned]

theorem ten_value : HasValue Float.exactlyRepresentablePowersOfTen[1] 10 := by
  refine ⟨5 * 2 ^ 50, -49, ⟨by norm_num, by norm_num, by norm_num, by norm_num, ?_⟩, by norm_num⟩
  decide +kernel

theorem moderate_place {x : ℚ} (low : 1 ≤ x) (high : x ≤ 2 ^ 80) : -1074 ≤ lastPlace x ∧ lastPlace x < 971 := by
  have positive : 0 < x := by linarith
  have least : -52 ≤ lastPlace x := by
    rw [← at_least_place positive]
    refine le_trans ?_ low
    norm_num
  have most : lastPlace x ≤ 28 := by
    rw [← below_place positive]
    refine lt_of_le_of_lt high ?_
    norm_num
  omega

end LiveTable.Binary64
