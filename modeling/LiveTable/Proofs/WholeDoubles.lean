import LiveTable.Proofs.Rounding

namespace LiveTable.Binary64

open Float.Model (UnpackedFloat)

theorem value_unique {x y : Float} {v : ℚ} (first : HasValue x v) (second : HasValue y v) : x = y := by
  have keys : key x = key y := le_antisymm (key_le first second (le_refl v)) (key_le second first (le_refl v))
  obtain ⟨m, e, left, _⟩ := first
  obtain ⟨n, d, right, _⟩ := second
  rw [normal_key left, normal_key right, ← left.bits, ← right.bits] at keys
  exact Float.toBits_inj.mp (UInt64.toNat_inj.mp (by exact_mod_cast keys))

theorem whole_value {n : ℕ} (some : 0 < n) (small : n < 2 ^ 53) : HasValue (ofInt n) n := by
  have value := of_int_value some (by omega)
  rwa [nearest_small some small] at value

theorem small_place {n : ℕ} (some : 0 < n) (small : n < 2 ^ 53) : -1074 ≤ lastPlace n ∧ lastPlace n < 971 := by
  have short : n.log2 < 53 := (Nat.log2_lt some.ne').mpr small
  rw [natural_place]
  omega

theorem zero_unpacked : (ofInt 0).toModel.unpack = .zero .positive := rfl

theorem repacked {x z : Float} {v : ℚ} (value : HasValue x v)
    (packed : z.toBits.toBitVec = UnpackedFloat.pack .binary64 x.toModel.unpack) : z = x := by
  obtain ⟨m, e, normal, same⟩ := value
  obtain ⟨some, unpacked⟩ := normal_unpacked normal
  rw [unpacked] at packed
  exact value_unique ⟨m, e, normal_packed some normal.low normal.high normal.least normal.most packed, same⟩
    ⟨m, e, normal, same⟩

theorem zero_sum {x : Float} {v : ℚ} (value : HasValue x v) : ofInt 0 + x = x := by
  have packed : (ofInt 0 + x).toBits.toBitVec =
      UnpackedFloat.pack .binary64 (UnpackedFloat.add .binary64 (ofInt 0).toModel.unpack x.toModel.unpack) := rfl
  obtain ⟨_, _, normal, _⟩ := value
  obtain ⟨_, unpacked⟩ := normal_unpacked normal
  rw [zero_unpacked, unpacked, UnpackedFloat.add, ← unpacked] at packed
  · exact repacked ⟨_, _, normal, rfl⟩ packed
  all_goals simp

theorem sum_zero {x : Float} {v : ℚ} (value : HasValue x v) : x + ofInt 0 = x := by
  have packed : (x + ofInt 0).toBits.toBitVec =
      UnpackedFloat.pack .binary64 (UnpackedFloat.add .binary64 x.toModel.unpack (ofInt 0).toModel.unpack) := rfl
  obtain ⟨_, _, normal, _⟩ := value
  obtain ⟨_, unpacked⟩ := normal_unpacked normal
  rw [zero_unpacked, unpacked, UnpackedFloat.add, ← unpacked] at packed
  · exact repacked ⟨_, _, normal, rfl⟩ packed
  all_goals simp

theorem zero_product {x : Float} {v : ℚ} (value : HasValue x v) : ofInt 0 * x = ofInt 0 := by
  have packed : (ofInt 0 * x).toBits.toBitVec =
      UnpackedFloat.pack .binary64 (UnpackedFloat.mul .binary64 (ofInt 0).toModel.unpack x.toModel.unpack) := rfl
  obtain ⟨_, _, normal, _⟩ := value
  obtain ⟨_, unpacked⟩ := normal_unpacked normal
  have nothing : (ofInt 0).toBits.toBitVec = UnpackedFloat.pack .binary64 (.zero (.positive * .positive)) := rfl
  rw [zero_unpacked, unpacked, UnpackedFloat.mul, ← nothing] at packed
  exact Float.toBits_inj.mp (UInt64.toBitVec_inj.mp packed)

theorem whole_sum {a b : ℕ} (small : a + b < 2 ^ 53) : ofInt a + ofInt b = ofInt (a + b : ℕ) := by
  rcases Nat.eq_zero_or_pos a with rfl | some
  · rcases Nat.eq_zero_or_pos b with rfl | some'
    · exact Float.toBits_inj.mp (by decide +kernel)
    · rw [Nat.zero_add]
      exact zero_sum (whole_value some' (by omega))
  rcases Nat.eq_zero_or_pos b with rfl | some'
  · exact sum_zero (whole_value some small)
  have both : 0 < a + b := by omega
  have exactly := nearest_small both small
  have place := small_place both small
  rw [Nat.cast_add] at exactly place
  have value := sum_nearest (whole_value some (by omega)) (whole_value some' (by omega)) place.2
  rw [exactly, ← Nat.cast_add] at value
  exact value_unique value (whole_value both small)

theorem whole_product {a b : ℕ} (some : 0 < b) (short : b < 2 ^ 53) (small : a * b < 2 ^ 53) :
    ofInt a * ofInt b = ofInt (a * b : ℕ) := by
  rcases Nat.eq_zero_or_pos a with rfl | some'
  · rw [Nat.zero_mul]
    exact zero_product (whole_value some short)
  have both : 0 < a * b := Nat.mul_pos some' some
  have long : a < 2 ^ 53 := (Nat.le_mul_of_pos_right a some).trans_lt small
  have exactly := nearest_small both small
  have place := small_place both small
  rw [Nat.cast_mul] at exactly place
  have value := product_nearest (whole_value some' long) (whole_value some short) place.1 place.2
  rw [exactly, ← Nat.cast_mul] at value
  exact value_unique value (whole_value both small)

theorem whole_key_mono {a b : ℕ} (le : a ≤ b) (small : b < 2 ^ 53) : key (ofInt a) ≤ key (ofInt b) := by
  rcases Nat.eq_zero_or_pos a with rfl | some
  · rcases Nat.eq_zero_or_pos b with rfl | some'
    · exact le_refl _
    · exact key_positive (whole_value some' small)
  · exact key_le (whole_value some (by omega)) (whole_value (some.trans_le le) small) (by exact_mod_cast le)

end LiveTable.Binary64
