import LiveTable.Cell.Elapsed
import LiveTable.Number.Binary64
import Mathlib

namespace LiveTable.Binary64

open Float.Model (Format UnpackedFloat)
open Float.Model.UnpackedFloat (Accuracy Sign packComponents roundWithAccuracy unpackExponent unpackMantissa
  unpackSign unpackExponent_packComponents unpackMantissa_packComponents unpackSign_packComponents)

def lacksSign : UnpackedFloat → Bool
  | .infinity .positive | .zero .positive | .finite .positive _ _ _ => true
  | _ => false

def isPositive : UnpackedFloat → Bool
  | .finite .positive _ _ _ => true
  | _ => false

theorem lacks_sign_cases (x : UnpackedFloat) (unsigned : lacksSign x = true) :
    x = .infinity .positive ∨ x = .zero .positive ∨ ∃ m e h, x = .finite .positive m e h := by
  match x, unsigned with
  | .infinity .positive, _ => exact .inl rfl
  | .zero .positive, _ => exact .inr (.inl rfl)
  | .finite .positive m e h, _ => exact .inr (.inr ⟨m, e, h, rfl⟩)

theorem positive_cases (x : UnpackedFloat) (positive : isPositive x = true) :
    ∃ m e h, x = .finite .positive m e h := by
  match x, positive with
  | .finite .positive m e h, _ => exact ⟨m, e, h, rfl⟩

theorem rounded_lacks_sign (f : Format) (mantissa : Nat) (exponent : Int) (accuracy : Accuracy) :
    lacksSign (roundWithAccuracy f .positive mantissa exponent accuracy) = true := by
  unfold roundWithAccuracy
  dsimp only
  split <;> rfl

theorem normalized_lacks_sign (f : Format) (mantissa exponent : Int) (nonnegative : 0 ≤ mantissa) :
    lacksSign (UnpackedFloat.normalize f mantissa exponent .positive) = true := by
  unfold UnpackedFloat.normalize
  split
  · rename_i negative
    rw [Int.compare_eq_lt] at negative
    omega
  · rfl
  · exact rounded_lacks_sign f _ _ .exact

theorem sum_lacks_sign (f : Format) (x y : UnpackedFloat) (left : lacksSign x = true) (right : lacksSign y = true) :
    lacksSign (UnpackedFloat.add f x y) = true := by
  rcases lacks_sign_cases x left with rfl | rfl | ⟨m, e, _, rfl⟩ <;>
    rcases lacks_sign_cases y right with rfl | rfl | ⟨n, d, _, rfl⟩ <;> try rfl
  exact normalized_lacks_sign f _ _ (Int.add_nonneg (Int.natCast_nonneg _) (Int.natCast_nonneg _))

theorem product_lacks_sign (f : Format) (x y : UnpackedFloat) (left : lacksSign x = true)
    (right : isPositive y = true) : lacksSign (UnpackedFloat.mul f x y) = true := by
  obtain ⟨n, d, _, rfl⟩ := positive_cases y right
  rcases lacks_sign_cases x left with rfl | rfl | ⟨m, e, _, rfl⟩
  · rfl
  · rfl
  · exact rounded_lacks_sign f _ _ .exact

theorem quotient_lacks_sign (f : Format) (x y : UnpackedFloat) (left : lacksSign x = true)
    (right : isPositive y = true) : lacksSign (UnpackedFloat.div f x y) = true := by
  obtain ⟨n, d, _, rfl⟩ := positive_cases y right
  rcases lacks_sign_cases x left with rfl | rfl | ⟨m, e, _, rfl⟩
  · rfl
  · rfl
  · exact rounded_lacks_sign f _ _ _

theorem scientific_lacks_sign (f : Format) (mantissa : Nat) (exponent : Int) :
    lacksSign (UnpackedFloat.ofScientific f mantissa exponent) = true := by
  unfold UnpackedFloat.ofScientific
  split
  · rfl
  split
  · rfl
  split
  · rfl
  split
  · exact product_lacks_sign f _ _ rfl rfl
  · exact quotient_lacks_sign f _ _ rfl rfl

theorem unpacked_lacks_sign (f : Format) (bits : BitVec f.numBits) (sign : unpackSign bits = 0#1)
    (number : unpackExponent bits = -1#_ → unpackMantissa bits = 0#_) :
    lacksSign (UnpackedFloat.unpack f bits) = true := by
  have positive : Sign.ofBitVec (unpackSign bits) = .positive := if_pos sign
  unfold UnpackedFloat.unpack
  dsimp only
  rw [positive]
  split
  · rename_i full
    rw [if_pos (number full)]
    rfl
  split
  · split <;> rfl
  · rfl

theorem packed_lacks_sign (f : Format) (x : UnpackedFloat) (unsigned : lacksSign x = true) :
    lacksSign (UnpackedFloat.unpack f (UnpackedFloat.pack f x)) = true := by
  -- A finite number takes all ones for its exponent only where it counts as infinity.
  have components (exponent : BitVec f.exponentBits) (mantissa : BitVec f.mantissaBitsWithoutImplicit)
      (number : exponent = -1#_ → mantissa = 0#_) :
      lacksSign (UnpackedFloat.unpack f (packComponents f .positive exponent mantissa)) = true := by
    refine unpacked_lacks_sign f _ (unpackSign_packComponents .positive exponent mantissa) ?_
    rwa [unpackExponent_packComponents, unpackMantissa_packComponents]
  rcases lacks_sign_cases x unsigned with rfl | rfl | ⟨m, e, _, rfl⟩
  · exact components _ _ fun _ => rfl
  · exact components _ _ fun _ => rfl
  · unfold UnpackedFloat.pack
    dsimp only
    split
    · exact components _ _ fun _ => rfl
    · rename_i small
      split
      · refine components _ _ fun full => absurd (congrArg BitVec.toNat full) ?_
        have room := f.he
        rw [BitVec.neg_one_eq_allOnes, BitVec.toNat_ofNat, BitVec.toNat_allOnes, Nat.mod_eq_of_lt (by omega)]
        omega
      · refine components _ _ fun full => absurd (congrArg BitVec.toNat full) ?_
        have room := Nat.one_lt_two_pow (Nat.pos_iff_ne_zero.mp f.he)
        rw [BitVec.neg_one_eq_allOnes, BitVec.toNat_ofNat, BitVec.toNat_allOnes, Nat.zero_mod]
        omega

def Unsigned (x : Float) : Prop := lacksSign x.toModel.unpack = true

instance (x : Float) : Decidable (Unsigned x) := inferInstanceAs (Decidable (_ = true))

def Positive (x : Float) : Prop := isPositive x.toModel.unpack = true

instance (x : Float) : Decidable (Positive x) := inferInstanceAs (Decidable (_ = true))

theorem unsigned_add (x y : Float) (left : Unsigned x) (right : Unsigned y) : Unsigned (x + y) :=
  packed_lacks_sign .binary64 _ (sum_lacks_sign .binary64 _ _ left right)

theorem unsigned_mul (x y : Float) (left : Unsigned x) (right : Positive y) : Unsigned (x * y) :=
  packed_lacks_sign .binary64 _ (product_lacks_sign .binary64 _ _ left right)

theorem unsigned_div (x y : Float) (left : Unsigned x) (right : Positive y) : Unsigned (x / y) :=
  packed_lacks_sign .binary64 _ (quotient_lacks_sign .binary64 _ _ left right)

theorem unsigned_natural (n : UInt64) : Unsigned n.toFloat :=
  packed_lacks_sign .binary64 _ (normalized_lacks_sign .binary64 _ 0 (Int.natCast_nonneg _))

theorem powers_positive : ∀ power ∈ Float.exactlyRepresentablePowersOfTen, Positive power := by decide +kernel

theorem unsigned_scientific (digits : Nat) (negative : Bool) (exponent : Nat) :
    Unsigned (Float.ofScientific digits negative exponent) := by
  unfold Float.ofScientific
  split
  · dsimp only
    split
    · exact unsigned_div _ _ (unsigned_natural _) (powers_positive _ (Array.getElem_mem _))
    · exact unsigned_mul _ _ (unsigned_natural _) (powers_positive _ (Array.getElem_mem _))
  · exact packed_lacks_sign .binary64 _ (scientific_lacks_sign .binary64 digits _)

theorem exponent_field (x : Float) :
    exponentField x = (unpackExponent x.toBits.toBitVec : BitVec Format.binary64.exponentBits).toNat := by
  simp [exponentField, unpackExponent, Nat.shiftRight_eq_div_pow]

theorem fraction_field (x : Float) :
    fractionField x =
      (unpackMantissa x.toBits.toBitVec : BitVec Format.binary64.mantissaBitsWithoutImplicit).toNat := by
  simp [fractionField, unpackMantissa]

theorem nan_lacks_sign (f : Format) (bits : BitVec f.numBits) (full : unpackExponent bits = -1#_)
    (fraction : unpackMantissa bits ≠ 0#_) : lacksSign (UnpackedFloat.unpack f bits) = false := by
  unfold UnpackedFloat.unpack
  dsimp only
  rw [if_pos full, if_neg fraction]
  rfl

theorem unsigned_number (x : Float) (unsigned : Unsigned x) : isNaN x = false := by
  cases nan : isNaN x with
  | false => rfl
  | true =>
      simp only [isNaN, exponent_field, fraction_field, Bool.and_eq_true, beq_iff_eq, bne_iff_ne] at nan
      obtain ⟨full, fraction⟩ := nan
      have unknown : lacksSign x.toModel.unpack = false := by
        refine nan_lacks_sign .binary64 x.toBits.toBitVec (BitVec.toNat_inj.mp full) fun none => fraction ?_
        rw [none]
        rfl
      exact absurd unsigned (by simp [Unsigned, unknown])

theorem finite_number (x : Float) (finite : isFinite x = true) : isNaN x = false := by
  simp only [isFinite, bne_iff_ne] at finite
  simp [isNaN, finite]

end LiveTable.Binary64

namespace LiveTable

open Binary64 (Unsigned Positive)

namespace Reading

theorem scaled_unsigned (digits : Nat) (exponent : Int) : Unsigned (scaled digits exponent) := by
  unfold scaled
  split
  · decide +kernel
  dsimp only
  split
  · decide +kernel
  split
  · decide +kernel
  · exact Binary64.unsigned_scientific _ _ _

theorem digits_unsigned (cs : List Char) (x : Float) (read : unsignedFloat? cs = some x) : Unsigned x := by
  simp only [unsignedFloat?, Option.ite_none_left_eq_some, Option.map_eq_some_iff] at read
  obtain ⟨_, e, _, rfl⟩ := read
  exact scaled_unsigned _ _

end Reading

namespace Elapsed

theorem digit_numeric {c : Char} (digit : Reading.isDigit c = true) : isNumeric c = true := by
  rw [isNumeric, digit, Bool.true_or]

theorem numeric_lower (c : Char) (numeric : isNumeric c = true) : c.toLower = c := by
  have small : c.toNat < 'A'.toNat := by
    simp only [isNumeric, Reading.isDigit, Bool.or_eq_true, Bool.and_eq_true, decide_eq_true_eq, beq_iff_eq] at numeric
    rcases numeric with ⟨_, digit⟩ | rfl
    · exact Nat.lt_of_le_of_lt digit (by decide)
    · decide
  have other : ¬ ('A'.val ≤ c.val ∧ c.val ≤ 'Z'.val) := fun upper => Nat.not_lt_of_le upper.1 small
  unfold Char.toLower
  exact dif_neg other

theorem numeric_no_word {cs : List Char} {c : Char} (member : c ∈ cs) (numeric : isNumeric c = true) :
    Reading.word? cs = none := by
  have lower : c ∈ (String.ofList (cs.map Char.toLower)).toList := by
    rw [String.toList_ofList, ← numeric_lower c numeric]
    exact List.mem_map_of_mem member
  have other (word : String) (letters : (word.toList.all fun c => !isNumeric c) = true) :
      String.ofList (cs.map Char.toLower) ≠ word := by
    intro same
    rw [same] at lower
    have letter := List.all_eq_true.mp letters c lower
    simp [numeric] at letter
  simp [Reading.word?, other "inf" (by decide), other "infinity" (by decide), other "nan" (by decide)]

theorem numeric_word (cs : List Char) (numeric : ∀ c ∈ cs, isNumeric c = true) : Reading.word? cs = none := by
  cases cs with
  | nil => rfl
  | cons c cs => exact numeric_no_word List.mem_cons_self (numeric c List.mem_cons_self)

theorem numeric_unsigned {c : Char} (cs : List Char) (numeric : isNumeric c = true) :
    Reading.sign (c :: cs) = (false, c :: cs) := by
  unfold Reading.sign
  split
  · rename_i minus
    cases minus
    exact absurd numeric (by decide)
  · rename_i plus
    cases plus
    exact absurd numeric (by decide)
  · rfl

theorem numeric_sign (cs : List Char) (numeric : ∀ c ∈ cs, isNumeric c = true) : Reading.sign cs = (false, cs) := by
  cases cs with
  | nil => rfl
  | cons c cs => exact numeric_unsigned cs (numeric c List.mem_cons_self)

theorem number_unsigned (cs : List Char) (x : Float) (numeric : ∀ c ∈ cs, isNumeric c = true)
    (read : Reading.floatOfChars? cs = some x) : Unsigned x := by
  simp only [Reading.floatOfChars?, numeric_sign cs numeric, numeric_word cs numeric, Option.or_none,
    Bool.false_eq_true, if_false, Option.map_id'] at read
  exact Reading.digits_unsigned cs x read

theorem unit_positive (cs rest : List Char) (seconds : Float) (read : unit? cs = some (seconds, rest)) :
    Positive seconds := by
  unfold unit? at read
  split at read <;> cases read <;> decide +kernel

theorem sum_unsigned (fuel : Nat) (total x : Float) (cs : List Char) (unsigned : Unsigned total)
    (read : sum? fuel total cs = some x) : Unsigned x := by
  induction fuel generalizing total cs with
  | zero => cases read
  | succ fuel ih =>
      rw [sum?] at read
      split at read
      · cases read
        exact unsigned
      dsimp only at read
      split at read
      · cases read
      split at read
      · cases read
      · rename_i seconds rest unit
        split at read
        · cases read
        · rename_i y number
          have amount := number_unsigned _ y (fun c member => List.mem_takeWhile_imp member) number
          have part := Binary64.unsigned_mul y seconds amount (unit_positive _ rest seconds unit)
          exact ih _ rest (Binary64.unsigned_add total _ unsigned part) read

theorem seconds_unsigned (s : String) (x : Float) (read : seconds? s = some x) : Unsigned x := by
  unfold seconds? at read
  dsimp only at read
  split at read
  · cases read
  · exact sum_unsigned _ 0 x _ (by decide +kernel) read

end Elapsed

end LiveTable
