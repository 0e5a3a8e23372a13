import LiveTable.Proofs.NaturalOrder
import Mathlib

namespace LiveTable

namespace Reading

theorem nat_of_digits_append (before behind : List Char) :
    natOfDigits (before ++ behind) = natOfDigits before * 10 ^ behind.length + natOfDigits behind := by
  have split : natOfDigits (before ++ behind) = Nat.ofDigitChars 10 behind (natOfDigits before) :=
    Nat.ofDigitChars_append 0
  rw [split, Nat.ofDigitChars_eq_ofDigitChars_zero, Nat.mul_comm]
  rfl

theorem nat_of_digits_cons (c : Char) (cs : List Char) :
    natOfDigits (c :: cs) = digitValue c * 10 ^ cs.length + natOfDigits cs := by
  have single : natOfDigits [c] = digitValue c := by simp [natOfDigits]
  rw [← single]
  exact nat_of_digits_append [c] cs

theorem nat_of_written (n : Nat) : natOfDigits (Nat.toDigits 10 n) = n := Nat.ofDigitChars_ten_toDigits

theorem written_digits (n : Nat) : ∀ c ∈ Nat.toDigits 10 n, isDigit c = true := by
  intro c member
  have digit := Nat.isDigit_of_mem_toDigits (by decide) (by decide) member
  simpa [isDigit, Char.isDigit, Char.le_def] using digit

theorem digit_value_small {c : Char} (digit : isDigit c = true) : digitValue c ≤ 9 := by
  have range := (Text.digit_range c).mp digit
  rw [digitValue]
  have nine : '9'.toNat = '0'.toNat + 9 := rfl
  omega

theorem nat_of_digits_small {cs : List Char} (digits : ∀ c ∈ cs, isDigit c = true) :
    natOfDigits cs < 10 ^ cs.length := by
  induction cs with
  | nil => exact Nat.zero_lt_one
  | cons c rest ih =>
      rw [List.forall_mem_cons] at digits
      have first := digit_value_small digits.1
      have behind := ih digits.2
      have most := Nat.mul_le_mul_right (10 ^ rest.length) first
      rw [nat_of_digits_cons, List.length_cons, Nat.pow_succ]
      omega

end Reading

namespace Text

open Reading

theorem front_taken {p : Char → Bool} {front behind : List Char} (all : ∀ c ∈ front, p c = true)
    (stops : ∀ c ∈ behind.head?, p c = false) :
    (front ++ behind).takeWhile p = front ∧ (front ++ behind).dropWhile p = behind := by
  rw [List.takeWhile_append_of_pos all, List.dropWhile_append_of_pos all]
  cases behind with
  | nil => simp
  | cons c rest => simp [stops c rfl]

theorem compare_digits {a b : Char} (left : isDigit a = true) (right : isDigit b = true) :
    compare a b = compare (digitValue a) (digitValue b) := by
  have first := (digit_range a).mp left
  have second := (digit_range b).mp right
  rw [compare_characters, digitValue, digitValue]
  rcases Nat.lt_trichotomy a.toNat b.toNat with less | same | more
  · rw [Nat.compare_eq_lt.mpr less, Nat.compare_eq_lt.mpr (by omega)]
  · rw [same]
    simp
  · rw [Nat.compare_eq_gt.mpr more, Nat.compare_eq_gt.mpr (by omega)]

theorem compare_leading {a b x y unit : Nat} (first : x < unit) (second : y < unit) :
    (compare a b).then (compare x y) = compare (a * unit + x) (b * unit + y) := by
  rcases Nat.lt_trichotomy a b with less | rfl | more
  · have step := Nat.mul_le_mul_right unit less
    rw [Nat.succ_mul] at step
    have below : a * unit + x < b * unit + y := by omega
    rw [Nat.compare_eq_lt.mpr less, Nat.compare_eq_lt.mpr below]
    rfl
  · rw [Nat.compare_eq_eq.mpr rfl, Ordering.eq_then]
    rcases Nat.lt_trichotomy x y with less | rfl | more
    · rw [Nat.compare_eq_lt.mpr less, Nat.compare_eq_lt.mpr (Nat.add_lt_add_left less _)]
    · rw [Nat.compare_eq_eq.mpr rfl, Nat.compare_eq_eq.mpr rfl]
    · rw [Nat.compare_eq_gt.mpr more, Nat.compare_eq_gt.mpr (Nat.add_lt_add_left more _)]
  · have step := Nat.mul_le_mul_right unit more
    rw [Nat.succ_mul] at step
    have above : b * unit + y < a * unit + x := by omega
    rw [Nat.compare_eq_gt.mpr more, Nat.compare_eq_gt.mpr above]
    rfl

theorem compare_same_length {as bs : List Char} (left : ∀ c ∈ as, isDigit c = true) (right : ∀ c ∈ bs, isDigit c = true)
    (same : as.length = bs.length) : compare as bs = compare (natOfDigits as) (natOfDigits bs) := by
  induction as generalizing bs with
  | nil =>
      obtain rfl := List.eq_nil_of_length_eq_zero same.symm
      rfl
  | cons a as ih =>
      cases bs with
      | nil => cases same
      | cons b bs =>
          rw [List.forall_mem_cons] at left right
          have length : as.length = bs.length := Nat.succ.inj same
          have first := nat_of_digits_small left.2
          rw [length] at first
          rw [List.compare_cons_cons, compare_digits left.1 right.1, ih left.2 right.2 length,
            compare_leading first (nat_of_digits_small right.2), nat_of_digits_cons, nat_of_digits_cons, length]

theorem significant_value (run : List Char) : natOfDigits (significant run) = natOfDigits run := by
  induction run with
  | nil => rfl
  | cons c rest ih =>
      by_cases zero : c = '0'
      · subst zero
        have skipped : significant ('0' :: rest) = significant rest := rfl
        rw [skipped, ih, nat_of_digits_cons]
        simp [digitValue]
      · rw [significant, List.dropWhile_cons_of_neg (by simpa using zero)]

theorem significant_digits {run : List Char} (digits : ∀ c ∈ run, isDigit c = true) :
    ∀ c ∈ significant run, isDigit c = true :=
  fun c member => digits c ((List.dropWhile_sublist _).subset member)

theorem significant_least {run : List Char} {c : Char} {rest : List Char} (digits : ∀ c ∈ run, isDigit c = true)
    (found : significant run = c :: rest) : 10 ^ rest.length ≤ natOfDigits run := by
  have digit : isDigit c = true := significant_digits digits c (by rw [found]; exact List.mem_cons_self)
  have visible : c ≠ '0' := by
    have head := List.head?_dropWhile_not (· == '0') run
    rw [← significant, found] at head
    simpa using head
  have some : 1 ≤ digitValue c := by
    have range := (digit_range c).mp digit
    have other : c.toNat ≠ '0'.toNat := mt Char.toNat_inj.mp visible
    rw [digitValue]
    omega
  have least := Nat.mul_le_mul_right (10 ^ rest.length) some
  rw [← significant_value, found, nat_of_digits_cons]
  omega

theorem longer_greater {as bs : List Char} (left : ∀ c ∈ as, isDigit c = true) (right : ∀ c ∈ bs, isDigit c = true)
    (longer : (significant as).length < (significant bs).length) : natOfDigits as < natOfDigits bs := by
  have below := nat_of_digits_small (significant_digits left)
  rw [significant_value] at below
  cases found : significant bs with
  | nil =>
      rw [found] at longer
      exact absurd longer (Nat.not_lt_zero _)
  | cons c rest =>
      rw [found, List.length_cons] at longer
      have power : 10 ^ (significant as).length ≤ 10 ^ rest.length :=
        Nat.pow_le_pow_right (by decide) (Nat.le_of_lt_succ longer)
      have above := significant_least right found
      omega

theorem compare_runs_value {as bs : List Char} (left : ∀ c ∈ as, isDigit c = true)
    (right : ∀ c ∈ bs, isDigit c = true) :
    compareRuns as bs = (compare (natOfDigits as) (natOfDigits bs)).then (compare as.length bs.length) := by
  have runs : compareRuns as bs = (compare (significant as).length (significant bs).length).then
      ((compare (significant as) (significant bs)).then (compare as.length bs.length)) := rfl
  rw [runs]
  rcases Nat.lt_trichotomy (significant as).length (significant bs).length with less | same | more
  · rw [Nat.compare_eq_lt.mpr less, Nat.compare_eq_lt.mpr (longer_greater left right less)]
    rfl
  · rw [Nat.compare_eq_eq.mpr same, Ordering.eq_then,
      compare_same_length (significant_digits left) (significant_digits right) same, significant_value,
      significant_value]
  · rw [Nat.compare_eq_gt.mpr more, Nat.compare_eq_gt.mpr (longer_greater right left more)]
    rfl

theorem run_order {run run' as bs : List Char} (some : run ≠ []) (some' : run' ≠ [])
    (digits : ∀ c ∈ run, isDigit c = true) (digits' : ∀ c ∈ run', isDigit c = true)
    (stops : ∀ c ∈ as.head?, isDigit c = false) (stops' : ∀ c ∈ bs.head?, isDigit c = false) :
    naturalOrderChars (run ++ as) (run' ++ bs) = (compareRuns run run').then (naturalOrderChars as bs) := by
  obtain ⟨taken, left⟩ := front_taken digits stops
  obtain ⟨taken', left'⟩ := front_taken digits' stops'
  cases run with
  | nil => exact absurd rfl some
  | cons d ds =>
      cases run' with
      | nil => exact absurd rfl some'
      | cons e es =>
          have both : (isDigit d && isDigit e) = true := by
            rw [digits d List.mem_cons_self, digits' e List.mem_cons_self, Bool.and_self]
          rw [List.cons_append, List.cons_append] at *
          rw [naturalOrderChars, dif_pos both, taken, left, taken', left']

theorem character_order {a b : Char} (other : isDigit a = false) (as bs : List Char) :
    naturalOrderChars (a :: as) (b :: bs) = (compare a b).then (naturalOrderChars as bs) := by
  rw [naturalOrderChars, dif_neg (by simp [other])]

theorem written_order (a b : Nat) {as bs : List Char} (stops : ∀ c ∈ as.head?, isDigit c = false)
    (stops' : ∀ c ∈ bs.head?, isDigit c = false) :
    naturalOrderChars (Nat.toDigits 10 a ++ as) (Nat.toDigits 10 b ++ bs) =
      (compare a b).then (naturalOrderChars as bs) := by
  rw [run_order Nat.toDigits_ne_nil Nat.toDigits_ne_nil (written_digits a) (written_digits b) stops stops',
    compare_runs_value (written_digits a) (written_digits b), nat_of_written, nat_of_written, Ordering.then_assoc]
  rcases eq_or_ne a b with rfl | different
  · simp only [Std.compare_self, Ordering.eq_then]
  · cases compared : compare a b with
    | eq => exact absurd (Nat.compare_eq_eq.mp compared) different
    | lt => rfl
    | gt => rfl

theorem numbered_order (a b : Nat) {unit : String} (stops : ∀ c ∈ unit.toList.head?, isDigit c = false) :
    naturalOrder (toString a ++ unit) (toString b ++ unit) = compare a b := by
  have written (n : Nat) : (toString n ++ unit).toList = Nat.toDigits 10 n ++ unit.toList := by
    rw [String.toList_append, Nat.toString_eq_repr, Nat.toList_repr]
  have even : naturalOrder unit unit = .eq := Std.ReflCmp.compare_self
  rw [naturalOrder] at even ⊢
  rw [written, written, written_order a b stops stops, even, Ordering.then_eq]

end Text

end LiveTable
