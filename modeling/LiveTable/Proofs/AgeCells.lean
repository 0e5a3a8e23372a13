import LiveTable.Proofs.CellOrder
import LiveTable.Proofs.NumberedCells
import LiveTable.Proofs.WholeDoubles

namespace LiveTable

namespace Reading

open Binary64 (ofInt)

theorem whole_scaled {n : ℕ} (small : n < 2 ^ 53) : scaled n 0 = ofInt n := by
  rcases Nat.eq_zero_or_pos n with rfl | some
  · rfl
  have short : (Nat.toDigits 10 n).length ≤ 16 :=
    (Nat.length_toDigits_le_iff (by decide) (by decide)).mpr (by omega)
  have size : ¬ ((Nat.toDigits 10 n).length : ℤ) + 0 > 400 ∧ ¬ ((Nat.toDigits 10 n).length : ℤ) + 0 < -400 := by omega
  have one : Float.exactlyRepresentablePowersOfTen[0] = ofInt (1 : ℕ) := Float.toBits_inj.mp (by decide +kernel)
  have product : Float.ofScientific n false 0 = ofInt n * ofInt (1 : ℕ) := by
    rw [Float.ofScientific, dif_pos ⟨small, by decide⟩, ← one]
    rfl
  rw [scaled, if_neg some.ne']
  simp only [if_neg size.1, if_neg size.2]
  exact product.trans (by rw [Binary64.whole_product one_pos (by decide) (by omega), Nat.mul_one])

end Reading

namespace Elapsed

open Binary64 (ofInt)

inductive TimeUnit where
  | year | day | hour | minute | second

namespace TimeUnit

def name : TimeUnit → String
  | year => "y"
  | day => "d"
  | hour => "h"
  | minute => "m"
  | second => "s"

def seconds : TimeUnit → ℕ
  | year => 365 * 86400
  | day => 86400
  | hour => 3600
  | minute => 60
  | second => 1

theorem seconds_between (u : TimeUnit) : 0 < u.seconds ∧ u.seconds < 2 ^ 53 := by
  cases u <;> decide

theorem name_visible (u : TimeUnit) : ∀ c ∈ u.name.toList, Text.isBlank c = false := by
  intro c member
  cases u <;> obtain rfl := List.mem_singleton.mp member <;> decide

theorem name_starts (u : TimeUnit) (behind : List Char) :
    ∀ c ∈ (u.name.toList ++ behind).head?, isNumeric c = false := by
  cases u <;> rintro c ⟨⟩ <;> decide

-- An `s` behind a minute would make it a millisecond.
theorem unit_read (u : TimeUnit) {behind : List Char} (stops : 's' ∉ behind.head?) :
    unit? (u.name.toList ++ behind) = some (ofInt u.seconds, behind) := by
  have exactly {x : Float} {n : ℕ} (bits : x.toBits = (ofInt n).toBits) :
      some (x, behind) = some (ofInt n, behind) := by
    rw [Float.toBits_inj.mp bits]
  cases u with
  | minute =>
      have minutes : unit? ('m' :: behind) = some (60.0, behind) := by
        unfold unit?
        split <;> simp_all
      exact minutes.trans (exactly (by decide +kernel))
  | year => exact exactly (by decide +kernel)
  | day => exact exactly (by decide +kernel)
  | hour => exact exactly (by decide +kernel)
  | second => exact exactly (by decide +kernel)

end TimeUnit

def written (parts : List (ℕ × TimeUnit)) : List Char :=
  parts.flatMap fun (n, u) => Nat.toDigits 10 n ++ u.name.toList

def total (parts : List (ℕ × TimeUnit)) : ℕ := (parts.map fun (n, u) => n * u.seconds).sum

theorem written_cons (n : ℕ) (u : TimeUnit) (parts : List (ℕ × TimeUnit)) :
    written ((n, u) :: parts) = Nat.toDigits 10 n ++ (u.name.toList ++ written parts) := by
  rw [written, List.flatMap_cons, List.append_assoc]
  rfl

theorem total_cons (n : ℕ) (u : TimeUnit) (parts : List (ℕ × TimeUnit)) :
    total ((n, u) :: parts) = n * u.seconds + total parts := by
  rw [total, List.map_cons, List.sum_cons]
  rfl

theorem written_starts (parts : List (ℕ × TimeUnit)) : ∀ c ∈ (written parts).head?, Reading.isDigit c = true := by
  cases parts with
  | nil => simp [written]
  | cons part parts =>
      obtain ⟨n, u⟩ := part
      intro c start
      rw [written_cons, List.head?_append_of_ne_nil _ Nat.toDigits_ne_nil] at start
      exact Reading.written_digits n c (List.mem_of_head? start)

theorem sum_written (parts : List (ℕ × TimeUnit)) (before : ℕ) {fuel : ℕ} (enough : parts.length < fuel)
    (small : before + total parts < 2 ^ 53) :
    sum? fuel (ofInt before) (written parts) = some (ofInt (before + total parts : ℕ)) := by
  induction parts generalizing fuel before with
  | nil =>
      obtain ⟨fuel, rfl⟩ := Nat.exists_eq_succ_of_ne_zero (Nat.ne_zero_of_lt enough)
      simp [sum?, written, total]
  | cons part parts ih =>
      obtain ⟨n, u⟩ := part
      obtain ⟨fuel, rfl⟩ := Nat.exists_eq_succ_of_ne_zero (Nat.ne_zero_of_lt enough)
      obtain ⟨some_seconds, few_seconds⟩ := u.seconds_between
      rw [total_cons, ← Nat.add_assoc] at small ⊢
      have long : n ≤ n * u.seconds := Nat.le_mul_of_pos_right n some_seconds
      have number := Reading.written_read n
      rw [Reading.whole_scaled (by omega)] at number
      obtain ⟨taken, left⟩ := Text.front_taken (written_numeric n) (u.name_starts (written parts))
      have no_second : 's' ∉ (written parts).head? := fun start => absurd (written_starts parts _ start) (by decide)
      rw [written_cons, sum?, taken, left, u.unit_read no_second]
      simp only [List.isEmpty_iff, List.append_eq_nil_iff, Nat.toDigits_ne_nil, false_and, if_false, number]
      rw [Binary64.whole_product some_seconds few_seconds (by omega), Binary64.whole_sum (by omega)]
      exact ih _ (by simpa using enough) small

theorem written_visible (parts : List (ℕ × TimeUnit)) : ∀ c ∈ written parts, Text.isBlank c = false := by
  intro c member
  obtain ⟨⟨n, u⟩, _, inside⟩ := List.mem_flatMap.mp member
  rcases List.mem_append.mp inside with digit | letter
  · exact numeric_visible (written_numeric n c digit)
  · exact u.name_visible c letter

theorem written_long (parts : List (ℕ × TimeUnit)) : parts.length ≤ (written parts).length := by
  induction parts with
  | nil => exact Nat.zero_le _
  | cons part parts ih =>
      have digits := List.length_pos_iff.mpr (Nat.toDigits_ne_nil (b := 10) (n := part.1))
      rw [written_cons, List.length_append, List.length_append, List.length_cons]
      omega

-- A text of counts of units, with the seconds that they are together.
def Writes (text : String) (seconds : ℕ) : Prop :=
  ∃ parts, parts ≠ [] ∧ text.toList = written parts ∧ total parts = seconds

theorem writes_read {s : String} {t : ℕ} (writes : Writes s t) (small : t < 2 ^ 53) :
    seconds? s = some (ofInt t) := by
  obtain ⟨parts, nonempty, text, rfl⟩ := writes
  have trimmed : Text.trim s = s := Text.trim_visible_text (text ▸ written_visible parts)
  have long := written_long parts
  have some_parts := List.length_pos_iff.mpr nonempty
  have start := List.head?_eq_some_head (List.length_pos_iff.mp (some_parts.trans_le long))
  have other (t : String) (strange : t.toList.head?.any Reading.isDigit = false) : s ≠ t := by
    rintro rfl
    rw [text, start] at strange
    simp [written_starts parts _ start] at strange
  have unsaid : (s.isEmpty || s == Cell.notApplicable || s == Cell.unknown) = false := by
    simp [other "" (by decide), other Cell.notApplicable (by decide), other Cell.unknown (by decide)]
  have enough : parts.length < s.length + 1 := by
    rw [← String.length_toList, text]
    omega
  have sum := sum_written parts 0 enough (by omega)
  rw [Nat.zero_add] at sum
  simp only [seconds?, trimmed, unsaid, text]
  exact sum

def precision (s : ℕ) : ℕ :=
  if s < 600 then 1
  else if s < 8 * 3600 then 60
  else if s < 8 * 86400 then 3600
  else if s < 8 * 365 * 86400 then 86400
  else 365 * 86400

def shown (s : ℕ) : ℕ := s / precision s * precision s

theorem shown_cases (s : ℕ) : s < 600 ∧ shown s = s ∨ 600 ≤ s ∧ s < 8 * 3600 ∧ shown s = s / 60 * 60 ∨
    8 * 3600 ≤ s ∧ s < 8 * 86400 ∧ shown s = s / 3600 * 3600 ∨
    8 * 86400 ≤ s ∧ s < 8 * 365 * 86400 ∧ shown s = s / 86400 * 86400 ∨
    8 * 365 * 86400 ≤ s ∧ shown s = s / (365 * 86400) * (365 * 86400) := by
  simp only [shown, precision]
  split_ifs <;> omega

theorem shown_le (s : ℕ) : shown s ≤ s := Nat.div_mul_le_self s (precision s)

-- Every range of ages ends at a multiple of the next precision.
theorem shown_mono {s t : ℕ} (le : s ≤ t) : shown s ≤ shown t := by
  have first := shown_cases s
  have second := shown_cases t
  omega

theorem alone_writes (n : ℕ) (u : TimeUnit) : Writes (toString n ++ u.name) (n * u.seconds) := by
  refine ⟨[(n, u)], List.cons_ne_nil _ _, ?_, total_cons n u []⟩
  rw [written_cons, String.toList_append, Nat.toString_eq_repr, Nat.toList_repr, written, List.flatMap_nil,
    List.append_nil]

theorem units_write (n rest : ℕ) (u v : TimeUnit) :
    Writes (units n u.name rest v.name) (n * u.seconds + rest * v.seconds) := by
  rcases Nat.eq_zero_or_pos rest with rfl | some
  · rw [units, if_pos rfl, String.append_empty, Nat.zero_mul]
    exact alone_writes n u
  · refine ⟨[(n, u), (rest, v)], List.cons_ne_nil _ _, ?_, ?_⟩
    · simp [units, some.ne', written]
    · simp [total]

theorem describe_writes (s : ℕ) : Writes (describePast s) (shown s) := by
  have exactly {text : String} (t : ℕ) (same : t = shown s) (writes : Writes text t) : Writes text (shown s) :=
    same ▸ writes
  have ranges := shown_cases s
  simp only [describePast]
  split_ifs
  · exact exactly (s * 1) (by omega) (alone_writes s .second)
  · exact exactly (s / 60 * 60 + s % 60 * 1) (by omega) (units_write _ _ .minute .second)
  · exact exactly (s / 60 * 60) (by omega) (alone_writes _ .minute)
  · exact exactly (s / 60 / 60 * 3600 + s / 60 % 60 * 60) (by omega) (units_write _ _ .hour .minute)
  · exact exactly (s / 60 / 60 * 3600) (by omega) (alone_writes _ .hour)
  · exact exactly (s / 60 / 60 / 24 * 86400 + s / 60 / 60 % 24 * 3600) (by omega) (units_write _ _ .day .hour)
  · exact exactly (s / 60 / 60 / 24 * 86400) (by omega) (alone_writes _ .day)
  · exact exactly (s / 60 / 60 / 24 / 365 * (365 * 86400) + s / 60 / 60 / 24 % 365 * 86400) (by omega)
      (units_write _ _ .year .day)
  · exact exactly (s / 60 / 60 / 24 / 365 * (365 * 86400)) (by omega) (alone_writes _ .year)

theorem describe_read {s : ℤ} (past : 0 ≤ s) (small : s < 2 ^ 53) :
    seconds? (describe s) = some (ofInt (shown s.toNat)) := by
  have least := shown_le s.toNat
  rw [describe, if_neg (by omega), if_neg (by omega)]
  exact writes_read (describe_writes s.toNat) (by omega)

end Elapsed

namespace CellOrder

open Binary64 (ofInt)
open Elapsed (describe seconds?)

theorem whole_times_ordered (o : CellOrder) {s t : String} {a b : ℕ} (first : seconds? s = some (ofInt a))
    (second : seconds? t = some (ofInt b)) (le : a ≤ b) (small : b < 2 ^ 53) : o.compare s t ≠ .gt := by
  rw [compare]
  by_cases same : s = t
  · simp [same]
  · simp only [if_neg same, first, second]
    rw [compare_keys _ _ (seconds_number s _ first) (seconds_number t _ second), ne_eq, Int.compare_eq_gt, not_lt]
    exact Binary64.whole_key_mono le small

theorem age_cells_ordered {s₁ s₂ : ℤ} (past : 0 ≤ s₁) (le : s₁ ≤ s₂) (small : s₂ < 2 ^ 53) : ∃ t₁ t₂ : ℕ,
    seconds? (describe s₁) = some (ofInt t₁) ∧ seconds? (describe s₂) = some (ofInt t₂) ∧
      t₁ ≤ t₂ ∧ t₁ ≤ s₁ ∧ t₂ ≤ s₂ ∧ ∀ o : CellOrder, o.compare (describe s₁) (describe s₂) ≠ .gt := by
  have least := Elapsed.shown_le s₁.toNat
  have least' := Elapsed.shown_le s₂.toNat
  have ordered : Elapsed.shown s₁.toNat ≤ Elapsed.shown s₂.toNat := Elapsed.shown_mono (by omega)
  have first := Elapsed.describe_read past (le.trans_lt small)
  have second := Elapsed.describe_read (past.trans le) small
  exact ⟨_, _, first, second, ordered, by omega, by omega,
    fun o => whole_times_ordered o first second ordered (by omega)⟩

theorem ten_minutes_before_eight_hours : ∃ t₁ t₂ : ℕ,
    seconds? (describe 605) = some (ofInt t₁) ∧ seconds? (describe 28859) = some (ofInt t₂) ∧
      t₁ ≤ t₂ ∧ (t₁ : ℤ) ≤ 605 ∧ (t₂ : ℤ) ≤ 28859 ∧ ∀ o : CellOrder, o.compare (describe 605) (describe 28859) ≠ .gt :=
  age_cells_ordered (by decide) (by decide) (by decide)

end CellOrder

end LiveTable
