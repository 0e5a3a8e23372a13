import LiveTable.Proofs.NaturalOrder
import LiveTable.Proofs.UnsignedNumber
import LiveTable.Table.RowEvents

namespace LiveTable

namespace CellOrder

open Text (naturalOrder)

theorem compare_numbers_swap (x y : Float) : compareNumbers y x = (compareNumbers x y).swap := by
  simp only [compareNumbers, Binary64.compare?, Bool.or_comm (Binary64.isNaN y)]
  split
  · rfl
  · exact Std.OrientedOrd.eq_swap

theorem compare_amounts_swap (o : CellOrder) (s t : String) : o.compareAmounts t s = (o.compareAmounts s t).swap := by
  unfold compareAmounts
  cases o.amount? s <;> cases o.amount? t
  · exact Text.natural_order_swap s t
  · rfl
  · rfl
  · exact compare_numbers_swap _ _

def compareUntimed (o : CellOrder) (s t : String) : Ordering :=
  if o.number || o.capacity then o.compareAmounts (withoutCommas s) (withoutCommas t) else naturalOrder s t

theorem compare_untimed_swap (o : CellOrder) (s t : String) : o.compareUntimed t s = (o.compareUntimed s t).swap := by
  unfold compareUntimed
  split
  · exact compare_amounts_swap o _ _
  · exact Text.natural_order_swap s t

theorem compare_same (o : CellOrder) (s : String) : o.compare s s = .eq := if_pos rfl

theorem compare_swap (o : CellOrder) (s t : String) : o.compare t s = (o.compare s t).swap := by
  by_cases same : s = t
  · rw [same, compare_same]
    rfl
  · rw [compare, if_neg (Ne.symm same), compare, if_neg same]
    cases o.duration <;> cases Elapsed.seconds? s <;> cases Elapsed.seconds? t
    case true.none.none => exact Text.natural_order_swap s t
    case false.some.some | true.none.some | true.some.none | true.some.some => exact compare_numbers_swap _ _
    all_goals exact compare_untimed_swap o s t

theorem precedes_then (o : CellOrder) (id₁ id₂ s t : String) :
    o.precedes id₁ id₂ s t = ((o.compare s t).then (naturalOrder id₁ id₂) == .lt) := by
  unfold precedes
  cases o.compare s t <;> rfl

theorem trans_along {α β : Type} (f : α → β) (order : β → β → Ordering) [Std.TransCmp order] :
    Std.TransCmp fun a b => order (f a) (f b) where
  eq_swap := Std.OrientedCmp.eq_swap
  isLE_trans := Std.TransCmp.isLE_trans

def byReading (read : String → Option Int) (s t : String) : Ordering :=
  match read s, read t with
  | some x, some y => Ord.compare x y
  | some _, none => .lt
  | none, some _ => .gt
  | none, none => naturalOrder s t

instance (read : String → Option Int) : Std.OrientedCmp (byReading read) where
  eq_swap {s t} := by
    cases left : read s <;> cases right : read t <;> simp only [byReading, left, right]
    · exact Text.natural_order_swap t s
    · rfl
    · rfl
    · exact Std.OrientedOrd.eq_swap

instance (read : String → Option Int) : Std.TransCmp (byReading read) where
  isLE_trans {s t u} before after := by
    cases first : read s <;> cases second : read t <;> cases third : read u <;>
      simp only [byReading, first, second, third] at before after ⊢
    case none.none.none => exact Std.TransCmp.isLE_trans before after
    case some.some.some => exact Std.TransOrd.isLE_trans before after
    all_goals first | rfl | contradiction

def isTime (s : String) : Bool := (Elapsed.seconds? s).isSome

def seconds (s : String) : Option Int := (Elapsed.seconds? s).map Binary64.key

def amount (o : CellOrder) (s : String) : Option Int := (o.amount? s).map Binary64.key

def AtMostOne (cells : List String) (p : String → Bool) : Prop :=
  ∀ s ∈ cells, ∀ t ∈ cells, p s = true → p t = true → s = t

instance (cells : List String) (p : String → Bool) : Decidable (AtMostOne cells p) :=
  inferInstanceAs (Decidable (∀ s ∈ cells, ∀ t ∈ cells, p s = true → p t = true → s = t))

-- All are times; or they stand in a column of times, and either none of these is infinite or no two cells
-- are without one; or they stand elsewhere with one time at most, and none reads as NaN.
inductive Alike (o : CellOrder) (cells : List String) : Prop
  | times (times : ∀ s ∈ cells, isTime s = true)
  | finiteTimes (duration : o.duration = true)
      (finite : ∀ s ∈ cells, ∀ x, Elapsed.seconds? s = some x → Binary64.isFinite x = true)
  | timesButOne (duration : o.duration = true) (single : AtMostOne cells fun s => !isTime s)
  | untimed (duration : o.duration = false) (single : AtMostOne cells isTime)
      (numbers : o.number = true → o.capacity = false →
        ∀ s ∈ cells, ∀ x, o.amount? (withoutCommas s) = some x → Binary64.isNaN x = false)

theorem compare_keys (x y : Float) (left : Binary64.isNaN x = false) (right : Binary64.isNaN y = false) :
    compareNumbers x y = Ord.compare (Binary64.key x) (Binary64.key y) := by
  simp [compareNumbers, Binary64.compare?, left, right]

theorem seconds_number (s : String) (x : Float) (read : Elapsed.seconds? s = some x) : Binary64.isNaN x = false :=
  Binary64.unsigned_number x (Elapsed.seconds_unsigned s x read)

theorem finite_below (x : Float) (finite : Binary64.isFinite x = true) :
    Binary64.key x < Binary64.key infinity := by
  have top : Binary64.key infinity = 0x7ff0000000000000 := by decide +kernel
  simp only [Binary64.isFinite, Binary64.exponentField, bne_iff_ne] at finite
  have bits := x.toBits.toNat_lt
  rw [top, Binary64.key]
  simp only [Nat.pow_eq] at finite ⊢
  split <;> omega

def secondsOr (s : String) : Int := Binary64.key ((Elapsed.seconds? s).getD infinity)

theorem compare_in_times (o : CellOrder) (s t : String) (duration : o.duration = true) (different : s ≠ t)
    (time : isTime s = true ∨ isTime t = true) : o.compare s t = Ord.compare (secondsOr s) (secondsOr t) := by
  have number (r : String) : Binary64.isNaN ((Elapsed.seconds? r).getD infinity) = false := by
    cases read : Elapsed.seconds? r with
    | none => decide +kernel
    | some x => exact seconds_number r x read
  rw [secondsOr, secondsOr, ← compare_keys _ _ (number s) (number t), compare, if_neg different, duration]
  cases first : Elapsed.seconds? s <;> cases second : Elapsed.seconds? t
  case none.none => simp [isTime, first, second] at time
  all_goals rfl

section

variable (o : CellOrder) (cells : List String)

def Ranked : Prop :=
  ∃ order : String → String → Ordering, Std.TransCmp order ∧ ∀ s ∈ cells, ∀ t ∈ cells, o.compare s t = order s t

theorem ranked_by (order : String → String → Ordering) [Std.TransCmp order]
    (agree : ∀ s ∈ cells, ∀ t ∈ cells, s ≠ t → o.compare s t = order s t) : o.Ranked cells := by
  refine ⟨order, inferInstance, fun s left t right => ?_⟩
  by_cases same : s = t
  · have even : order t t = .eq := Std.ReflCmp.compare_self
    rw [same, compare_same, even]
  · exact agree s left t right same

theorem times_ranked (times : ∀ s ∈ cells, isTime s = true) : o.Ranked cells := by
  refine ranked_by o cells (byReading seconds) fun s left t right different => ?_
  obtain ⟨x, first⟩ := Option.isSome_iff_exists.mp (times s left)
  obtain ⟨y, second⟩ := Option.isSome_iff_exists.mp (times t right)
  rw [compare, if_neg different]
  simp only [first, second, byReading, seconds, Option.map_some]
  exact compare_keys x y (seconds_number s x first) (seconds_number t y second)

theorem finite_times_ranked (duration : o.duration = true)
    (finite : ∀ s ∈ cells, ∀ x, Elapsed.seconds? s = some x → Binary64.isFinite x = true) : o.Ranked cells := by
  refine ranked_by o cells (byReading seconds) fun s left t right different => ?_
  by_cases time : isTime s = true ∨ isTime t = true
  · rw [compare_in_times o s t duration different time]
    cases first : Elapsed.seconds? s with
    | none =>
        cases second : Elapsed.seconds? t with
        | none => simp [isTime, first, second] at time
        | some y =>
            have below := finite_below y (finite t right y second)
            simpa [secondsOr, byReading, seconds, first, second, Int.compare_eq_gt] using below
    | some x =>
        cases second : Elapsed.seconds? t with
        | none =>
            have below := finite_below x (finite s left x first)
            simpa [secondsOr, byReading, seconds, first, second, Int.compare_eq_lt] using below
        | some y => simp [secondsOr, byReading, seconds, first, second]
  · simp only [isTime, not_or, Option.not_isSome_iff_eq_none] at time
    rw [compare, if_neg different, duration]
    simp only [time, byReading, seconds, Option.map_none]

theorem times_but_one_ranked (duration : o.duration = true) (single : AtMostOne cells fun s => !isTime s) :
    o.Ranked cells := by
  refine ranked_by o cells (compareOn secondsOr) fun s left t right different => ?_
  refine compare_in_times o s t duration different ?_
  by_contra untimed
  simp only [not_or, Bool.not_eq_true] at untimed
  exact different (single s left t right (by simp [untimed]) (by simp [untimed]))

theorem compare_amounts_read (s t : String)
    (left : ∀ x, o.amount? s = some x → Binary64.isNaN x = false)
    (right : ∀ x, o.amount? t = some x → Binary64.isNaN x = false) :
    o.compareAmounts s t = byReading o.amount s t := by
  cases first : o.amount? s <;> cases second : o.amount? t <;>
    simp only [compareAmounts, byReading, amount, first, second, Option.map_none, Option.map_some]
  rename_i x y
  exact compare_keys x y (left x first) (right y second)

theorem quantity_number (s : String) (x : Float) (read : Quantity.parse? s = some x) : Binary64.isNaN x = false := by
  unfold Quantity.parse? at read
  dsimp only at read
  split at read
  · cases read
  split at read
  · cases read
  split at read
  · rename_i finite
    cases read
    exact Binary64.finite_number _ (Bool.and_eq_true_iff.mp finite).1
  · cases read

theorem untimed_ranked (duration : o.duration = false) (single : AtMostOne cells isTime)
    (numbers : o.number = true → o.capacity = false →
      ∀ s ∈ cells, ∀ x, o.amount? (withoutCommas s) = some x → Binary64.isNaN x = false) : o.Ranked cells := by
  have untimed (s t : String) (left : s ∈ cells) (right : t ∈ cells) (different : s ≠ t) :
      o.compare s t = o.compareUntimed s t := by
    rw [compare, if_neg different, duration]
    cases first : Elapsed.seconds? s <;> cases second : Elapsed.seconds? t
    case some.some =>
      exact absurd (single s left t right (by simp [isTime, first]) (by simp [isTime, second])) different
    all_goals rfl
  by_cases amounts : (o.number || o.capacity) = true
  · have order := trans_along withoutCommas (byReading o.amount)
    have number (s : String) (given : s ∈ cells) (x : Float) (read : o.amount? (withoutCommas s) = some x) :
        Binary64.isNaN x = false := by
      cases capacity : o.capacity with
      | false => exact numbers (by simpa [capacity] using amounts) capacity s given x read
      | true => exact quantity_number _ x (by simpa only [amount?, capacity, if_true] using read)
    refine ranked_by o cells (fun s t => byReading o.amount (withoutCommas s) (withoutCommas t))
      fun s left t right different => ?_
    rw [untimed s t left right different, compareUntimed, if_pos amounts]
    exact compare_amounts_read o _ _ (number s left) (number t right)
  · refine ranked_by o cells naturalOrder fun s left t right different => ?_
    rw [untimed s t left right different, compareUntimed, if_neg amounts]

theorem alike_ranked (alike : o.Alike cells) : o.Ranked cells := by
  cases alike with
  | times times => exact times_ranked o cells times
  | finiteTimes duration finite => exact finite_times_ranked o cells duration finite
  | timesButOne duration single => exact times_but_one_ranked o cells duration single
  | untimed duration single numbers => exact untimed_ranked o cells duration single numbers

end

end CellOrder

end LiveTable
