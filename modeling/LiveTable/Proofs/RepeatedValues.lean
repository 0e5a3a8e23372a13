import LiveTable.Proofs.ValueSorting
import Mathlib.Data.List.Destutter

namespace LiveTable

section

variable {α : Type} (same : α → α → Prop)

-- Between two that are the same there are only more of them.
def Grouped (items : List α) : Prop := ∀ a b c, [a, b, c].Sublist items → same a c → same a b

theorem grouped_cons (first : α) (rest : List α) :
    Grouped same (first :: rest) ↔
      Grouped same rest ∧ ∀ b c, [b, c].Sublist rest → same first c → same first b := by
  constructor
  · intro grouped
    exact ⟨fun a b c within => grouped a b c (within.cons first),
      fun b c within => grouped first b c (within.cons_cons first)⟩
  · rintro ⟨grouped, behind⟩ a b c within
    rcases List.sublist_cons_iff.mp within with later | ⟨others, split, later⟩
    · exact grouped a b c later
    · obtain ⟨rfl, rfl⟩ := List.cons.inj split
      exact behind b c later

variable (same_symm : ∀ a b, same a b → same b a) (same_trans : ∀ a b c, same a b → same b c → same a c)

theorem grouped_apart (first next : α) (rest : List α) (apart : ¬same first next) :
    Grouped same (first :: next :: rest) ↔
      Grouped same (next :: rest) ∧ ∀ z ∈ next :: rest, ¬same first z := by
  rw [grouped_cons same first]
  refine and_congr_right fun _ => ⟨fun behind z member again => ?_, fun none b c within again => ?_⟩
  · rcases List.mem_cons.mp member with rfl | later
    · exact apart again
    · exact apart (behind next z ((List.singleton_sublist.mpr later).cons_cons next) again)
  · exact absurd again (none c (within.subset (by simp)))

include same_symm same_trans

theorem grouped_repeated (first next : α) (rest : List α) (repeated : same first next) :
    Grouped same (first :: next :: rest) ↔ Grouped same (first :: rest) := by
  constructor
  · exact fun grouped a b c within => grouped a b c (within.trans ((List.sublist_cons_self next rest).cons_cons first))
  · intro grouped
    obtain ⟨later, behind⟩ := (grouped_cons same first rest).mp grouped
    refine (grouped_cons same _ _).mpr ⟨(grouped_cons same _ _).mpr ⟨later, fun b c within alike => ?_⟩,
      fun b c within alike => ?_⟩
    · have known := behind b c within (same_trans _ _ _ repeated alike)
      exact same_trans _ _ _ (same_symm _ _ repeated) known
    · rcases List.sublist_cons_iff.mp within with passed | ⟨others, split, _⟩
      · exact behind b c passed alike
      · obtain ⟨rfl, _⟩ := List.cons.inj split
        exact repeated

variable [DecidableRel same]

omit same_symm same_trans in
theorem destutter_represents (first : α) (rest : List α) (v : α) (member : v ∈ first :: rest) :
    ∃ w ∈ rest.destutter' (¬same · ·) first, w = v ∨ same w v := by
  induction rest generalizing first with
  | nil => exact ⟨v, member, .inl rfl⟩
  | cons next rest ih =>
      by_cases repeated : same first next
      · rw [List.destutter'_cons_neg _ (not_not.mpr repeated)]
        rcases List.mem_cons.mp member with rfl | behind
        · exact ⟨v, List.mem_destutter' _ _ _, .inl rfl⟩
        · rcases List.mem_cons.mp behind with rfl | later
          · exact ⟨first, List.mem_destutter' _ _ _, .inr repeated⟩
          · exact ih first (List.mem_cons_of_mem _ later)
      · rw [List.destutter'_cons_pos _ repeated]
        rcases List.mem_cons.mp member with rfl | behind
        · exact ⟨v, List.mem_cons_self, .inl rfl⟩
        · obtain ⟨w, kept, alike⟩ := ih next behind
          exact ⟨w, List.mem_cons_of_mem _ kept, alike⟩

theorem destutter_distinct_iff (first : α) (rest : List α) :
    (rest.destutter' (¬same · ·) first).Pairwise (¬same · ·) ↔ Grouped same (first :: rest) := by
  induction rest generalizing first with
  | nil =>
      refine ⟨fun _ a b c within => ?_, fun _ => List.pairwise_singleton _ _⟩
      simpa using within.length_le
  | cons next rest ih =>
      by_cases repeated : same first next
      · rw [List.destutter'_cons_neg _ (not_not.mpr repeated), ih,
          grouped_repeated same same_symm same_trans _ _ _ repeated]
      · rw [List.destutter'_cons_pos _ repeated, List.pairwise_cons, ih, grouped_apart same _ _ _ repeated, and_comm]
        refine and_congr_right fun _ => ⟨fun apart z member again => ?_, fun apart z kept => ?_⟩
        · obtain ⟨w, kept, rfl | alike⟩ := destutter_represents same next rest z member
          · exact apart w kept again
          · exact apart w kept (same_trans _ _ _ again (same_symm _ _ alike))
        · exact apart z ((List.destutter'_sublist _ _ _).subset kept)

end

namespace Number

theorem same_floats (x y : Float) :
    (float x).same (float y) = true ↔
      Binary64.isNaN x = false ∧ Binary64.isNaN y = false ∧ Binary64.key x = Binary64.key y := by
  rw [same, Binary64.compare?]
  cases Binary64.isNaN x <;> cases Binary64.isNaN y <;> simp

theorem same_symm (m n : Number) (alike : m.same n = true) : n.same m = true := by
  cases m with
  | int a =>
      cases n with
      | int b => exact beq_iff_eq.mpr (beq_iff_eq.mp alike).symm
      | float y => cases alike
  | float x =>
      cases n with
      | int b => cases alike
      | float y =>
          rw [same_floats] at alike ⊢
          exact ⟨alike.2.1, alike.1, alike.2.2.symm⟩

theorem same_trans (l m n : Number) (first : l.same m = true) (second : m.same n = true) : l.same n = true := by
  cases l with
  | int a =>
      cases m with
      | int b => rwa [beq_iff_eq.mp first]
      | float y => cases first
  | float x =>
      cases m with
      | int b => cases first
      | float y =>
          cases n with
          | int c => cases second
          | float z =>
              rw [same_floats] at first second ⊢
              exact ⟨first.1, second.2.1, first.2.2.trans second.2.2⟩

theorem same_key (m n : Number) (alike : m.same n = true) :
    Binary64.key m.toFloat = Binary64.key n.toFloat := by
  cases m with
  | int a =>
      cases n with
      | int b => rw [beq_iff_eq.mp alike]
      | float y => cases alike
  | float x =>
      cases n with
      | int b => cases alike
      | float y => exact ((same_floats x y).mp alike).2.2

end Number

namespace Json

theorem same_alike {a b : Json} (agree : a.same b = true) : Alike a b := by
  cases a with
  | bool p =>
      cases b with
      | bool q => exact beq_iff_eq.mp agree ▸ .bool p
      | _ => cases agree
  | _ => cases b <;> first | constructor | cases agree

mutual

theorem same_symm (a b : Json) (agree : a.same b = true) : b.same a = true := by
  have alike := same_alike agree
  cases a with
  | null | bool p =>
      cases alike
      exact agree
  | number m =>
      cases alike
      exact Number.same_symm _ _ agree
  | string s =>
      cases alike
      exact beq_iff_eq.mpr (beq_iff_eq.mp agree).symm
  | array as =>
      cases alike with
      | array _ bs => exact same_items_symm as bs agree
  | object as =>
      cases alike with
      | object _ bs => exact same_members_symm as bs agree
termination_by structural a

theorem same_items_symm (as bs : List Json) (agree : sameItems as bs = true) : sameItems bs as = true := by
  cases as with
  | nil => cases bs <;> first | rfl | cases agree
  | cons a as =>
      cases bs with
      | nil => cases agree
      | cons b bs =>
          obtain ⟨first, rest⟩ := Bool.and_eq_true_iff.mp agree
          exact Bool.and_eq_true_iff.mpr ⟨same_symm a b first, same_items_symm as bs rest⟩
termination_by structural as

theorem same_members_symm (as bs : List (String × Json)) (agree : sameMembers as bs = true) :
    sameMembers bs as = true := by
  cases as with
  | nil => cases bs <;> first | rfl | cases agree
  | cons a as =>
      cases bs with
      | nil => cases agree
      | cons b bs =>
          simp only [sameMembers, Bool.and_eq_true, beq_iff_eq] at agree ⊢
          exact ⟨⟨agree.1.1.symm, same_symm a.2 b.2 agree.1.2⟩, same_members_symm as bs agree.2⟩
termination_by structural as

end

mutual

theorem same_trans (a b c : Json) (first : a.same b = true) (second : b.same c = true) : a.same c = true := by
  have left := same_alike first
  have right := same_alike second
  cases a with
  | null | bool p =>
      cases left
      exact second
  | number l =>
      cases left
      cases right
      exact Number.same_trans _ _ _ first second
  | string s =>
      cases left
      exact beq_iff_eq.mp first ▸ second
  | array as =>
      cases left with
      | array _ bs =>
          cases right with
          | array _ cs => exact same_items_trans as bs cs first second
  | object as =>
      cases left with
      | object _ bs =>
          cases right with
          | object _ cs => exact same_members_trans as bs cs first second
termination_by structural a

theorem same_items_trans (as bs cs : List Json) (first : sameItems as bs = true) (second : sameItems bs cs = true) :
    sameItems as cs = true := by
  cases as with
  | nil =>
      cases bs with
      | nil => exact second
      | cons b bs => cases first
  | cons a as =>
      cases bs with
      | nil => cases first
      | cons b bs =>
          cases cs with
          | nil => cases second
          | cons c cs =>
              obtain ⟨left, lefts⟩ := Bool.and_eq_true_iff.mp first
              obtain ⟨right, rights⟩ := Bool.and_eq_true_iff.mp second
              exact Bool.and_eq_true_iff.mpr ⟨same_trans a b c left right, same_items_trans as bs cs lefts rights⟩
termination_by structural as

theorem same_members_trans (as bs cs : List (String × Json)) (first : sameMembers as bs = true)
    (second : sameMembers bs cs = true) : sameMembers as cs = true := by
  cases as with
  | nil =>
      cases bs with
      | nil => exact second
      | cons b bs => cases first
  | cons a as =>
      cases bs with
      | nil => cases first
      | cons b bs =>
          cases cs with
          | nil => cases second
          | cons c cs =>
              simp only [sameMembers, Bool.and_eq_true, beq_iff_eq] at first second ⊢
              exact ⟨⟨first.1.1.trans second.1.1, same_trans a.2 b.2 c.2 first.1.2 second.1.2⟩,
                same_members_trans as bs cs first.2 second.2⟩
termination_by structural as

end

mutual

-- What is the same compares as even; the converse fails for a number as a whole one and as a double.
theorem same_even (a b : Json) (agree : a.same b = true) : order a b = .eq := by
  have alike := same_alike agree
  cases a with
  | null | bool p =>
      cases alike
      exact order_self _
  | number m =>
      cases alike
      rw [order, Number.same_key _ _ agree]
      exact Std.ReflCmp.compare_self
  | string s =>
      cases alike
      exact beq_iff_eq.mp agree ▸ order_self (string s)
  | array as =>
      cases alike with
      | array _ bs => exact same_items_even as bs agree
  | object as =>
      cases alike with
      | object _ bs =>
          obtain ⟨keys, values⟩ := same_members_even as bs agree
          rw [order, keys, values]
          rfl
termination_by structural a

theorem same_items_even (as bs : List Json) (agree : sameItems as bs = true) : orderItems as bs = .eq := by
  cases as with
  | nil => cases bs <;> first | rfl | cases agree
  | cons a as =>
      cases bs with
      | nil => cases agree
      | cons b bs =>
          obtain ⟨first, rest⟩ := Bool.and_eq_true_iff.mp agree
          rw [orderItems, same_even a b first, same_items_even as bs rest]
          rfl
termination_by structural as

theorem same_members_even (as bs : List (String × Json)) (agree : sameMembers as bs = true) :
    compareKeys as bs = .eq ∧ orderValues as bs = .eq := by
  cases as with
  | nil => cases bs <;> first | exact ⟨rfl, rfl⟩ | cases agree
  | cons a as =>
      cases bs with
      | nil => cases agree
      | cons b bs =>
          simp only [sameMembers, Bool.and_eq_true, beq_iff_eq] at agree
          obtain ⟨keys, values⟩ := same_members_even as bs agree.2
          rw [compareKeys, orderValues, keys, values, agree.1.1, same_even a.2 b.2 agree.1.2]
          simp
termination_by structural as

end

theorem even_between (a b c : Json) (before : order a b ≠ .gt) (after : order b c ≠ .gt) (even : order a c = .eq) :
    order a b = .eq := by
  cases compared : order a b with
  | eq => rfl
  | gt => exact absurd compared before
  | lt =>
      have less : order a c = .lt := Std.TransCmp.lt_of_lt_of_isLE compared (Ordering.isLE_iff_ne_gt.mpr after)
      rw [even] at less
      cases less

-- Sorting keeps even values in their order, so it parts two that are the same just where another that is even with
-- them has stood between.
theorem sorted_grouped (items : List Json) :
    Grouped (fun v w => v.same w = true) (sorted items) ↔
      ∀ a b c, [a, b, c].Sublist items → order a b = .eq → a.same c = true → a.same b = true := by
  -- Three values that are even stand in a list as they do among all that are even with them.
  have picked (a b c : Json) (middle : order a b = .eq) (last : order a c = .eq) (values : List Json)
      (within : [a, b, c].Sublist values) : [a, b, c].Sublist (values.filter (order a · == .eq)) := by
    have kept : [a, b, c].filter (order a · == .eq) = [a, b, c] := by simp [order_self, middle, last]
    exact kept ▸ within.filter _
  constructor
  · intro grouped a b c within middle again
    have among := picked a b c middle (same_even a c again) items within
    rw [← sorted_stable] at among
    exact grouped a b c (among.trans List.filter_sublist) again
  · intro between a b c within again
    have placed := (sorted_ordered items).sublist within
    simp only [List.pairwise_cons, List.mem_cons, List.not_mem_nil, or_false, forall_eq_or_imp, forall_eq] at placed
    have middle := even_between a b c placed.1.1 placed.2.1 (same_even a c again)
    have among := picked a b c middle (same_even a c again) _ within
    rw [sorted_stable] at among
    exact between a b c (among.trans List.filter_sublist) middle again

end Json

namespace Filter

theorem drop_repeats_destutter (items : List Json) :
    dropRepeats items = items.destutter (¬Json.same · · = true) := by
  have after (last : Json) (rest : List Json) :
      last :: dropRepeatsAfter last rest = rest.destutter' (¬Json.same · · = true) last := by
    induction rest generalizing last with
    | nil => rfl
    | cons v rest ih =>
        rw [dropRepeatsAfter]
        split
        · rename_i repeated
          rw [List.destutter'_cons_neg _ (not_not.mpr repeated), ih]
        · rename_i apart
          rw [List.destutter'_cons_pos _ apart, ih]
  cases items with
  | nil => rfl
  | cons v rest => exact after v rest

theorem evaluate_unique (items : List Json) :
    evaluate (.call .unique []) (.array items) = .ok [.array (dropRepeats (Json.sorted items))] := by
  rw [evaluate, run]
  rfl

theorem drop_repeats_represents (items : List Json) (v : Json) (member : v ∈ items) :
    ∃ w ∈ dropRepeats items, w = v ∨ w.same v = true := by
  rw [drop_repeats_destutter]
  cases items with
  | nil => cases member
  | cons first rest => exact destutter_represents (fun v w => v.same w = true) first rest v member

theorem drop_repeats_distinct_iff (items : List Json) :
    (dropRepeats items).Pairwise (fun v w => v.same w = false) ↔ Grouped (fun v w => v.same w = true) items := by
  simp only [← Bool.not_eq_true]
  rw [drop_repeats_destutter]
  cases items with
  | nil => simp [Grouped]
  | cons first rest =>
      exact destutter_distinct_iff (fun v w => v.same w = true) Json.same_symm Json.same_trans first rest

/-- Dropping the repeats of an array gives values of the array, and each of its values or one that is the same. No
two neighbours in it are the same. No two values at all are the same exactly when, between two values of the array
that are the same, there is never one that is even with them and yet another. -/
theorem unique_distinct_iff (items : List Json) :
    ∃ result, evaluate (.call .unique []) (.array items) = .ok [.array result] ∧
      (∀ v ∈ result, v ∈ items) ∧
      (∀ v ∈ items, ∃ w ∈ result, w = v ∨ w.same v = true) ∧
      result.IsChain (fun v w => ¬v.same w = true) ∧
      (result.Pairwise (fun v w => v.same w = false) ↔
        ∀ a b c, [a, b, c].Sublist items → Json.order a b = .eq → a.same c = true → a.same b = true) := by
  refine ⟨_, evaluate_unique items, fun v kept => ?_, fun v member => ?_, ?_, ?_⟩
  · rw [drop_repeats_destutter] at kept
    exact (Json.sorted_perm items).mem_iff.mp ((List.destutter_sublist _ _).subset kept)
  · exact drop_repeats_represents _ v ((Json.sorted_perm items).mem_iff.mpr member)
  · rw [drop_repeats_destutter]
    exact List.isChain_destutter _ _
  · rw [drop_repeats_distinct_iff, Json.sorted_grouped]

def wholeOne : Json := .number (.int 1)

def doubleOne : Json := .number (.float (Binary64.ofInt 1))

theorem unique_leaves_repeat :
    wholeOne.same wholeOne = true ∧
      evaluate (.call .unique []) (.array [wholeOne, doubleOne, wholeOne]) =
        .ok [.array [wholeOne, doubleOne, wholeOne]] := by
  have even : Json.order wholeOne doubleOne = .eq ∧ Json.order doubleOne wholeOne = .eq := by decide +kernel
  have sorted : Json.sorted [wholeOne, doubleOne, wholeOne] = [wholeOne, doubleOne, wholeOne] := by
    refine List.mergeSort_of_pairwise ?_
    simp [even, Json.order_self]
  refine ⟨rfl, ?_⟩
  rw [evaluate_unique, sorted]
  rfl

end Filter

end LiveTable
