import Mathlib.Data.List.Basic
import LiveTable.Proofs.SortedMembers

namespace LiveTable.Sorting

variable {α : Type} (less : α → α → Bool) (key : α → Int)

-- On these members the comparison is that of their keys.
def Keyed (v : List α) : Prop := ∀ a ∈ v, ∀ b ∈ v, less a b = decide (key a < key b)

def Ascending (v : List α) : Prop := v.Pairwise fun a b => key a ≤ key b

variable {less key}

theorem Keyed.within {v : List α} (keyed : Keyed less key v) (w : List α) (members : ∀ a ∈ w, a ∈ v) :
    Keyed less key w :=
  fun a first b second => keyed a (members a first) b (members b second)

theorem Keyed.front {v w : List α} (keyed : Keyed less key (v ++ w)) : Keyed less key v :=
  keyed.within v fun _ => List.mem_append_left w

theorem Keyed.back {v w : List α} (keyed : Keyed less key (v ++ w)) : Keyed less key w :=
  keyed.within w fun _ => List.mem_append_right v

theorem Keyed.flipped {v : List α} (keyed : Keyed less key v) :
    Keyed (fun r l => less l r) (fun a => -key a) v.reverse := by
  intro a first b second
  dsimp only
  rw [keyed b (List.mem_reverse.mp second) a (List.mem_reverse.mp first), decide_eq_decide]
  exact Int.neg_lt_neg_iff.symm

theorem Keyed.below {v : List α} (keyed : Keyed less key v) (pivot : α) (held : pivot ∈ v) (a : α)
    (known : a ∈ v.filter (less · pivot)) : key a < key pivot := by
  obtain ⟨member, below⟩ := List.mem_filter.mp known
  rwa [keyed a member pivot held, decide_eq_true_iff] at below

theorem Keyed.not_below {v : List α} (keyed : Keyed less key v) (pivot : α) (held : pivot ∈ v) (a : α)
    (known : a ∈ v.filter fun a => !less a pivot) : key pivot ≤ key a := by
  obtain ⟨member, above⟩ := List.mem_filter.mp known
  rw [keyed a member pivot held, ← decide_not, decide_eq_true_iff] at above
  exact Int.not_lt.mp above

theorem Keyed.not_above {v : List α} (keyed : Keyed less key v) (pivot : α) (held : pivot ∈ v) (a : α)
    (known : a ∈ v.filter fun a => !less pivot a) : key a ≤ key pivot := by
  obtain ⟨member, level⟩ := List.mem_filter.mp known
  rw [keyed pivot held a member, ← decide_not, decide_eq_true_iff] at level
  exact Int.not_lt.mp level

theorem short_ascending (v : List α) (short : ∀ a b rest, v ≠ a :: b :: rest) : Ascending key v := by
  cases v with
  | nil => exact List.Pairwise.nil
  | cons a v =>
      cases v with
      | nil => exact List.pairwise_singleton _ a
      | cons b v => exact absurd rfl (short a b v)

theorem Ascending.flipped {v : List α} (sorted : Ascending key v) : Ascending (fun a => -key a) v.reverse :=
  List.pairwise_reverse.mpr (sorted.imp Int.neg_le_neg)

theorem Ascending.restored {v : List α} (sorted : Ascending (fun a => -key a) v) : Ascending key v.reverse :=
  List.pairwise_reverse.mpr (sorted.imp Int.le_of_neg_le_neg)

theorem sink_ascending (x : α) (before : List α) (keyed : Keyed less key (x :: before))
    (sorted : Ascending (fun a => -key a) before) : Ascending (fun a => -key a) (sink less x before) := by
  induction before with
  | nil => exact List.pairwise_singleton _ _
  | cons b before ih =>
      obtain ⟨ahead, tail⟩ := List.pairwise_cons.mp sorted
      have compared := keyed x (by simp) b (by simp)
      unfold sink
      split
      · rename_i sinks
        rw [compared, decide_eq_true_iff] at sinks
        refine List.pairwise_cons.mpr ⟨fun c member => ?_, ih (keyed.within _ (by simp; tauto)) tail⟩
        cases (sink_perm less x before).mem_iff.mp member with
        | head => exact Int.neg_le_neg (Int.le_of_lt sinks)
        | tail _ member => exact ahead c member
      · rename_i stays
        rw [compared, decide_eq_true_iff] at stays
        refine List.pairwise_cons.mpr ⟨fun c member => ?_, sorted⟩
        have lower := Int.neg_le_neg (Int.not_lt.mp stays)
        cases member with
        | head => exact lower
        | tail _ member => exact Int.le_trans lower (ahead c member)

theorem sink_all_ascending (rest before : List α) (keyed : Keyed less key (rest ++ before))
    (sorted : Ascending (fun a => -key a) before) :
    Ascending (fun a => -key a) (rest.foldl (fun before x => sink less x before) before) := by
  induction rest generalizing before with
  | nil => exact sorted
  | cons x rest ih =>
      refine ih _ (keyed.within _ fun a member => ?_)
        (sink_ascending x before (keyed.within _ (by simp; tauto)) sorted)
      rw [List.mem_append, (sink_perm less x before).mem_iff] at member
      simp only [List.mem_cons, List.mem_append, List.cons_append] at member ⊢
      tauto

theorem insert_all_ascending (sorted rest : List α) (keyed : Keyed less key (sorted ++ rest))
    (ordered : Ascending key sorted) : Ascending key (insertAll less sorted rest) :=
  (sink_all_ascending rest sorted.reverse (keyed.within _ (by simp; tauto)) ordered.flipped).restored

theorem insertion_sort_ascending (v : List α) (keyed : Keyed less key v) : Ascending key (insertionSort less v) :=
  insert_all_ascending [] v keyed List.Pairwise.nil

theorem merge_left_ascending (left right : List α) (keyed : Keyed less key (left ++ right))
    (first : Ascending key left) (second : Ascending key right) : Ascending key (mergeLeft less left right) := by
  have same : mergeLeft less left right = left.merge right fun a b => decide (key a ≤ key b) := by
    simpa only [List.map_id, mergeLeft] using List.map_merge (f := id) fun a onLeft b onRight => by
      rw [keyed b (by simp [onRight]) a (by simp [onLeft]), ← decide_not]
      exact decide_eq_decide.mpr Int.not_lt
  have ordered := @List.pairwise_merge α (fun a b => decide (key a ≤ key b)) (fun a b c before after => by
    simp only [decide_eq_true_iff] at before after ⊢
    omega) (fun a b => by
    simp only [Bool.or_eq_true, decide_eq_true_iff]
    omega) left right (first.imp decide_eq_true) (second.imp decide_eq_true)
  rw [same]
  exact ordered.imp of_decide_eq_true

theorem merge_right_ascending (left right : List α) (keyed : Keyed less key (left ++ right))
    (first : Ascending key left) (second : Ascending key right) : Ascending key (mergeRight less left right) := by
  have turned : Keyed (fun r l => less l r) (fun a => -key a) (right.reverse ++ left.reverse) := by
    simpa only [List.reverse_append] using keyed.flipped
  exact (merge_left_ascending _ _ turned second.flipped first.flipped).restored

-- Both runs are cut where the merged list is.
structure Splits (key : α → Int) (left right : List α) (i j : Nat) : Prop where
  left_right : ∀ a ∈ left.take i, ∀ b ∈ right.drop j, key a ≤ key b
  right_left : ∀ b ∈ right.take j, ∀ a ∈ left.drop i, key b < key a

theorem ascending_cut {v : List α} (sorted : Ascending key v) (n : Nat) (a b : α) (before : a ∈ v.take n)
    (behind : b ∈ v.drop n) : key a ≤ key b := by
  unfold Ascending at sorted
  rw [← List.take_append_drop n v] at sorted
  exact (List.pairwise_append.mp sorted).2.2 a before b behind

namespace Splits

variable {left right : List α} {i j k l : Nat}

theorem across (splits : Splits key left right i j) (first : Ascending key left) (second : Ascending key right)
    (a b : α) (before : a ∈ left.take i ++ right.take j) (behind : b ∈ left.drop i ++ right.drop j) :
    key a ≤ key b := by
  rw [List.mem_append] at before behind
  rcases before with before | before <;> rcases behind with behind | behind
  · exact ascending_cut first i a b before behind
  · exact splits.left_right a before b behind
  · exact Int.le_of_lt (splits.right_left a before b behind)
  · exact ascending_cut second j a b before behind

theorem not_crossed (splits : Splits key left right i j) (other : Splits key left right k l) (inside : i ≤ left.length)
    (within : l ≤ right.length) : ¬ (k < i ∧ j < l) := by
  rintro ⟨further, shorter⟩
  have before : left[k] ∈ left.take i := List.mem_take_iff_getElem.mpr ⟨k, by omega, rfl⟩
  have behind : right[j] ∈ right.drop j := List.mem_drop_iff_getElem.mpr ⟨0, by omega, by simp⟩
  have sooner : right[j] ∈ right.take l := List.mem_take_iff_getElem.mpr ⟨j, by omega, rfl⟩
  have later : left[k] ∈ left.drop k := List.mem_drop_iff_getElem.mpr ⟨0, by omega, by simp⟩
  have lower := splits.left_right _ before _ behind
  have upper := other.right_left _ sooner _ later
  omega

end Splits

theorem advance_within (less : α → α → Bool) (n : Nat) (left right : List α) (a : α)
    (taken : a ∈ (advance less n left right).1) : a ∈ left ∨ a ∈ right := by
  obtain ⟨i, j, _, _, _, takes⟩ := advance_members less n left right
  have member := takes.mem_iff.mp taken
  rw [List.mem_append] at member
  exact member.imp List.mem_of_mem_take List.mem_of_mem_take

theorem advance_splits (n : Nat) (left right : List α) (keyed : Keyed less key (left ++ right))
    (first : Ascending key left) (second : Ascending key right) (inside : n ≤ left.length)
    (within : n ≤ right.length) :
    ∃ i j, i + j = n ∧ (advance less n left right).2 = (left.drop i, right.drop j) ∧ Splits key left right i j ∧
      Ascending key (advance less n left right).1 := by
  fun_induction advance less n left right with
  | case1 n l left r right before taken rest step ih =>
      rw [keyed r (by simp) l (by simp), decide_eq_true_iff] at before
      obtain ⟨least, later⟩ := List.pairwise_cons.mp second
      have lower (a : α) (member : a ∈ l :: left) : key r < key a := by
        cases member with
        | head => exact before
        | tail _ member => exact Int.lt_of_lt_of_le before ((List.pairwise_cons.mp first).1 a member)
      obtain ⟨i, j, steps, leaves, splits, sorted⟩ := ih (keyed.within _ (by simp; tauto)) first later (by omega)
        (by simpa using within)
      have members := advance_within less n (l :: left) right
      rw [step] at leaves sorted members
      refine ⟨i, j + 1, by omega, by simpa using leaves, ⟨by simpa using splits.left_right, ?_⟩, ?_⟩
      · rw [List.take_succ_cons]
        rintro b (_ | ⟨_, member⟩) a behind
        · exact lower a (List.mem_of_mem_drop behind)
        · exact splits.right_left b member a behind
      · refine List.pairwise_cons.mpr ⟨fun a member => ?_, sorted⟩
        rcases members a member with onLeft | onRight
        · exact Int.le_of_lt (lower a onLeft)
        · exact least a onRight
  | case2 n l left r right before taken rest step ih =>
      rw [keyed r (by simp) l (by simp), decide_eq_true_iff, Int.not_lt] at before
      obtain ⟨least, later⟩ := List.pairwise_cons.mp first
      have lower (b : α) (member : b ∈ r :: right) : key l ≤ key b := by
        cases member with
        | head => exact before
        | tail _ member => exact Int.le_trans before ((List.pairwise_cons.mp second).1 b member)
      obtain ⟨i, j, steps, leaves, splits, sorted⟩ := ih (keyed.within _ (by simp; tauto)) later second
        (by simpa using inside) (by omega)
      have members := advance_within less n left (r :: right)
      rw [step] at leaves sorted members
      refine ⟨i + 1, j, by omega, by simpa using leaves, ⟨?_, by simpa using splits.right_left⟩, ?_⟩
      · rw [List.take_succ_cons]
        rintro a (_ | ⟨_, member⟩) b behind
        · exact lower b (List.mem_of_mem_drop behind)
        · exact splits.left_right a member b behind
      · refine List.pairwise_cons.mpr ⟨fun a member => ?_, sorted⟩
        rcases members a member with onLeft | onRight
        · exact least a onLeft
        · exact lower a onRight
  | case3 n left right beyond =>
      have done : n = 0 := by
        cases n with
        | zero => rfl
        | succ n =>
            cases left with
            | nil => simp at inside
            | cons l left =>
                cases right with
                | nil => simp at within
                | cons r right => exact absurd rfl (beyond n l left r right rfl rfl)
      subst done
      exact ⟨0, 0, rfl, rfl, ⟨by simp, by simp⟩, List.Pairwise.nil⟩

-- Where both ends of a merge come to in runs that are sorted.
structure Meeting (key : α → Int) (left right front back : List α) (i j k l : Nat) : Prop where
  front_steps : i + j = left.length
  back_steps : k + l = right.length
  front_splits : Splits key left right i j
  back_splits : Splits key left right k l
  front_sorted : Ascending key front
  back_sorted : Ascending key back

theorem Splits.flipped {left right : List α} {i j : Nat}
    (splits : Splits (fun a => -key a) right.reverse left.reverse j i) :
    Splits key left right (left.length - i) (right.length - j) where
  left_right a before b behind := by
    rw [List.mem_reverse.symm, ← List.drop_reverse] at before
    rw [List.mem_reverse.symm, ← List.take_reverse] at behind
    exact Int.le_of_neg_le_neg (splits.left_right b behind a before)
  right_left b before a behind := by
    rw [List.mem_reverse.symm, ← List.drop_reverse] at before
    rw [List.mem_reverse.symm, ← List.take_reverse] at behind
    exact Int.lt_of_neg_lt_neg (splits.right_left a behind b before)

theorem ends_meeting (left right front back : List α) (i j k l : Nat) (longer : left.length ≤ right.length)
    (keyed : Keyed less key (left ++ right)) (first : Ascending key left) (second : Ascending key right)
    (ends : Ends less left right front back i j k l) : Meeting key left right front back i j k l := by
  have turned : Keyed (fun r l => less l r) (fun a => -key a) (right.reverse ++ left.reverse) := by
    simpa only [List.reverse_append] using keyed.flipped
  have long : left.length ≤ right.reverse.length := by rwa [List.length_reverse]
  have wide : left.length ≤ left.reverse.length := Nat.le_of_eq List.length_reverse.symm
  obtain ⟨i', j', steps, leaves, splits, sorted⟩ :=
    advance_splits left.length left right keyed first second (Nat.le_refl _) longer
  obtain ⟨l', k', backSteps, keeps, backSplits, backSorted⟩ :=
    advance_splits left.length right.reverse left.reverse turned second.flipped first.flipped long wide
  rw [ends.advanced] at leaves sorted
  rw [ends.retreated, List.drop_reverse, List.drop_reverse] at keeps
  rw [ends.retreated] at backSorted
  have lengths := And.intro (congrArg (·.1.length) leaves) (congrArg (·.2.length) leaves)
  have backLengths := And.intro (congrArg (·.1.length) keeps) (congrArg (·.2.length) keeps)
  simp only [List.length_drop, List.length_take, List.length_reverse] at lengths backLengths
  have bounds := And.intro ends.front_left (And.intro ends.front_right (And.intro ends.back_left ends.back_right))
  obtain rfl : i = i' := by omega
  obtain rfl : j = j' := by omega
  obtain rfl : k = left.length - k' := by omega
  obtain rfl : l = right.length - l' := by omega
  exact ⟨steps, by omega, splits, backSplits.flipped, sorted, by simpa using backSorted.restored⟩

theorem joined_ascending {left right front back middle : List α} {i j k l : Nat} (further : i ≤ k) (wider : j ≤ l)
    (first : Ascending key left) (second : Ascending key right) (ends : Ends less left right front back i j k l)
    (meeting : Meeting key left right front back i j k l)
    (between : ∀ a ∈ middle, a ∈ left.drop i ++ right.drop j ∧ a ∈ left.take k ++ right.take l)
    (sorted : Ascending key middle) : Ascending key (front ++ middle ++ back) := by
  have lower (a : α) (before : a ∈ front) (b : α) (behind : b ∈ left.drop i ++ right.drop j) : key a ≤ key b :=
    meeting.front_splits.across first second a b (ends.before.mem_iff.mp before) behind
  refine List.pairwise_append.mpr ⟨List.pairwise_append.mpr ⟨meeting.front_sorted, sorted, fun a before b member =>
    lower a before b (between b member).1⟩, meeting.back_sorted, fun a before b behind => ?_⟩
  have later := ends.behind.mem_iff.mp behind
  rcases List.mem_append.mp before with before | member
  · refine lower a before b ?_
    rw [List.mem_append] at later ⊢
    exact later.imp (fun onLeft => List.drop_subset_drop_left left further onLeft)
      fun onRight => List.drop_subset_drop_left right wider onRight
  · exact meeting.back_splits.across first second a b (between a member).2 later

theorem merge_both_ends_ascending (left right : List α) (half : left.length = (left ++ right).length / 2)
    (keyed : Keyed less key (left ++ right)) (first : Ascending key left) (second : Ascending key right) :
    ∃ w, mergeBothEnds? less (left ++ right) = some w ∧ Ascending key w := by
  obtain ⟨front, back, i, j, k, l, ends⟩ := ends_of less left right
  have long : (left ++ right).length = left.length + right.length := List.length_append
  have meeting := ends_meeting left right front back i j k l (by omega) keyed first second ends
  have steps := meeting.front_steps
  have others := meeting.back_steps
  have apart := meeting.front_splits.not_crossed meeting.back_splits ends.front_left ends.back_right
  have behind := meeting.back_splits.not_crossed meeting.front_splits ends.back_left ends.front_right
  rw [merge_both_ends_eq less left right front back i j k l half ends]
  by_cases even : (left ++ right).length % 2 = 0
  · obtain rfl : i = k := by omega
    obtain rfl : j = l := by omega
    refine ⟨_, by rw [if_pos even, if_pos ⟨rfl, rfl⟩], ?_⟩
    have joined : Ascending key (front ++ [] ++ back) :=
      joined_ascending (Nat.le_refl i) (Nat.le_refl j) first second ends meeting (by simp) List.Pairwise.nil
    simpa using joined
  · rw [if_neg even]
    by_cases onLeft : i < k
    · obtain rfl : k = i + 1 := by omega
      obtain rfl : l = j := by omega
      refine ⟨_, by rw [if_pos onLeft, if_pos ⟨rfl, rfl⟩], ?_⟩
      refine joined_ascending (Nat.le_succ i) (Nat.le_refl l) first second ends meeting (fun a member => ?_)
        (first.sublist ((List.take_sublist 1 _).trans (List.drop_sublist i _)))
      have sooner := member
      rw [List.take_drop] at sooner
      exact ⟨List.mem_append_left _ (List.mem_of_mem_take member),
        List.mem_append_left _ (List.mem_of_mem_drop sooner)⟩
    · obtain rfl : k = i := by omega
      obtain rfl : l = j + 1 := by omega
      refine ⟨_, by rw [if_neg onLeft, if_pos ⟨rfl, rfl⟩], ?_⟩
      refine joined_ascending (Nat.le_refl k) (Nat.le_succ j) first second ends meeting (fun a member => ?_)
        (second.sublist ((List.take_sublist 1 _).trans (List.drop_sublist j _)))
      have sooner := member
      rw [List.take_drop] at sooner
      exact ⟨List.mem_append_right _ (List.mem_of_mem_take member),
        List.mem_append_right _ (List.mem_of_mem_drop sooner)⟩

theorem merge_halves_ascending (v : List α) (keyed : Keyed less key v) (first second : List α)
    (left : first.Perm (v.take (v.length / 2))) (right : second.Perm (v.drop (v.length / 2)))
    (before : Ascending key first) (behind : Ascending key second) :
    ∃ w, mergeBothEnds? less (first ++ second) = some w ∧ Ascending key w := by
  have whole := left.append right
  rw [List.take_append_drop] at whole
  refine merge_both_ends_ascending first second ?_ (keyed.within _ fun a => whole.mem_iff.mp) before behind
  rw [whole.length_eq, left.length_eq, List.length_take]
  omega

theorem four_ascending (a b c d : α) (first : key a ≤ key b) (second : key b ≤ key c) (third : key c ≤ key d) :
    Ascending key [a, b, c, d] := by
  simp [Ascending]
  omega

theorem sort_pairs_ascending (a b c d : α) (keyed : Keyed less key [a, b, c, d]) (first : key a ≤ key b)
    (second : key c ≤ key d) : Ascending key (sortFour less [a, b, c, d]) := by
  have inPlace : less b a = false ∧ less d c = false := by
    rw [keyed b (by simp) a (by simp), keyed d (by simp) c (by simp), decide_eq_false_iff_not, decide_eq_false_iff_not]
    exact ⟨Int.not_lt.mpr first, Int.not_lt.mpr second⟩
  simp only [sortFour, inPlace, Bool.false_eq_true, if_false, keyed c (by simp) a (by simp),
    keyed d (by simp) b (by simp), decide_eq_true_iff]
  by_cases lower : key c < key a <;> by_cases upper : key d < key b <;>
    simp only [lower, upper, if_true, if_false] <;> split <;> rename_i last <;>
    rw [keyed _ (by simp) _ (by simp), decide_eq_true_iff] at last <;>
    exact four_ascending _ _ _ _ (by omega) (by omega) (by omega)

theorem sort_four_ascending (v : List α) (four : v.length = 4) (keyed : Keyed less key v) :
    Ascending key (sortFour less v) := by
  match v, four with
  | [a, b, c, d], _ =>
      have front (swapped : key b < key a) : sortFour less [a, b, c, d] = sortFour less [b, a, c, d] := by
        simp only [sortFour, keyed a (by simp) b (by simp), keyed b (by simp) a (by simp), decide_eq_true_iff,
          swapped, if_true, if_neg (Int.lt_asymm swapped)]
      have back (e f : α) (swapped : key d < key c) : sortFour less [e, f, c, d] = sortFour less [e, f, d, c] := by
        simp only [sortFour, keyed c (by simp) d (by simp), keyed d (by simp) c (by simp), decide_eq_true_iff,
          swapped, if_true, if_neg (Int.lt_asymm swapped)]
      by_cases first : key b < key a <;> by_cases second : key d < key c
      · rw [front first, back b a second]
        exact sort_pairs_ascending b a d c (keyed.within _ (by simp)) (Int.le_of_lt first) (Int.le_of_lt second)
      · rw [front first]
        exact sort_pairs_ascending b a c d (keyed.within _ (by simp)) (Int.le_of_lt first) (Int.not_lt.mp second)
      · rw [back a b second]
        exact sort_pairs_ascending a b d c (keyed.within _ (by simp)) (Int.not_lt.mp first) (Int.le_of_lt second)
      · exact sort_pairs_ascending a b c d keyed (Int.not_lt.mp first) (Int.not_lt.mp second)

theorem sort_eight_ascending (v : List α) (eight : v.length = 8) (keyed : Keyed less key v) :
    ∃ w, sortEight? less v = some w ∧ Ascending key w := by
  have first := sort_four_ascending (v.take 4) (by rw [List.length_take]; omega)
    (keyed.within _ fun _ => List.mem_of_mem_take)
  have second := sort_four_ascending (v.drop 4) (by rw [List.length_drop]; omega)
    (keyed.within _ fun _ => List.mem_of_mem_drop)
  refine merge_halves_ascending v keyed _ _ ?_ ?_ first second <;> rw [eight]
  · exact sort_four_perm less _
  · exact sort_four_perm less _

theorem sort_half_ascending (size : Nat) (half : List α) (large : 16 ≤ size → 8 ≤ half.length)
    (middling : 8 ≤ size → 4 ≤ half.length) (keyed : Keyed less key half) :
    ∃ w, sortHalf? less size half = some w ∧ Ascending key w := by
  unfold sortHalf?
  split
  · rename_i enough
    obtain ⟨first, sorted, ordered⟩ := @sort_eight_ascending α less key (half.take 8)
      (by rw [List.length_take]; have := large enough; omega) (keyed.within _ fun _ => List.mem_of_mem_take)
    have members := (sort_eight_perm less _ first sorted).append_right (half.drop 8)
    rw [List.take_append_drop] at members
    exact ⟨_, by rw [sorted, Option.map_some], insert_all_ascending first (half.drop 8)
      (keyed.within _ fun a => members.mem_iff.mp) ordered⟩
  · split
    · rename_i enough
      have ordered := @sort_four_ascending α less key (half.take 4)
        (by rw [List.length_take]; have := middling enough; omega) (keyed.within _ fun _ => List.mem_of_mem_take)
      have members := (sort_four_perm less (half.take 4)).append_right (half.drop 4)
      rw [List.take_append_drop] at members
      exact ⟨_, rfl, insert_all_ascending _ (half.drop 4) (keyed.within _ fun a => members.mem_iff.mp) ordered⟩
    · exact ⟨_, rfl, insertion_sort_ascending half keyed⟩

theorem small_sort_ascending (v : List α) (keyed : Keyed less key v) :
    ∃ w, smallSort? less v = some w ∧ Ascending key w := by
  unfold smallSort?
  split
  · rename_i short
    exact ⟨v, rfl, short_ascending v (by rintro a b rest rfl; simp only [List.length_cons] at short; omega)⟩
  · obtain ⟨left, first, before⟩ := @sort_half_ascending α less key v.length (v.take (v.length / 2))
      (by rw [List.length_take]; omega) (by rw [List.length_take]; omega)
      (keyed.within _ fun _ => List.mem_of_mem_take)
    obtain ⟨right, second, behind⟩ := @sort_half_ascending α less key v.length (v.drop (v.length / 2))
      (by rw [List.length_drop]; omega) (by rw [List.length_drop]; omega)
      (keyed.within _ fun _ => List.mem_of_mem_drop)
    obtain ⟨w, merged, sorted⟩ := merge_halves_ascending v keyed left right (sort_half_perm less _ _ left first)
      (sort_half_perm less _ _ right second) before behind
    exact ⟨w, by simp only [first, second, Option.bind_eq_bind, Option.bind_some, merged], sorted⟩

theorem partition_filter (goesLeft : α → Bool) (place : Nat) (pivot : α) (v : List α)
    (held : v[place]? = some pivot) :
    partition goesLeft place (goesLeft pivot) v = (v.filter goesLeft, v.filter fun a => !goesLeft a) := by
  have same (p : α × Nat) (member : p ∈ v.zipIdx) :
      (if p.2 = place then goesLeft pivot else goesLeft p.1) = goesLeft p.1 := by
    split
    · rename_i here
      have known := List.mem_zipIdx_iff_getElem?.mp member
      rw [here, held] at known
      cases known
      rfl
    · rfl
  have kept (p : α → Bool) : (v.zipIdx.filter fun q => p q.1).map (·.1) = v.filter p := by
    have mapped := List.filter_map (f := (·.1)) (p := p) (l := v.zipIdx)
    rw [List.zipIdx_map_fst] at mapped
    exact mapped.symm
  unfold partition
  rw [List.partition_eq_filter_filter]
  refine Prod.ext ((congrArg _ (List.filter_congr same)).trans (kept goesLeft)) ?_
  exact (congrArg _ (List.filter_congr fun p member => congrArg not (same p member))).trans (kept fun a => !goesLeft a)

theorem median_cases (below : Nat → Nat → Bool) (a b c : Nat) :
    median below a b c = a ∨ median below a b c = b ∨ median below a b c = c := by
  unfold median
  split
  · split
    · exact .inr (.inl rfl)
    · exact .inr (.inr rfl)
  · exact .inl rfl

theorem pseudo_median_bound (below : Nat → Nat → Bool) (n a b c limit : Nat) (some_part : 0 < n) (first : a + n ≤ limit)
    (second : b + n ≤ limit) (third : c + n ≤ limit) : pseudoMedian below n a b c < limit := by
  induction n using Nat.strongRecOn generalizing a b c with
  | _ n ih =>
      unfold pseudoMedian
      split
      · rcases median_cases below a b c with same | same | same <;> omega
      · have inner (from_place : Nat) (within : from_place + n ≤ limit) :
            pseudoMedian below (n / 8) from_place (from_place + n / 8 * 4) (from_place + n / 8 * 7) < limit :=
          ih (n / 8) (by omega) _ _ _ (by omega) (by omega) (by omega) (by omega)
        rcases median_cases below _ _ _ with same | same | same <;> rw [same]
        · exact inner a first
        · exact inner b second
        · exact inner c third

theorem pivot_place_bound (less : α → α → Bool) (v : List α) (large : smallSize < v.length) :
    pivotPlace less v < v.length := by
  unfold smallSize at large
  unfold pivotPlace
  dsimp only
  split
  · rcases median_cases (lessAt less v) 0 (v.length / 8 * 4) (v.length / 8 * 7) with same | same | same <;> omega
  · exact pseudo_median_bound _ _ _ _ _ _ (by omega) (by omega) (by omega) (by omega)

namespace Run

def Fit (key : α → Int) : Run α → Prop
  | sorted items => Ascending key items
  | unsorted _ => True

end Run

theorem run_length_ascending (rank : α → Int) (follows : α → α → Bool) (v : List α)
    (ranked : ∀ a ∈ v, ∀ b ∈ v, follows a b = true → rank a ≤ rank b) :
    Ascending rank (v.take (runLength follows v)) := by
  fun_induction runLength follows v with
  | case1 a b rest holds ih =>
      have tail := ih fun c first d second => ranked c (by simp [first]) d (by simp [second])
      have step := ranked a (by simp) b (by simp) holds
      rw [List.take_succ_cons]
      refine List.pairwise_cons.mpr ⟨fun c member => ?_, tail⟩
      cases length : runLength follows (b :: rest) with
      | zero => simp [length] at member
      | succ n =>
          rw [length, List.take_succ_cons] at member tail
          cases member with
          | head => exact step
          | tail _ member => exact Int.le_trans step ((List.pairwise_cons.mp tail).1 c member)
  | case2 a b rest holds => exact List.pairwise_singleton _ _
  | case3 v short =>
      refine short_ascending _ fun a b rest same => ?_
      rw [List.take_length] at same
      exact short a b rest same

theorem leading_run_ascending (v : List α) (keyed : Keyed less key v) :
    Ascending key (if (leadingRun less v).2 then (v.take (leadingRun less v).1).reverse
      else v.take (leadingRun less v).1) := by
  unfold leadingRun
  split
  · rename_i a b rest
    split
    · refine Ascending.restored (run_length_ascending (fun a => -key a) _ _ fun c first d second follows => ?_)
      rw [keyed d second c first, decide_eq_true_iff] at follows
      exact Int.neg_le_neg (Int.le_of_lt follows)
    · refine run_length_ascending key _ _ fun c first d second follows => ?_
      rw [keyed d second c first, ← decide_not, decide_eq_true_iff] at follows
      exact Int.not_lt.mp follows
  · rename_i short
    refine short_ascending _ fun a b rest same => ?_
    rw [if_neg Bool.false_ne_true, List.take_length] at same
    exact short a b rest same

theorem next_run_fit (eager : Bool) (good : Nat) (v : List α) (keyed : Keyed less key v) :
    ∃ run, nextRun? less eager good v = some run ∧ run.Fit key := by
  unfold nextRun?
  dsimp only
  split
  · exact ⟨_, rfl, leading_run_ascending v keyed⟩
  · split
    · obtain ⟨w, sorted, ordered⟩ := @small_sort_ascending α less key (v.take smallSize)
        (keyed.within _ fun _ => List.mem_of_mem_take)
      exact ⟨.sorted w, by rw [sorted, Option.map_some], ordered⟩
    · exact ⟨_, rfl, trivial⟩

theorem cut_runs_fit (eager : Bool) (good n : Nat) (v : List α) (keyed : Keyed less key v) :
    ∃ runs, cutRuns? less eager good n v = some runs ∧ ∀ run ∈ runs, run.Fit key := by
  induction n generalizing v with
  | zero => cases v <;> exact ⟨[], rfl, by simp⟩
  | succ n ih =>
      cases v with
      | nil => exact ⟨[], rfl, by simp⟩
      | cons a v =>
          obtain ⟨run, found, fit⟩ := next_run_fit eager good (a :: v) keyed
          obtain ⟨rest, cut, others⟩ := ih ((a :: v).drop run.size) (keyed.within _ fun _ => List.mem_of_mem_drop)
          refine ⟨run :: rest, ?_, List.forall_mem_cons.mpr ⟨fit, others⟩⟩
          simp only [cutRuns?, found, cut, Option.bind_eq_bind, Option.bind_some, Option.pure_def]

theorem merge_runs_ascending (left right : List α) (keyed : Keyed less key (left ++ right))
    (first : Ascending key left) (second : Ascending key right) : Ascending key (mergeRuns less left right) := by
  unfold mergeRuns
  split
  · exact merge_left_ascending left right keyed first second
  · exact merge_right_ascending left right keyed first second

section

variable (quick? : List α → Option (List α)) (room : Nat) (keeps : ∀ v w, quick? v = some w → w.Perm v)
  (sorts : ∀ v, Keyed less key v → ∃ w, quick? v = some w ∧ Ascending key w)

include sorts

theorem settle_ascending (run : Run α) (keyed : Keyed less key run.items) (fit : run.Fit key) :
    ∃ w, settle? quick? run = some w ∧ Ascending key w := by
  cases run with
  | sorted items => exact ⟨items, rfl, fit⟩
  | unsorted items => exact sorts items keyed

include keeps

theorem unite_fit (left right : Run α) (keyed : Keyed less key (left.items ++ right.items)) (first : left.Fit key)
    (second : right.Fit key) : ∃ run, unite? less quick? room left right = some run ∧ run.Fit key := by
  unfold unite?
  split
  · exact ⟨_, rfl, trivial⟩
  · obtain ⟨l, before, leftSorted⟩ := settle_ascending quick? sorts left keyed.front first
    obtain ⟨r, behind, rightSorted⟩ := settle_ascending quick? sorts right keyed.back second
    have members := (settle_perm quick? keeps left l before).append (settle_perm quick? keeps right r behind)
    refine ⟨.sorted (mergeRuns less l r), ?_, merge_runs_ascending l r (keyed.within _ fun a => members.mem_iff.mp)
      leftSorted rightSorted⟩
    simp only [before, behind, Option.bind_eq_bind, Option.bind_some, Option.pure_def]

theorem climb_fit (depth : Nat) (waiting : List (Run α × Nat)) (run : Run α)
    (keyed : Keyed less key (waiting.flatMap (·.1.items) ++ run.items)) (fits : ∀ entry ∈ waiting, entry.1.Fit key)
    (fit : run.Fit key) :
    ∃ rest last, climb? less quick? room depth waiting run = some (rest, last) ∧
      (∀ entry ∈ rest, entry.1.Fit key) ∧ last.Fit key := by
  induction waiting generalizing run with
  | nil => exact ⟨[], run, rfl, fits, fit⟩
  | cons entry waiting ih =>
      obtain ⟨left, deep⟩ := entry
      obtain ⟨first, others⟩ := List.forall_mem_cons.mp fits
      unfold climb?
      split
      · obtain ⟨merged, united, good⟩ := unite_fit quick? room keeps sorts left run
          (keyed.within _ (by simp; tauto)) first fit
        have members := unite_perm less quick? room keeps left run merged united
        obtain ⟨rest, last, climbed, fitting⟩ := ih merged (keyed.within _ fun a member => by
          simp only [List.mem_append, List.flatMap_cons, members.mem_iff] at member ⊢
          tauto) others good
        exact ⟨rest, last, by simp only [united, Option.bind_eq_bind, Option.bind_some, climbed], fitting⟩
      · exact ⟨_, _, rfl, fits, fit⟩

theorem merge_tree_fit (n start : Nat) (waiting : List (Run α × Nat)) (last : Run α) (rest : List (Run α))
    (keyed : Keyed less key (waiting.flatMap (·.1.items) ++ last.items ++ rest.flatMap Run.items))
    (fits : ∀ entry ∈ waiting, entry.1.Fit key) (fit : last.Fit key) (others : ∀ run ∈ rest, run.Fit key) :
    ∃ run, mergeTree? less quick? room n start waiting last rest = some run ∧ run.Fit key := by
  induction rest generalizing start waiting last with
  | nil =>
      obtain ⟨behind, whole, climbed, _, good⟩ := climb_fit quick? room keeps sorts 0 waiting last keyed.front fits fit
      exact ⟨whole, by simp only [mergeTree?, climbed, Option.map_some], good⟩
  | cons next rest ih =>
      obtain ⟨first, later⟩ := List.forall_mem_cons.mp others
      obtain ⟨behind, merged, climbed, waits, good⟩ := climb_fit quick? room keeps sorts
        (mergeDepth n start (start + last.size) (start + last.size + next.size)) waiting last keyed.front fits fit
      have members := climb_perm less quick? room keeps _ waiting last behind merged climbed
      obtain ⟨run, done, whole⟩ := ih (start + last.size)
        ((merged, mergeDepth n start (start + last.size) (start + last.size + next.size)) :: behind) next
        (keyed.within _ fun a member => by
          have known := members.mem_iff (a := a)
          simp only [List.mem_append, List.flatMap_cons] at member known ⊢
          tauto) (List.forall_mem_cons.mpr ⟨good, waits⟩) first later
      exact ⟨run, by simp only [mergeTree?, climbed, Option.bind_eq_bind, Option.bind_some, done], whole⟩

theorem drift_ascending (eager : Bool) (v : List α) (keyed : Keyed less key v) :
    ∃ w, drift? less quick? room eager v = some w ∧ Ascending key w := by
  obtain ⟨runs, cut, fits⟩ := cut_runs_fit eager (goodRun v.length) v.length v keyed
  have members := cut_all_perm less eager v runs cut
  have within : Keyed less key (runs.flatMap Run.items) := keyed.within _ fun a => members.mem_iff.mp
  unfold drift?
  rw [cut]
  cases runs with
  | nil => exact ⟨[], rfl, List.Pairwise.nil⟩
  | cons first rest =>
      obtain ⟨good, others⟩ := List.forall_mem_cons.mp fits
      obtain ⟨run, merged, fit⟩ := merge_tree_fit quick? room keeps sorts v.length 0 [] first rest within (by simp)
        good others
      have held := merge_tree_perm less quick? room keeps _ 0 [] first rest run merged
      obtain ⟨w, settled, sorted⟩ := settle_ascending quick? sorts run
        (within.within _ fun a => held.mem_iff.mp) fit
      exact ⟨w, by simp only [Option.bind_eq_bind, Option.bind_some, merged, settled], sorted⟩

end

theorem eager_sort_ascending (room : Nat) (v : List α) (keyed : Keyed less key v) :
    ∃ w, eagerSort? less room v = some w ∧ Ascending key w :=
  drift_ascending (smallSort? less) room (small_sort_perm less) small_sort_ascending true v keyed

theorem lowest_pivot (pivot : α) (ancestor : Option α) (v : List α) (keyed : Keyed less key (ancestor.toList ++ v))
    (member : pivot ∈ v) (least : ∀ a ∈ ancestor, ∀ b ∈ v, key a ≤ key b)
    (lowest : (ancestor.any (fun a => !less a pivot) || (v.filter (less · pivot)).isEmpty) = true) (b : α)
    (known : b ∈ v) : key pivot ≤ key b := by
  rcases (Bool.or_eq_true _ _).mp lowest with above | alone
  · cases ancestor with
    | none => cases above
    | some a =>
        rw [Option.any_some, keyed a (by simp) pivot (by simp [member]), ← decide_not, decide_eq_true_iff] at above
        exact Int.le_trans (Int.not_lt.mp above) (least a rfl b known)
  · have none_below := List.filter_eq_nil_iff.mp (List.isEmpty_iff.mp alone) b known
    rw [keyed b (by simp [known]) pivot (by simp [member]), decide_eq_true_iff] at none_below
    exact Int.not_lt.mp none_below

theorem level_ahead (pivot : α) (v rest : List α) (keyed : Keyed less key v) (held : pivot ∈ v)
    (floor : ∀ b ∈ v, key pivot ≤ key b) (within : ∀ b ∈ rest, b ∈ v) (sorted : Ascending key rest) :
    Ascending key (v.filter (fun a => !less pivot a) ++ rest) := by
  have level (a : α) (known : a ∈ v.filter fun a => !less pivot a) (b : α) (other : b ∈ v) : key a ≤ key b :=
    Int.le_trans (keyed.not_above pivot held a known) (floor b other)
  refine List.pairwise_append.mpr ⟨List.pairwise_of_forall_mem_list fun a first b second => ?_, sorted,
    fun a first b second => level a first b (within b second)⟩
  exact level a first b (List.mem_of_mem_filter second)

theorem quick_sort_ascending (room limit : Nat) (ancestor : Option α) (v : List α)
    (keyed : Keyed less key (ancestor.toList ++ v)) (least : ∀ a ∈ ancestor, ∀ b ∈ v, key a ≤ key b) :
    ∃ w, quickSort? less room limit ancestor v = some w ∧ Ascending key w := by
  have inner : Keyed less key v := keyed.back
  induction limit generalizing ancestor v with
  | zero =>
      unfold quickSort?
      split
      · exact small_sort_ascending v inner
      · exact eager_sort_ascending room v inner
  | succ limit ih =>
      unfold quickSort?
      split
      · exact small_sort_ascending v inner
      · rename_i large
        have bound := pivot_place_bound less v (by omega)
        generalize placed : pivotPlace less v = place at bound
        have held : v[place]? = some v[place] := List.getElem?_eq_getElem bound
        generalize v[place] = pivot at held
        have member := List.mem_of_getElem? held
        have compared (a : α) (known : a ∈ v) : less a pivot = decide (key a < key pivot) := inner a known _ member
        have goes := partition_filter (fun a => less a pivot) place pivot v held
        rw [compared pivot member, decide_eq_false (Int.lt_irrefl _)] at goes
        have stays := partition_filter (fun a => !less pivot a) place pivot v held
        rw [compared pivot member, decide_eq_false (Int.lt_irrefl _), Bool.not_false] at stays
        simp only [held, Option.bind_eq_bind, Option.bind_some, goes, stays, Bool.not_not]
        split
        · rename_i lowest
          have floor := lowest_pivot pivot ancestor v keyed member least lowest
          obtain ⟨rest, sorted, ordered⟩ := ih none (v.filter (less pivot ·))
            (inner.within _ fun _ => List.mem_of_mem_filter) (by simp) (inner.within _ fun _ => List.mem_of_mem_filter)
          have members := quick_sort_perm less room limit none _ rest sorted
          exact ⟨_, by rw [sorted]; rfl, level_ahead pivot v rest inner member floor
            (fun a known => List.mem_of_mem_filter (members.mem_iff.mp known)) ordered⟩
        · have upper := inner.not_below pivot member
          obtain ⟨behind, second, rightSorted⟩ := ih (some pivot) (v.filter fun a => !less a pivot)
            (inner.within _ (by simp; tauto)) (by simpa using upper) (inner.within _ fun _ => List.mem_of_mem_filter)
          obtain ⟨before, first, leftSorted⟩ := ih ancestor (v.filter (less · pivot))
            (keyed.within _ (by simp; tauto)) (fun a given b known => least a given b (List.mem_of_mem_filter known))
            (inner.within _ fun _ => List.mem_of_mem_filter)
          refine ⟨before ++ behind, by rw [second, first]; rfl, ?_⟩
          refine List.pairwise_append.mpr ⟨leftSorted, rightSorted, fun a onLeft b onRight => ?_⟩
          have under := (quick_sort_perm less room limit _ _ before first).mem_iff.mp onLeft
          have higher := (quick_sort_perm less room limit _ _ behind second).mem_iff.mp onRight
          exact Int.le_trans (Int.le_of_lt (inner.below pivot member a under)) (upper b higher)

theorem sort_ascending (v : List α) (keyed : Keyed less key v) : ∃ w, sort? less v = some w ∧ Ascending key w := by
  unfold sort?
  split
  · exact ⟨_, rfl, insertion_sort_ascending v keyed⟩
  · exact drift_ascending (stableQuickSort? less (roomFor v.length)) (roomFor v.length)
      (fun v w => quick_sort_perm less _ _ none v w)
      (fun v keyed => quick_sort_ascending _ _ none v keyed (by simp)) _ v keyed

end LiveTable.Sorting
