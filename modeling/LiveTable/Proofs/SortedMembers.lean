import Mathlib.Data.List.Perm.Basic
import Mathlib.Logic.Basic
import LiveTable.Sorting.Drift

namespace LiveTable.Sorting

variable {α : Type} (less : α → α → Bool)

theorem sink_perm (x : α) (before : List α) : (sink less x before).Perm (x :: before) := by
  induction before with
  | nil => exact .refl _
  | cons b before ih =>
      unfold sink
      split
      · exact (ih.cons b).trans (.swap x b before)
      · exact .refl _

theorem sink_all_perm (rest before : List α) :
    (rest.foldl (fun before x => sink less x before) before).Perm (rest ++ before) := by
  induction rest generalizing before with
  | nil => exact .refl _
  | cons x rest ih =>
      rw [List.foldl_cons]
      exact (ih _).trans (((sink_perm less x before).append_left rest).trans List.perm_middle)

theorem insert_all_perm (sorted rest : List α) : (insertAll less sorted rest).Perm (sorted ++ rest) := by
  have sunk := sink_all_perm less rest sorted.reverse
  have turned := (List.reverse_perm _).trans (sunk.trans ((sorted.reverse_perm).append_left rest))
  exact turned.trans List.perm_append_comm

theorem insertion_sort_perm (v : List α) : (insertionSort less v).Perm v := insert_all_perm less [] v

theorem merge_left_perm (left right : List α) : (mergeLeft less left right).Perm (left ++ right) :=
  List.merge_perm_append _

theorem merge_right_perm (left right : List α) : (mergeRight less left right).Perm (left ++ right) := by
  have merged := merge_left_perm (fun r l => less l r) right.reverse left.reverse
  have turned := (List.reverse_perm _).trans (merged.trans (right.reverse_perm.append left.reverse_perm))
  exact turned.trans List.perm_append_comm

theorem advance_members (n : Nat) (left right : List α) :
    ∃ i j, i ≤ left.length ∧ j ≤ right.length ∧ (advance less n left right).2 = (left.drop i, right.drop j) ∧
      (advance less n left right).1.Perm (left.take i ++ right.take j) := by
  fun_induction advance less n left right with
  | case1 n l left r right before taken rest step ih =>
      obtain ⟨i, j, inside, within, leaves, takes⟩ := ih
      rw [step] at leaves takes
      refine ⟨i, j + 1, inside, by simpa using within, by simpa using leaves, ?_⟩
      exact (takes.cons r).trans (@List.perm_middle α r ((l :: left).take i) _).symm
  | case2 n l left r right before taken rest step ih =>
      obtain ⟨i, j, inside, within, leaves, takes⟩ := ih
      rw [step] at leaves takes
      exact ⟨i + 1, j, by simpa using inside, within, by simpa using leaves, takes.cons l⟩
  | case3 => exact ⟨0, 0, Nat.zero_le _, Nat.zero_le _, rfl, .refl _⟩

theorem retreat_members (n : Nat) (left right : List α) :
    ∃ i j, i ≤ left.length ∧ j ≤ right.length ∧
      (advance (fun r l => less l r) n right.reverse left.reverse).2 =
        ((right.take j).reverse, (left.take i).reverse) ∧
      (advance (fun r l => less l r) n right.reverse left.reverse).1.reverse.Perm (left.drop i ++ right.drop j) := by
  obtain ⟨j, i, inside, within, leaves, takes⟩ :=
    advance_members (fun r l => less l r) n right.reverse left.reverse
  refine ⟨left.length - i, right.length - j, Nat.sub_le .., Nat.sub_le .., ?_, ?_⟩
  · rw [leaves, List.drop_reverse, List.drop_reverse]
  · refine (List.reverse_perm _).trans (takes.trans ?_)
    rw [List.take_reverse, List.take_reverse]
    exact ((List.reverse_perm _).append (List.reverse_perm _)).trans List.perm_append_comm

theorem halves_perm (left right front back : List α) (i j : Nat) (before : front.Perm (left.take i ++ right.take j))
    (behind : back.Perm (left.drop i ++ right.drop j)) : (front ++ back).Perm (left ++ right) := by
  refine (before.append behind).trans ?_
  calc left.take i ++ right.take j ++ (left.drop i ++ right.drop j)
      = left.take i ++ (right.take j ++ left.drop i) ++ right.drop j := by simp only [List.append_assoc]
    _ |>.Perm (left.take i ++ (left.drop i ++ right.take j) ++ right.drop j) :=
        (List.perm_append_comm.append_left _).append_right _
    _ = left ++ right := by
        rw [← List.append_assoc, List.take_append_drop, List.append_assoc, List.take_append_drop]

-- What the steps from the front take of two runs, and what those from the back leave of them.
structure Ends (left right front back : List α) (i j k l : Nat) : Prop where
  front_left : i ≤ left.length
  front_right : j ≤ right.length
  back_left : k ≤ left.length
  back_right : l ≤ right.length
  advanced : advance less left.length left right = (front, left.drop i, right.drop j)
  retreated : advance (fun r l => less l r) left.length right.reverse left.reverse =
    (back.reverse, (right.take l).reverse, (left.take k).reverse)
  before : front.Perm (left.take i ++ right.take j)
  behind : back.Perm (left.drop k ++ right.drop l)

theorem ends_of (left right : List α) : ∃ front back i j k l, Ends less left right front back i j k l := by
  obtain ⟨i, j, inside, within, leaves, takes⟩ := advance_members less left.length left right
  obtain ⟨k, l, inner, outer, keeps, returns⟩ := retreat_members less left.length left right
  exact ⟨_, _, i, j, k, l, inside, within, inner, outer, Prod.ext rfl leaves,
    Prod.ext (List.reverse_reverse _).symm keeps, takes, returns⟩

theorem merge_both_ends_eq (left right front back : List α) (i j k l : Nat)
    (half : left.length = (left ++ right).length / 2) (ends : Ends less left right front back i j k l) :
    mergeBothEnds? less (left ++ right) =
      if (left ++ right).length % 2 = 0 then if i = k ∧ j = l then some (front ++ back) else none
      else if i < k then
        if i + 1 = k ∧ j = l then some (front ++ (left.drop i).take 1 ++ back) else none
      else if i = k ∧ j + 1 = l then some (front ++ (right.drop j).take 1 ++ back) else none := by
  have bounds := And.intro ends.front_left (And.intro ends.front_right (And.intro ends.back_left ends.back_right))
  have long : (left ++ right).length = left.length + right.length := List.length_append
  have place : left.length - (left.length - i) = i := by omega
  have other : (left ++ right).length - (right.length - j) = left.length + j := by omega
  have lower : min k left.length = k := by omega
  have upper : min l right.length = l := by omega
  simp only [mergeBothEnds?, ← half, List.take_left, List.drop_left, ends.advanced, ends.retreated,
    List.length_reverse, List.length_drop, List.length_take, List.reverse_reverse, place, other, lower, upper,
    Nat.add_assoc, Nat.add_left_cancel_iff]

theorem Ends.joined_perm {less : α → α → Bool} {left right front back middle : List α} {i j k l : Nat}
    (ends : Ends less left right front back i j k l)
    (between : (middle ++ (left.drop k ++ right.drop l)).Perm (left.drop i ++ right.drop j)) :
    (front ++ middle ++ back).Perm (left ++ right) := by
  rw [List.append_assoc]
  exact halves_perm left right front _ i j ends.before ((ends.behind.append_left middle).trans between)

theorem merge_both_ends_perm (v w : List α) (merged : mergeBothEnds? less v = some w) : w.Perm v := by
  have whole := List.take_append_drop (v.length / 2) v
  have half : (v.take (v.length / 2)).length = (v.take (v.length / 2) ++ v.drop (v.length / 2)).length / 2 := by
    rw [whole, List.length_take]
    omega
  generalize v.take (v.length / 2) = left at whole half
  generalize v.drop (v.length / 2) = right at whole half
  subst whole
  obtain ⟨front, back, i, j, k, l, ends⟩ := ends_of less left right
  rw [merge_both_ends_eq less left right front back i j k l half ends] at merged
  by_cases even : (left ++ right).length % 2 = 0
  · rw [if_pos even] at merged
    obtain ⟨⟨rfl, rfl⟩, ⟨⟩⟩ := Option.ite_none_right_eq_some.mp merged
    exact halves_perm left right front back i j ends.before ends.behind
  · rw [if_neg even] at merged
    by_cases onLeft : i < k
    · rw [if_pos onLeft] at merged
      obtain ⟨⟨rfl, rfl⟩, ⟨⟩⟩ := Option.ite_none_right_eq_some.mp merged
      refine ends.joined_perm ?_
      rw [← List.append_assoc, ← List.drop_drop, List.take_append_drop]
    · rw [if_neg onLeft] at merged
      obtain ⟨⟨rfl, rfl⟩, ⟨⟩⟩ := Option.ite_none_right_eq_some.mp merged
      refine ends.joined_perm ((List.perm_append_comm_assoc _ _ _).trans ?_)
      rw [← List.drop_drop, List.take_append_drop]

theorem sort_four_perm (v : List α) : (sortFour less v).Perm v := by
  classical
  unfold sortFour
  split
  · rename_i v0 v1 v2 v3
    rw [List.perm_iff_count]
    intro a
    dsimp only
    split_ifs <;> simp only [List.count_cons, List.count_nil] <;> omega
  · exact .refl _

theorem sort_eight_perm (v w : List α) (sorted : sortEight? less v = some w) : w.Perm v := by
  have halves := (sort_four_perm less (v.take 4)).append (sort_four_perm less (v.drop 4))
  rw [List.take_append_drop] at halves
  exact (merge_both_ends_perm less _ w sorted).trans halves

theorem sort_half_perm (size : Nat) (half w : List α) (sorted : sortHalf? less size half = some w) : w.Perm half := by
  unfold sortHalf? at sorted
  split at sorted
  · obtain ⟨first, eight, rfl⟩ := Option.map_eq_some_iff.mp sorted
    have joined := (sort_eight_perm less _ first eight).append_right (half.drop 8)
    rw [List.take_append_drop] at joined
    exact (insert_all_perm less first (half.drop 8)).trans joined
  · split at sorted
    · cases sorted
      have joined := (sort_four_perm less (half.take 4)).append_right (half.drop 4)
      rw [List.take_append_drop] at joined
      exact (insert_all_perm less _ _).trans joined
    · cases sorted
      exact insertion_sort_perm less half

theorem small_sort_perm (v w : List α) (sorted : smallSort? less v = some w) : w.Perm v := by
  unfold smallSort? at sorted
  split at sorted
  · cases sorted
    exact .refl _
  · obtain ⟨left, first, rest⟩ := Option.bind_eq_some_iff.mp sorted
    obtain ⟨right, second, merged⟩ := Option.bind_eq_some_iff.mp rest
    have halves := (sort_half_perm less _ _ left first).append (sort_half_perm less _ _ right second)
    rw [List.take_append_drop] at halves
    exact (merge_both_ends_perm less _ w merged).trans halves

theorem partition_perm (goesLeft : α → Bool) (place : Nat) (pivotLeft : Bool) (v : List α) :
    ((partition goesLeft place pivotLeft v).1 ++ (partition goesLeft place pivotLeft v).2).Perm v := by
  simp only [partition, List.partition_eq_filter_filter, ← List.map_append]
  have split := (List.filter_append_perm (fun x : α × Nat => if x.2 = place then pivotLeft else goesLeft x.1)
    v.zipIdx).map Prod.fst
  rwa [List.zipIdx_map_fst] at split

theorem square_root_pos (n : Nat) (large : 4096 < n) : 0 < squareRoot n := by
  have log : 1 ≤ n.log2 := (Nat.le_log2 (by omega)).mpr (by omega)
  have shift : 1 ≤ (1 + n.log2) / 2 := by omega
  have power : 2 ^ 1 ≤ 2 ^ ((1 + n.log2) / 2) := Nat.pow_le_pow_right (by decide) shift
  exact Nat.div_pos (Nat.le_add_right_of_le power) (by decide)

theorem good_run_pos (n : Nat) (some_member : 0 < n) : 0 < goodRun n := by
  unfold goodRun
  split
  · omega
  · exact square_root_pos n (by omega)

theorem next_run_perm (eager : Bool) (good : Nat) (v : List α) (run : Run α)
    (found : nextRun? less eager good v = some run) : run.items.Perm (v.take run.size) := by
  have taken (items : List α) (n : Nat) (same : items.Perm (v.take n)) : items.Perm (v.take items.length) := by
    rw [same.length_eq, List.length_take, ← List.take_take, List.take_length]
    exact same
  unfold nextRun? at found
  dsimp only at found
  split at found
  · cases found
    refine taken _ (leadingRun less v).1 ?_
    dsimp only [Run.items]
    split
    · exact List.reverse_perm _
    · exact .refl _
  · split at found
    · obtain ⟨sorted, small, rfl⟩ := Option.map_eq_some_iff.mp found
      exact taken sorted _ (small_sort_perm less _ sorted small)
    · cases found
      exact taken _ _ (.refl _)

theorem next_run_pos (eager : Bool) (good : Nat) (v : List α) (run : Run α) (some_good : 0 < good) (filled : v ≠ [])
    (found : nextRun? less eager good v = some run) : 0 < run.size := by
  have longer : 0 < v.length := List.length_pos_iff.mpr filled
  unfold nextRun? at found
  dsimp only at found
  split at found
  · rename_i enough
    cases found
    dsimp only [Run.size, Run.items]
    split <;> simp only [List.length_reverse, List.length_take] <;> omega
  · split at found
    · obtain ⟨sorted, small, rfl⟩ := Option.map_eq_some_iff.mp found
      have length := (small_sort_perm less _ sorted small).length_eq
      simp only [List.length_take, smallSize] at length
      dsimp only [Run.size, Run.items]
      omega
    · cases found
      dsimp only [Run.size, Run.items]
      rw [List.length_take]
      omega

theorem cut_runs_perm (eager : Bool) (good : Nat) (some_good : 0 < good) (n : Nat) (v : List α) (runs : List (Run α))
    (enough : v.length ≤ n) (cut : cutRuns? less eager good n v = some runs) : (runs.flatMap Run.items).Perm v := by
  induction n generalizing v runs with
  | zero =>
      obtain rfl : v = [] := List.length_eq_zero_iff.mp (by omega)
      cases cut
      exact .refl _
  | succ n ih =>
      cases v with
      | nil =>
          cases cut
          exact .refl _
      | cons a v =>
          obtain ⟨run, found, more⟩ := Option.bind_eq_some_iff.mp cut
          obtain ⟨rest, behind, given⟩ := Option.bind_eq_some_iff.mp more
          cases given
          have size := next_run_pos less eager good _ run some_good (List.cons_ne_nil a v) found
          have fewer : ((a :: v).drop run.size).length ≤ n := by
            rw [List.length_drop]
            simp only [List.length_cons] at enough ⊢
            omega
          have joined := (next_run_perm less eager good _ run found).append (ih _ rest fewer behind)
          rwa [List.take_append_drop] at joined

theorem cut_all_perm (eager : Bool) (v : List α) (runs : List (Run α))
    (cut : cutRuns? less eager (goodRun v.length) v.length v = some runs) : (runs.flatMap Run.items).Perm v := by
  cases v with
  | nil =>
      cases cut
      exact .refl _
  | cons a v => exact cut_runs_perm less eager _ (good_run_pos _ (by simp)) _ _ runs (Nat.le_refl _) cut

theorem merge_runs_perm (left right : List α) : (mergeRuns less left right).Perm (left ++ right) := by
  unfold mergeRuns
  split
  · exact merge_left_perm less left right
  · exact merge_right_perm less left right

section

variable (quick? : List α → Option (List α)) (room : Nat)

theorem climb_all (waiting : List (Run α × Nat)) (run : Run α) (rest : List (Run α × Nat)) (last : Run α)
    (climbed : climb? less quick? room 0 waiting run = some (rest, last)) : rest = [] := by
  induction waiting generalizing run with
  | nil =>
      cases climbed
      rfl
  | cons entry waiting ih =>
      unfold climb? at climbed
      rw [if_pos (Nat.zero_le _)] at climbed
      obtain ⟨merged, united, further⟩ := Option.bind_eq_some_iff.mp climbed
      exact ih merged further

variable (keeps : ∀ v w, quick? v = some w → w.Perm v)

include keeps

theorem settle_perm (run : Run α) (w : List α) (settled : settle? quick? run = some w) : w.Perm run.items := by
  cases run with
  | sorted items =>
      cases settled
      exact .refl _
  | unsorted items => exact keeps items w settled

theorem unite_perm (left right run : Run α) (united : unite? less quick? room left right = some run) :
    run.items.Perm (left.items ++ right.items) := by
  unfold unite? at united
  split at united
  · cases united
    exact .refl _
  · obtain ⟨l, first, more⟩ := Option.bind_eq_some_iff.mp united
    obtain ⟨r, second, given⟩ := Option.bind_eq_some_iff.mp more
    cases given
    exact (merge_runs_perm less l r).trans
      ((settle_perm quick? keeps left l first).append (settle_perm quick? keeps right r second))

theorem climb_perm (depth : Nat) (waiting : List (Run α × Nat)) (run : Run α) (rest : List (Run α × Nat))
    (last : Run α) (climbed : climb? less quick? room depth waiting run = some (rest, last)) :
    (rest.flatMap (·.1.items) ++ last.items).Perm (waiting.flatMap (·.1.items) ++ run.items) := by
  induction waiting generalizing run with
  | nil =>
      cases climbed
      exact .refl _
  | cons entry waiting ih =>
      obtain ⟨left, deep⟩ := entry
      unfold climb? at climbed
      split at climbed
      · obtain ⟨merged, united, further⟩ := Option.bind_eq_some_iff.mp climbed
        have joined := (unite_perm less quick? room keeps left run merged united).append_left
          (waiting.flatMap (·.1.items))
        rw [List.flatMap_cons, List.append_assoc]
        exact ((ih merged further).trans joined).trans (List.perm_append_comm_assoc _ _ _)
      · cases climbed
        exact .refl _

theorem merge_tree_perm (n start : Nat) (waiting : List (Run α × Nat)) (last : Run α) (rest : List (Run α))
    (run : Run α) (merged : mergeTree? less quick? room n start waiting last rest = some run) :
    run.items.Perm (waiting.flatMap (·.1.items) ++ last.items ++ rest.flatMap Run.items) := by
  induction rest generalizing start waiting last with
  | nil =>
      obtain ⟨⟨none_left, whole⟩, climbed, rfl⟩ := Option.map_eq_some_iff.mp merged
      have top := climb_all less quick? room waiting last none_left whole climbed
      have joined := climb_perm less quick? room keeps 0 waiting last _ _ climbed
      simpa only [top, List.flatMap_nil, List.nil_append, List.append_nil] using joined
  | cons next rest ih =>
      obtain ⟨⟨behind, whole⟩, climbed, further⟩ := Option.bind_eq_some_iff.mp merged
      have joined := climb_perm less quick? room keeps _ waiting last behind whole climbed
      refine (ih _ _ next further).trans ?_
      rw [List.flatMap_cons, List.flatMap_cons, ← List.append_assoc]
      exact ((List.perm_append_comm.trans joined).append_right _).append_right _

theorem drift_perm (eager : Bool) (v w : List α) (sorted : drift? less quick? room eager v = some w) : w.Perm v := by
  unfold drift? at sorted
  obtain ⟨runs, cut, more⟩ := Option.bind_eq_some_iff.mp sorted
  have members := cut_all_perm less eager v runs cut
  cases runs with
  | nil =>
      cases more
      exact members
  | cons first rest =>
      obtain ⟨run, merged, settled⟩ := Option.bind_eq_some_iff.mp more
      have tree := merge_tree_perm less quick? room keeps _ 0 [] first rest run merged
      exact (settle_perm quick? keeps run w settled).trans (tree.trans members)

end

theorem eager_sort_perm (room : Nat) (v w : List α) (sorted : eagerSort? less room v = some w) : w.Perm v :=
  drift_perm less (smallSort? less) room (small_sort_perm less) true v w sorted

theorem quick_sort_perm (room limit : Nat) (ancestor : Option α) (v w : List α)
    (sorted : quickSort? less room limit ancestor v = some w) : w.Perm v := by
  induction limit generalizing ancestor v w with
  | zero =>
      unfold quickSort? at sorted
      split at sorted
      · exact small_sort_perm less v w sorted
      · exact eager_sort_perm less room v w sorted
  | succ limit ih =>
      unfold quickSort? at sorted
      split at sorted
      · exact small_sort_perm less v w sorted
      · obtain ⟨pivot, _, more⟩ := Option.bind_eq_some_iff.mp sorted
        dsimp only at more
        split at more
        · obtain ⟨rest, behind, given⟩ := Option.bind_eq_some_iff.mp more
          cases given
          exact ((ih none _ rest behind).append_left _).trans (partition_perm _ _ true v)
        · obtain ⟨behind, second, further⟩ := Option.bind_eq_some_iff.mp more
          obtain ⟨before, first, given⟩ := Option.bind_eq_some_iff.mp further
          cases given
          exact ((ih _ _ before first).append (ih _ _ behind second)).trans (partition_perm _ _ false v)

theorem sort_perm (v w : List α) (sorted : sort? less v = some w) : w.Perm v := by
  unfold sort? at sorted
  split at sorted
  · cases sorted
    exact insertion_sort_perm less v
  · exact drift_perm less _ _ (fun v w => quick_sort_perm less _ _ none v w) _ v w sorted

end LiveTable.Sorting
