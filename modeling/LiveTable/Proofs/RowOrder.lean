import LiveTable.Proofs.CellOrder
import LiveTable.Proofs.Index
import LiveTable.Proofs.SortedOrder

namespace LiveTable

section

variable {α : Type} (total : α → α → Ordering) [Std.TransCmp total]

theorem not_behind_trans (a b c : α) (before : (total a b != .gt) = true) (after : (total b c != .gt) = true) :
    (total a c != .gt) = true := by
  simp only [bne_iff_ne, ne_eq, ← Ordering.isLE_iff_ne_gt] at before after ⊢
  exact Std.TransCmp.isLE_trans before after

theorem not_behind_total (a b : α) : ((total a b != .gt) || (total b a != .gt)) = true := by
  have swapped : total b a = (total a b).swap := Std.OrientedCmp.eq_swap
  rw [swapped]
  cases total a b <;> rfl

theorem merge_sort_ordered (as : List α) :
    (as.mergeSort fun a b => total a b != .gt).Pairwise fun a b => (total a b != .gt) = true :=
  List.pairwise_mergeSort (not_behind_trans total) (not_behind_total total) as

theorem merge_sort_stable (as : List α) (a : α) :
    (as.mergeSort fun a b => total a b != .gt).filter (total a · == .eq) = as.filter (total a · == .eq) := by
  have alike : (as.filter (total a · == .eq)).Pairwise fun b c => (total b c != .gt) = true := by
    refine List.pairwise_filter.mpr (List.pairwise_of_forall fun b c first second => ?_)
    simp only [beq_iff_eq] at first second
    have even : total b c = .eq := Std.TransCmp.eq_trans (Std.OrientedCmp.eq_symm first) second
    rw [even]
    rfl
  have kept := (List.sublist_mergeSort (not_behind_trans total) (not_behind_total total) alike
    List.filter_sublist).filter (total a · == .eq)
  rw [List.filter_filter] at kept
  simp only [Bool.and_self] at kept
  exact (kept.eq_of_length ((List.mergeSort_perm as _).filter _).length_eq.symm).symm

end

theorem ordered_unique {α : Type} (total : α → α → Ordering) [Std.TransCmp total] (as bs : List α)
    (separate : ∀ a ∈ as, ∀ b ∈ as, total a b = .eq → a = b) (arrived : as.Perm bs)
    (left : as.Pairwise fun a b => (total a b != .gt) = true)
    (right : bs.Pairwise fun a b => (total a b != .gt) = true) : as = bs := by
  refine List.Perm.eq_of_pairwise (fun a b member known before after => ?_) left right arrived
  refine separate a member b (arrived.mem_iff.mpr known) ?_
  have swapped : total b a = (total a b).swap := Std.OrientedCmp.eq_swap
  rw [swapped] at after
  cases compared : total a b with
  | lt => simp [compared] at after
  | eq => rfl
  | gt => simp [compared] at before

section

variable {α : Type} (total : α → α → Ordering) [Std.TransCmp total] (as bs : List α)
  (separate : ∀ a ∈ as, ∀ b ∈ as, total a b = .eq → a = b)

include separate

theorem merge_sort_forgets (arrived : as.Perm bs) :
    (as.mergeSort fun a b => total a b != .gt) = bs.mergeSort fun a b => total a b != .gt := by
  have left := List.mergeSort_perm as fun a b => total a b != .gt
  have right := List.mergeSort_perm bs fun a b => total a b != .gt
  refine ordered_unique total _ _ (fun a first b second => ?_) (left.trans (arrived.trans right.symm))
    (merge_sort_ordered total as) (merge_sort_ordered total bs)
  exact separate a (left.mem_iff.mp first) b (left.mem_iff.mp second)

theorem merge_sort_strict (distinct : as.Nodup) :
    (as.mergeSort fun a b => total a b != .gt).Pairwise fun a b => total a b = .lt := by
  have sorted := List.mergeSort_perm as fun a b => total a b != .gt
  have apart : (as.mergeSort fun a b => total a b != .gt).Pairwise (· ≠ ·) := sorted.nodup_iff.mpr distinct
  refine (List.Pairwise.and_mem.mp ((merge_sort_ordered total as).and apart)).imp ?_
  rintro a b ⟨first, second, before, different⟩
  cases compared : total a b with
  | lt => rfl
  | eq => exact absurd (separate a (sorted.mem_iff.mp first) b (sorted.mem_iff.mp second) compared) different
  | gt => simp [compared] at before

theorem merge_sort_reversed (arrived : as.Perm bs) :
    (bs.mergeSort fun a b => (total a b).swap != .gt) = (as.mergeSort fun a b => total a b != .gt).reverse := by
  have turned : (fun a b => (total a b).swap) = fun a b => total b a := by
    funext a b
    exact Std.OrientedCmp.eq_swap.symm
  have transitive : Std.TransCmp fun a b => (total a b).swap := by
    rw [turned]
    infer_instance
  have left := List.mergeSort_perm as fun a b => total a b != .gt
  have right := List.mergeSort_perm bs fun a b => (total a b).swap != .gt
  have same := (left.trans arrived).trans right.symm
  refine (ordered_unique (fun a b => (total a b).swap) _ _ (fun a first b second even => ?_)
    ((List.reverse_perm _).trans same) ?_ (merge_sort_ordered _ bs)).symm
  · rw [List.mem_reverse, left.mem_iff] at first second
    exact separate a first b second (by simpa using even)
  · rw [List.pairwise_reverse]
    refine (merge_sort_ordered total as).imp fun {a b} before => ?_
    have swapped : total b a = (total a b).swap := Std.OrientedCmp.eq_swap
    rwa [swapped, Ordering.swap_swap]

end

-- How many members come before this one.
def rank {α : Type} (total : α → α → Ordering) (v : List α) (a : α) : Int := v.countP (total · a == .lt)

section

variable {α : Type} (total : α → α → Ordering) [Std.TransCmp total] (v : List α)

theorem rank_le (a b : α) (before : total a b ≠ .gt) : rank total v a ≤ rank total v b := by
  refine Int.ofNat_le.mpr (List.countP_mono_left fun c _ less => ?_)
  rw [beq_iff_eq] at less ⊢
  exact Std.TransCmp.lt_of_lt_of_isLE less (Ordering.isLE_iff_ne_gt.mpr before)

theorem rank_lt (a b : α) (member : a ∈ v) (before : total a b = .lt) : rank total v a < rank total v b := by
  obtain ⟨front, behind, rfl⟩ := List.append_of_mem member
  have below : total a b ≠ .gt := by simp [before]
  have first := rank_le total front a b below
  have second := rank_le total behind a b below
  have itself : total a a = .eq := Std.ReflCmp.compare_self
  simp only [rank, List.countP_append, List.countP_cons, itself, before, beq_self_eq_true] at first second ⊢
  simp only [show ((Ordering.eq == Ordering.lt) = true) = False by decide, if_true, if_false]
  omega

theorem rank_keyed (less : α → α → Bool) (agree : ∀ a ∈ v, ∀ b ∈ v, less a b = (total a b == .lt)) :
    Sorting.Keyed less (rank total v) v := by
  intro a first b second
  rw [agree a first b second]
  cases compared : total a b with
  | lt => exact (decide_eq_true (rank_lt total v a b first compared)).symm
  | eq | gt =>
      have behind : total b a ≠ .gt := by
        rw [(Std.OrientedCmp.eq_swap : total b a = (total a b).swap), compared]
        decide
      exact (decide_eq_false (Int.not_lt.mpr (rank_le total v b a behind))).symm

-- Where the comparison is that of a transitive order which tells the members apart, the sort completes.
theorem sort_merges (less : α → α → Bool) (separate : ∀ a ∈ v, ∀ b ∈ v, total a b = .eq → a = b)
    (agree : ∀ a ∈ v, ∀ b ∈ v, less a b = (total a b == .lt)) :
    Sorting.sort? less v = some (v.mergeSort fun a b => total a b != .gt) := by
  obtain ⟨w, sorted, ascending⟩ := Sorting.sort_ascending v (rank_keyed total v less agree)
  have members := Sorting.sort_perm less v w sorted
  have merged := List.mergeSort_perm v fun a b => total a b != .gt
  have ordered : w.Pairwise fun a b => (total a b != .gt) = true := by
    refine (List.Pairwise.and_mem.mp ascending).imp ?_
    rintro a b ⟨first, second, ranked⟩
    rw [bne_iff_ne]
    intro above
    have below : total b a = .lt := by
      rw [(Std.OrientedCmp.eq_swap : total b a = (total a b).swap), above]
      rfl
    have strictly := rank_lt total v b a (members.mem_iff.mp second) below
    omega
  rw [sorted, ordered_unique total w _ (fun a first b second => separate a (members.mem_iff.mp first) b
    (members.mem_iff.mp second)) (members.trans merged.symm) ordered (merge_sort_ordered total v)]

end

namespace RowEvent

open Text (naturalOrder)

theorem order_cells (o : CellOrder) (column : Nat) (e f : RowEvent) (s t : String)
    (first : e.row.fields[column]? = some s) (second : f.row.fields[column]? = some t) :
    order o column e f = (o.compare s t).then (naturalOrder e.id f.id) := by
  simp only [order, first, second, CellOrder.precedes_then]
  rw [o.compare_swap s t, Text.natural_order_swap e.id f.id, ← Ordering.swap_then]
  cases (o.compare s t).then (naturalOrder e.id f.id) <;> rfl

theorem order_swap (o : CellOrder) (column : Nat) (e f : RowEvent) :
    order o column f e = (order o column e f).swap := by
  cases first : e.row.fields[column]? <;> cases second : f.row.fields[column]?
  case some.some s t =>
    rw [order_cells o column f e t s second first, order_cells o column e f s t first second, o.compare_swap,
      Text.natural_order_swap, Ordering.swap_then]
  all_goals
    simp only [order, first, second]
    exact Text.natural_order_swap e.id f.id

theorem directed_swap (o : CellOrder) (column : Nat) (ascending : Bool) (e f : RowEvent) :
    directed o column ascending f e = (directed o column ascending e f).swap := by
  unfold directed
  split
  · exact order_swap o column e f
  · rw [order_swap o column e f]

theorem order_separates (o : CellOrder) (column : Nat) (e f : RowEvent) (even : order o column e f = .eq) :
    e.id = f.id := by
  have alike : naturalOrder e.id f.id = .eq := by
    cases first : e.row.fields[column]? <;> cases second : f.row.fields[column]?
    case some.some s t =>
      rw [order_cells o column e f s t first second] at even
      exact (Ordering.then_eq_eq.mp even).2
    all_goals simpa only [order, first, second] using even
  exact Std.LawfulEqCmp.eq_of_compare alike

theorem directed_separates (o : CellOrder) (column : Nat) (ascending : Bool) (e f : RowEvent)
    (even : directed o column ascending e f = .eq) : e.id = f.id := by
  unfold directed at even
  split at even
  · exact order_separates o column e f even
  · exact order_separates o column e f (by simpa using even)

def HasCell (column : Nat) (cells : List String) (e : RowEvent) : Prop := ∃ s ∈ cells, e.row.fields[column]? = some s

theorem ordered_alike (o : CellOrder) (column : Nat) (ascending : Bool) (cells : List String) (alike : o.Alike cells) :
    ∃ total : RowEvent → RowEvent → Ordering, Std.TransCmp total ∧
      ∀ e f, e.HasCell column cells → f.HasCell column cells → directed o column ascending e f = total e f := by
  obtain ⟨cmp, transitive, agree⟩ := o.alike_ranked cells alike
  let cell (e : RowEvent) : String := (e.row.fields[column]?).getD ""
  have byCell := CellOrder.trans_along cell cmp
  have byId := CellOrder.trans_along RowEvent.id naturalOrder
  let total (e f : RowEvent) : Ordering := (cmp (cell e) (cell f)).then (naturalOrder e.id f.id)
  have ordered : Std.TransCmp total :=
    inferInstanceAs (Std.TransCmp (compareLex (fun e f => cmp (cell e) (cell f)) fun e f => naturalOrder e.id f.id))
  have agreed (e f : RowEvent) (left : e.HasCell column cells) (right : f.HasCell column cells) :
      order o column e f = total e f := by
    obtain ⟨s, given, first⟩ := left
    obtain ⟨t, known, second⟩ := right
    simp only [order_cells o column e f s t first second, agree s given t known, total, cell, first, second,
      Option.getD_some]
  cases ascending with
  | true => exact ⟨total, ordered, agreed⟩
  | false =>
      refine ⟨fun e f => total f e, inferInstance, fun e f left right => ?_⟩
      rw [directed, if_neg (by decide), ← order_swap, agreed f e right left]

theorem rows_ordered (o : CellOrder) (column : Nat) (ascending : Bool) (e f g : RowEvent) (s t u : String)
    (first : e.row.fields[column]? = some s) (second : f.row.fields[column]? = some t)
    (third : g.row.fields[column]? = some u) (distinct : [e.id, f.id, g.id].Nodup) :
    (directed o column ascending e f = .lt ∨ directed o column ascending f e = .lt) ∧
      ¬ (directed o column ascending e f = .lt ∧ directed o column ascending f e = .lt) ∧
      (o.Alike [s, t, u] → directed o column ascending e f = .lt → directed o column ascending f g = .lt →
        directed o column ascending e g = .lt) := by
  have apart : directed o column ascending e f ≠ .eq := by
    intro even
    have same := directed_separates o column ascending e f even
    simp [same] at distinct
  rw [directed_swap o column ascending e f]
  refine ⟨?_, ?_, fun alike before after => ?_⟩
  · cases compared : directed o column ascending e f with
    | lt => exact .inl rfl
    | eq => exact absurd compared apart
    | gt => exact .inr rfl
  · rintro ⟨before, after⟩
    rw [before] at after
    cases after
  · obtain ⟨total, transitive, agree⟩ := ordered_alike o column ascending [s, t, u] alike
    have left : e.HasCell column [s, t, u] := ⟨s, by simp, first⟩
    have middle : f.HasCell column [s, t, u] := ⟨t, by simp, second⟩
    have right : g.HasCell column [s, t, u] := ⟨u, by simp, third⟩
    rw [agree e f left middle] at before
    rw [agree f g middle right] at after
    rw [agree e g left right]
    exact Std.TransCmp.lt_trans before after

def shown (id cell : String) : RowEvent := .plain .unchanged ⟨id, [cell]⟩

theorem ages_ordered :
    directed ⟨false, true, false⟩ 0 true (shown "c" "10m") (shown "b" "2h") = .lt ∧
      directed ⟨false, true, false⟩ 0 true (shown "b" "2h") (shown "a" "n/a") = .lt ∧
      directed ⟨false, true, false⟩ 0 true (shown "c" "10m") (shown "a" "n/a") = .lt := by
  have before : directed ⟨false, true, false⟩ 0 true (shown "c" "10m") (shown "b" "2h") = .lt := by decide +kernel
  have after : directed ⟨false, true, false⟩ 0 true (shown "b" "2h") (shown "a" "n/a") = .lt := by decide +kernel
  have alike : (CellOrder.mk false true false).Alike ["10m", "2h", "n/a"] := .timesButOne rfl (by decide +kernel)
  exact ⟨before, after, (rows_ordered _ 0 true _ _ _ _ _ _ rfl rfl rfl (by decide)).2.2 alike before after⟩

theorem mixed_cells_cycle :
    ["a", "b", "c"].Nodup ∧
      directed ⟨false, false, false⟩ 0 true (shown "a" "10m") (shown "b" "2h") = .lt ∧
      directed ⟨false, false, false⟩ 0 true (shown "b" "2h") (shown "c" "3x") = .lt ∧
      directed ⟨false, false, false⟩ 0 true (shown "c" "3x") (shown "a" "10m") = .lt := by
  decide +kernel

end RowEvent

namespace RowEvents

theorem sort_ordered (es : RowEvents) (o : CellOrder) (column : Nat) (ascending : Bool)
    (total : RowEvent → RowEvent → Ordering) [Std.TransCmp total]
    (agree : ∀ e ∈ es.toList, ∀ f ∈ es.toList, RowEvent.directed o column ascending e f = total e f)
    (separate : ∀ e ∈ es.toList, ∀ f ∈ es.toList, total e f = .eq → e = f) :
    es.sort? o column ascending = some (reindex (es.toList.mergeSort fun e f => total e f != .gt)) :=
  congrArg (Option.map reindex)
    (sort_merges total es.toList _ separate fun e first f second => by rw [agree e first f second])

theorem sort_few (es : RowEvents) (o : CellOrder) (column : Nat) (ascending : Bool) (few : es.size ≤ 20) :
    (es.sort? o column ascending).isSome = true := by
  have short : es.toList.length ≤ 20 := few
  simp [sort?, Sorting.sort?, short]

theorem sort_alike (es : RowEvents) (o : CellOrder) (column : Nat) (ascending : Bool) (cells : List String)
    (alike : o.Alike cells) (placed : ∀ e ∈ es.toList, e.HasCell column cells) (distinct : es.ids.Nodup) :
    (es.sort? o column ascending).isSome = true := by
  obtain ⟨total, transitive, agree⟩ := RowEvent.ordered_alike o column ascending cells alike
  have same (e : RowEvent) (first : e ∈ es.toList) (f : RowEvent) (second : f ∈ es.toList) :=
    agree e f (placed e first) (placed f second)
  rw [sort_ordered es o column ascending total same fun e first f second even => ?_]
  · rfl
  · rw [← same e first f second] at even
    exact List.inj_on_of_nodup_map distinct first second (RowEvent.directed_separates o column ascending e f even)

end RowEvents

end LiveTable
