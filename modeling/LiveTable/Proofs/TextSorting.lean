import LiveTable.Proofs.Projection
import LiveTable.Proofs.RowOrder
import LiveTable.Table.Basic

namespace LiveTable

def CellOrder.text : CellOrder := ⟨false, false, false⟩

theorem CellOrder.compare_text (s t : String) (untimed : Elapsed.seconds? s = none) :
    text.compare s t = Text.naturalOrder s t := by
  by_cases same : s = t
  · have even : Text.naturalOrder t t = .eq := Std.ReflCmp.compare_self
    rw [same, compare_same, even]
  · rw [compare, if_neg same, untimed]
    rfl

namespace RowEvent

def textOrder (column : Nat) (e f : RowEvent) : Ordering :=
  (Text.naturalOrder (e.row.field column) (f.row.field column)).then (Text.naturalOrder e.id f.id)

instance (column : Nat) : Std.TransCmp (textOrder column) :=
  have _ := CellOrder.trans_along (fun e : RowEvent => e.row.field column) Text.naturalOrder
  have _ := CellOrder.trans_along RowEvent.id Text.naturalOrder
  inferInstanceAs (Std.TransCmp (compareLex
    (fun e f : RowEvent => Text.naturalOrder (e.row.field column) (f.row.field column))
    fun e f => Text.naturalOrder e.id f.id))

theorem text_order_separates (column : Nat) (e f : RowEvent) (even : textOrder column e f = .eq) : e.id = f.id :=
  Std.LawfulEqCmp.eq_of_compare (Ordering.then_eq_eq.mp even).2

def Texted (column : Nat) (e : RowEvent) : Prop := ∃ s, e.row.fields[column]? = some s ∧ Elapsed.seconds? s = none

theorem order_text (column : Nat) (e f : RowEvent) (left : e.Texted column) (right : f.Texted column) :
    order .text column e f = textOrder column e f := by
  obtain ⟨s, first, untimed⟩ := left
  obtain ⟨t, second, _⟩ := right
  have cell : e.row.field column = s := by rw [Row.field, List.getD_eq_getElem?_getD, first, Option.getD_some]
  have other : f.row.field column = t := by rw [Row.field, List.getD_eq_getElem?_getD, second, Option.getD_some]
  rw [order_cells .text column e f s t first second, CellOrder.compare_text s t untimed, textOrder, cell, other]

end RowEvent

namespace RowEvents

def textDirected (column : Nat) (ascending : Bool) (e f : RowEvent) : Ordering :=
  if ascending then e.textOrder column f else (e.textOrder column f).swap

theorem text_directed_trans (column : Nat) (ascending : Bool) : Std.TransCmp (textDirected column ascending) := by
  cases ascending with
  | true => exact inferInstanceAs (Std.TransCmp (RowEvent.textOrder column))
  | false =>
      have turned : textDirected column false = fun e f => f.textOrder column e := by
        funext e f
        exact Std.OrientedCmp.eq_swap.symm
      rw [turned]
      infer_instance

theorem sort_text (es : RowEvents) (column : Nat) (ascending : Bool) (texted : ∀ e ∈ es.toList, e.Texted column)
    (distinct : es.ids.Nodup) :
    es.sort? .text column ascending =
      some (reindex (es.toList.mergeSort fun e f => textDirected column ascending e f != .gt)) := by
  have transitive := text_directed_trans column ascending
  refine sort_ordered es .text column ascending _ (fun e left f right => ?_) fun e left f right even => ?_
  · rw [RowEvent.directed, RowEvent.order_text column e f (texted e left) (texted f right), textDirected]
  · refine List.inj_on_of_nodup_map distinct left right (RowEvent.text_order_separates column e f ?_)
    unfold textDirected at even
    split at even
    · exact even
    · simpa using even

end RowEvents

namespace Table

-- The column of this name is there, at this place; it keeps to the left and holds neither times nor amounts, and every
-- row has a cell in it, which is no time.
structure TextColumn (t : Table) (name : String) (place : Nat) : Prop where
  found : t.header.indexOf? name true = some place
  plain : ∀ c ∈ t.header[place]?, c.align = .left ∧ c.time = false ∧ c.capacity = false
  texted : ∀ e ∈ t.events.toList, e.Texted place

theorem sort_text_column (t : Table) (name : String) (place : Nat) (column : t.TextColumn name place)
    (distinct : t.events.ids.Nodup) (ascending : Bool) :
    t.sort? ⟨name, ascending⟩ = some { t with
      events := .reindex (t.events.toList.mergeSort fun e f =>
        RowEvents.textDirected place ascending e f != .gt) } := by
  obtain ⟨c, read, named⟩ := t.header.index_of_some name place column.found
  obtain ⟨left, timeless, uncounted⟩ := column.plain c read
  have order : cellOrder c = .text := by rw [cellOrder, left, timeless, uncounted]; rfl
  have sorted := t.events.sort_text place ascending column.texted distinct
  simp only [sort?, column.found, read, order, sorted, Option.map_some]

theorem text_column_sorted (t u : Table) (name : String) (place : Nat) (column : t.TextColumn name place)
    (distinct : t.events.ids.Nodup) (same : u.header = t.header) (arrived : t.events.toList.Perm u.events.toList) :
    ∃ forward other backward : Table, t.sort? ⟨name, true⟩ = some forward ∧ u.sort? ⟨name, true⟩ = some other ∧
      u.sort? ⟨name, false⟩ = some backward ∧ other.events = forward.events ∧
      forward.events.toList.Perm t.events.toList ∧
      forward.events.toList.Pairwise (fun e f => e.textOrder place f = .lt) ∧
      backward.events.toList = forward.events.toList.reverse := by
  have other : u.TextColumn name place := by
    refine ⟨same ▸ column.found, same ▸ column.plain, fun e member => ?_⟩
    exact column.texted e (arrived.mem_iff.mpr member)
  have apart : u.events.ids.Nodup := (arrived.map RowEvent.id).nodup_iff.mp distinct
  have separate (e : RowEvent) (left : e ∈ t.events.toList) (f : RowEvent) (right : f ∈ t.events.toList)
      (even : e.textOrder place f = .eq) : e = f :=
    List.inj_on_of_nodup_map distinct left right (RowEvent.text_order_separates place e f even)
  refine ⟨_, _, _, sort_text_column t name place column distinct true, sort_text_column u name place other apart true,
    sort_text_column u name place other apart false, ?_, ?_, ?_, ?_⟩
  · exact congrArg RowEvents.reindex (merge_sort_forgets _ _ _ separate arrived).symm
  · exact List.mergeSort_perm _ _
  · exact merge_sort_strict _ _ separate (.of_map RowEvent.id distinct)
  · exact merge_sort_reversed _ _ _ separate arrived

def onNodes (rows : List (String × String)) : Table :=
  ⟨[Column.named "NAME", Column.named "NODE"],
    .ofList (rows.map fun (name, node) => .plain .added ⟨name, [name, node]⟩), "all"⟩

def placedPods : Table := onNodes [("b", "node10"), ("c", "node2"), ("a", "node2")]

def placedPodsLater : Table := onNodes [("a", "node2"), ("b", "node10"), ("c", "node2")]

theorem placed_pods_sorted :
    placedPods.TextColumn "NODE" 1 ∧ placedPods.events.ids.Nodup ∧ placedPodsLater.header = placedPods.header ∧
      placedPods.events.toList.Perm placedPodsLater.events.toList ∧
      ∃ forward other backward : Table, placedPods.sort? ⟨"NODE", true⟩ = some forward ∧
        placedPodsLater.sort? ⟨"NODE", true⟩ = some other ∧ placedPodsLater.sort? ⟨"NODE", false⟩ = some backward ∧
        other.events = forward.events ∧ backward.events.toList = forward.events.toList.reverse := by
  have column : placedPods.TextColumn "NODE" 1 := by
    refine ⟨by decide, by decide, fun e member => ?_⟩
    have cell : (e.row.fields[1]?).any fun s => (Elapsed.seconds? s).isNone := by
      revert e
      decide +kernel
    obtain ⟨s, read, untimed⟩ := (Option.any_eq_true _ _).mp cell
    exact ⟨s, read, Option.isNone_iff_eq_none.mp untimed⟩
  have distinct : placedPods.events.ids.Nodup := by decide
  have arrived : placedPods.events.toList.Perm placedPodsLater.events.toList := by decide
  obtain ⟨forward, other, backward, sorted, again, turned, same, _, _, reversed⟩ :=
    text_column_sorted placedPods placedPodsLater "NODE" 1 column distinct rfl arrived
  exact ⟨column, distinct, rfl, arrived, forward, other, backward, sorted, again, turned, same, reversed⟩

end Table

end LiveTable
