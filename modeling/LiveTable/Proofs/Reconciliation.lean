import LiveTable.Proofs.Snapshot
import LiveTable.Table.Basic

namespace LiveTable.Table

-- The first snapshot only adds; a later one compares with the events so far.
def arrival (t : Table) (es : RowEvents) (row : Row) : RowEvent :=
  if t.events.isEmpty then .plain .added row else t.eventOf es row

theorem merge_take_over (t : Table) (rows : List Row) :
    t.merge rows = t.events.takeOver t.arrival rows := by
  unfold merge RowEvents.takeOver arrival
  split <;> rfl

theorem of_next_row (h : Header) (old row : Row) : (RowEvent.ofNext h old row).row = row := by
  unfold RowEvent.ofNext
  dsimp only
  split <;> rfl

theorem event_of_row (t : Table) (es : RowEvents) (row : Row) : (t.eventOf es row).row = row := by
  unfold eventOf
  split
  · rfl
  · exact of_next_row t.header _ row

theorem event_of_id (t : Table) (es : RowEvents) (row : Row) : (t.eventOf es row).id = row.id :=
  congrArg Row.id (event_of_row t es row)

theorem arrival_row (t : Table) (es : RowEvents) (row : Row) : (t.arrival es row).row = row := by
  unfold arrival
  split
  · rfl
  · exact event_of_row t es row

theorem arrival_within (t : Table) (es fs : RowEvents) (row : Row)
    (same : es.get? row.id = fs.get? row.id) : t.arrival es row = t.arrival fs row := by
  simp only [arrival, eventOf, same]

theorem arrival_start (t : Table) (row : Row) : t.arrival t.events row = t.eventOf t.events row := by
  unfold arrival
  split
  · rename_i first
    have absent : t.events.get? row.id = none := by
      simp [RowEvents.get?, RowEvents.at?, List.isEmpty_iff.mp first]
    rw [eventOf, absent]
  · rfl

theorem mem_update (t : Table) (rows : List Row) (e : RowEvent) :
    e ∈ (t.update rows).events.toList ↔
      e ∈ (t.events.takeOver t.arrival rows).toList ∧ e.id ∈ rows.map Row.id := by
  rw [update, RowEvents.retain_list, List.mem_filter, merge_take_over, List.contains_eq_mem,
    decide_eq_true_eq]

theorem update_indexed (t : Table) (rows : List Row) (indexed : t.events.Indexed) :
    (t.update rows).events.Indexed := by
  rw [update, merge_take_over]
  exact RowEvents.retain_indexed _ _ (RowEvents.take_over_indexed _ _ _ indexed)

theorem update_forall (p : RowEvent → Prop) (t : Table) (rows : List Row) (before : ∀ e ∈ t.events.toList, p e)
    (made : ∀ es row, p (t.arrival es row)) : ∀ e ∈ (t.update rows).events.toList, p e :=
  fun e member => RowEvents.take_over_forall _ _ _ p before made e ((mem_update t rows e).mp member).1

theorem update_ids (t : Table) (rows : List Row) (indexed : t.events.Indexed) :
    (t.update rows).events.ids =
      (t.events.ids.filter fun id => decide (id ∈ rows.map Row.id)) ++
        (rows.map Row.id).eraseDups.filter fun id => decide (id ∉ t.events.ids) := by
  rw [update, RowEvents.retain_ids, merge_take_over,
    RowEvents.take_over_ids t.arrival t.events rows indexed t.arrival_row, List.filter_append]
  congr 1
  · simp only [List.contains_eq_mem]
  · rw [List.filter_eq_self]
    intro id member
    have given : id ∈ rows.map Row.id := List.mem_eraseDups.mp (List.mem_filter.mp member).1
    simpa only [List.contains_eq_mem, decide_eq_true_eq] using given

theorem update_last (t : Table) (rows : List Row) (indexed : t.events.Indexed) (e : RowEvent)
    (member : e ∈ (t.update rows).events.toList) :
    (rows.filter fun row => row.id = e.id).getLast? = some e.row := by
  obtain ⟨kept, given⟩ := (mem_update t rows e).mp member
  rcases RowEvents.take_over_last t.arrival t.events rows indexed t.arrival_row e kept with last | ⟨_, missing⟩
  · exact last
  · exact absurd given missing

theorem mem_update_distinct (t : Table) (rows : List Row) (indexed : t.events.Indexed)
    (distinct : (rows.map Row.id).Nodup) (e : RowEvent) :
    e ∈ (t.update rows).events.toList ↔ ∃ row ∈ rows, e = t.eventOf t.events row := by
  rw [mem_update, RowEvents.mem_take_over t.arrival t.events rows indexed t.arrival_row t.arrival_within distinct]
  simp only [arrival_start]
  constructor
  · rintro ⟨made | ⟨_, missing⟩, given⟩
    · exact made
    · exact absurd given missing
  · rintro ⟨row, member, rfl⟩
    exact ⟨.inl ⟨row, member, rfl⟩, event_of_id t t.events row ▸ List.mem_map_of_mem member⟩

theorem update_new (t : Table) (rows : List Row) (empty : t.events = .empty)
    (distinct : (rows.map Row.id).Nodup) : (t.update rows).events.toList = rows.map (.plain .added) := by
  have merged : t.merge rows = RowEvents.reindex (rows.map (.plain .added)) := by
    rw [merge, empty]
    exact RowEvents.take_over_new rows distinct
  rw [update, RowEvents.retain_list, merged]
  refine List.filter_eq_self.mpr fun e member => ?_
  obtain ⟨row, given, rfl⟩ := List.mem_map.mp member
  exact List.contains_iff_mem.mpr (List.mem_map_of_mem given)

theorem reconcile_cases (now : Int) (t next : Table) (renderer : Renderer) (specs : ColumnSpecs)
    (objects : List Json) (outcome : Except String Unit)
    (completed : t.reconcile? now renderer specs objects = some (next, outcome)) :
    (∃ message, next = t ∧ outcome = .error message) ∨
      ∃ h rows, next = (t.relayout h).update rows ∧ outcome = .ok () := by
  unfold reconcile? at completed
  obtain ⟨rendered, _, more⟩ := Option.bind_eq_some_iff.mp completed
  obtain ⟨rows, _, done⟩ := Option.bind_eq_some_iff.mp more
  dsimp only at done
  split at done
  · cases done
    exact .inl ⟨_, rfl, rfl⟩
  · cases done
    exact .inr ⟨_, rows, rfl, rfl⟩

theorem update_reconciles (t : Table) (rows : List Row) (indexed : t.events.Indexed) :
    (t.update rows).events.ids =
        (t.events.ids.filter fun id => decide (id ∈ rows.map Row.id)) ++
          ((rows.map Row.id).eraseDups.filter fun id => decide (id ∉ t.events.ids)) ∧
      (t.update rows).events.ids.Nodup ∧
      ∀ e ∈ (t.update rows).events.toList, (rows.filter fun row => row.id = e.id).getLast? = some e.row :=
  ⟨update_ids t rows indexed, (update_indexed t rows indexed).distinct, update_last t rows indexed⟩

def threePods : Table :=
  ⟨[Column.named "NAME"], .ofList (["a", "b", "c"].map fun name => .plain .added ⟨name, [name]⟩), "all"⟩

theorem three_pods_indexed : threePods.events.Indexed := by
  rw [threePods, RowEvents.of_list_reindex]
  exact RowEvents.reindex_indexed _ (by decide)

theorem update_reconciles_repeats :
    threePods.events.Indexed ∧
      (threePods.update [⟨"d", ["1"]⟩, ⟨"c", ["2"]⟩, ⟨"d", ["3"]⟩, ⟨"a", ["4"]⟩]).events.ids = ["a", "c", "d"] ∧
      (threePods.update [⟨"d", ["1"]⟩, ⟨"c", ["2"]⟩, ⟨"d", ["3"]⟩, ⟨"a", ["4"]⟩]).events.ids.Nodup :=
  have reconciled := update_reconciles threePods [⟨"d", ["1"]⟩, ⟨"c", ["2"]⟩, ⟨"d", ["3"]⟩, ⟨"a", ["4"]⟩]
    three_pods_indexed
  ⟨three_pods_indexed, reconciled.1.trans (by decide), reconciled.2.1⟩

end LiveTable.Table
