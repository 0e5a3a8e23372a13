import LiveTable.Proofs.Classification

namespace LiveTable

theorem RowEvent.of_next_unchanged (h : Header) (old new : Row) (kept : ¬ Row.Changed h old new) :
    RowEvent.ofNext h old new = .plain .unchanged new := by
  have blank := (Delta.between_blank h old new).mpr (mt (Row.replaced_changed h old new) kept)
  rw [ofNext, if_pos blank]

namespace Table

-- The rows are those of the table, each with other values in columns of times at most.
structure Ticked (t : Table) (rows : List Row) : Prop where
  distinct : (rows.map Row.id).Nodup
  complete : ∀ id, id ∈ rows.map Row.id ↔ id ∈ t.events.ids
  kept : ∀ old ∈ t.events.toList, ∀ row ∈ rows, old.id = row.id → ¬ Row.Changed t.header old.row row

instance (t : Table) (rows : List Row) : Decidable (t.Ticked rows) :=
  decidable_of_iff
    ((rows.map Row.id).Nodup ∧ (∀ id ∈ rows.map Row.id, id ∈ t.events.ids) ∧
      (∀ id ∈ t.events.ids, id ∈ rows.map Row.id) ∧
      ∀ old ∈ t.events.toList, ∀ row ∈ rows, old.id = row.id → ¬ Row.Changed t.header old.row row)
    ⟨fun ⟨distinct, known, all, kept⟩ => ⟨distinct, fun id => ⟨known id, all id⟩, kept⟩,
      fun ⟨distinct, complete, kept⟩ => ⟨distinct, fun id => (complete id).mp, fun id => (complete id).mpr, kept⟩⟩

theorem event_of_ticked (t : Table) (rows : List Row) (row : Row) (indexed : t.events.Indexed)
    (ticked : t.Ticked rows) (given : row ∈ rows) : t.eventOf t.events row = .plain .unchanged row := by
  have retained := (ticked.complete row.id).mp (List.mem_map_of_mem given)
  obtain ⟨old, member, same⟩ := (RowEvents.mem_ids t.events row.id).mp retained
  rw [eventOf, (RowEvents.get_some t.events row.id old indexed).mpr ⟨member, same⟩]
  exact RowEvent.of_next_unchanged t.header old.row row (ticked.kept old member row given same)

theorem mem_update_ticked (t : Table) (rows : List Row) (indexed : t.events.Indexed) (ticked : t.Ticked rows)
    (e : RowEvent) : e ∈ (t.update rows).events.toList ↔ ∃ row ∈ rows, e = .plain .unchanged row := by
  rw [mem_update_distinct t rows indexed ticked.distinct]
  refine exists_congr fun row => and_congr_right fun given => ?_
  rw [event_of_ticked t rows row indexed ticked given]

theorem update_ids_ticked (t : Table) (rows : List Row) (indexed : t.events.Indexed) (ticked : t.Ticked rows) :
    (t.update rows).events.ids = t.events.ids := by
  have retained : (t.events.ids.filter fun id => decide (id ∈ rows.map Row.id)) = t.events.ids := by
    refine List.filter_eq_self.mpr fun id member => ?_
    simpa only [decide_eq_true_eq] using (ticked.complete id).mpr member
  have none : ((rows.map Row.id).eraseDups.filter fun id => decide (id ∉ t.events.ids)) = [] := by
    refine List.filter_eq_nil_iff.mpr fun id member => ?_
    simpa only [decide_eq_true_eq, not_not] using (ticked.complete id).mp (List.mem_eraseDups.mp member)
  rw [update_ids t rows indexed, retained, none, List.append_nil]

theorem mem_update_ids (t : Table) (rows : List Row) (indexed : t.events.Indexed) (id : String) :
    id ∈ (t.update rows).events.ids ↔ id ∈ rows.map Row.id := by
  rw [update_ids t rows indexed, List.mem_append, List.mem_filter, List.mem_filter, List.mem_eraseDups]
  simp only [decide_eq_true_eq]
  tauto

theorem mem_update_rows (t : Table) (rows : List Row) (indexed : t.events.Indexed)
    (distinct : (rows.map Row.id).Nodup) (row : Row) :
    row ∈ (t.update rows).events.toList.map RowEvent.row ↔ row ∈ rows := by
  simp only [List.mem_map, mem_update_distinct t rows indexed distinct]
  constructor
  · rintro ⟨e, ⟨given, member, rfl⟩, rfl⟩
    rwa [event_of_row]
  · exact fun member => ⟨t.eventOf t.events row, ⟨row, member, rfl⟩, event_of_row t t.events row⟩

theorem update_rows_perm (t : Table) (rows : List Row) (indexed : t.events.Indexed)
    (distinct : (rows.map Row.id).Nodup) : ((t.update rows).events.toList.map RowEvent.row).Perm rows := by
  have ids : (((t.update rows).events.toList.map RowEvent.row).map Row.id).Nodup := by
    rw [List.map_map]
    exact (update_indexed t rows indexed).distinct
  exact (List.perm_ext_iff_of_nodup (.of_map Row.id ids) (.of_map Row.id distinct)).mpr
    (mem_update_rows t rows indexed distinct)

theorem update_ticked (t : Table) (first second : List Row) (indexed : t.events.Indexed)
    (named : (first.map Row.id).Nodup) (renamed : (second.map Row.id).Nodup)
    (same : ∀ id, id ∈ first.map Row.id ↔ id ∈ second.map Row.id)
    (kept : ∀ old ∈ first, ∀ new ∈ second, old.id = new.id → ¬ Row.Changed t.header old new) :
    (t.update first).Ticked second := by
  refine ⟨renamed, fun id => ?_, fun old member row given alike => ?_⟩
  · rw [mem_update_ids t first indexed, same]
  · have stored := (mem_update_rows t first indexed named old.row).mp (List.mem_map_of_mem member)
    exact kept old.row stored row given alike

theorem update_settles (t : Table) (first second : List Row) (indexed : t.events.Indexed)
    (named : (first.map Row.id).Nodup) (renamed : (second.map Row.id).Nodup)
    (same : ∀ id, id ∈ first.map Row.id ↔ id ∈ second.map Row.id)
    (kept : ∀ old ∈ first, ∀ new ∈ second, old.id = new.id → ¬ Row.Changed t.header old new) :
    (∀ e ∈ ((t.update first).update second).events.toList,
        e.change = .unchanged ∧ e.delta = Delta.blank e.row.fields.length) ∧
      (((t.update first).update second).events.toList.map RowEvent.row).Perm second ∧
      ((t.update first).update second).events.ids = (t.update first).events.ids := by
  have again := update_indexed t first indexed
  have ticked := update_ticked t first second indexed named renamed same kept
  refine ⟨fun e member => ?_, update_rows_perm _ second again renamed, update_ids_ticked _ second again ticked⟩
  obtain ⟨row, _, rfl⟩ := (mem_update_ticked _ second again ticked e).mp member
  exact ⟨rfl, rfl⟩

def agedPods : Table :=
  ⟨[Column.named nameName, { name := ageName, time := true }],
    .ofList (["a", "b", "c"].map fun name => .plain .added ⟨name, [name, "1m"]⟩), "all"⟩

theorem aged_pods_indexed : agedPods.events.Indexed := by
  rw [agedPods, RowEvents.of_list_reindex]
  exact RowEvents.reindex_indexed _ (by decide)

def podsSeen : List Row := [⟨"d", ["d", "0s"]⟩, ⟨"c", ["x", "2m"]⟩, ⟨"a", ["a", "2m"]⟩]

def podsLater : List Row := [⟨"a", ["a", "3m"]⟩, ⟨"d", ["d", "1m"]⟩, ⟨"c", ["x", "3m"]⟩]

theorem aged_pods_settle :
    (∀ e ∈ ((agedPods.update podsSeen).update podsLater).events.toList,
        e.change = .unchanged ∧ e.delta = Delta.blank e.row.fields.length) ∧
      (((agedPods.update podsSeen).update podsLater).events.toList.map RowEvent.row).Perm podsLater ∧
      ((agedPods.update podsSeen).update podsLater).events.ids = ["a", "c", "d"] := by
  obtain ⟨unchanged, stored, placed⟩ := update_settles agedPods podsSeen podsLater aged_pods_indexed
    (by decide) (by decide) (fun id => by simp only [podsSeen, podsLater, List.map, List.mem_cons]; tauto) (by decide)
  exact ⟨unchanged, stored, placed.trans (by decide)⟩

end Table

end LiveTable
