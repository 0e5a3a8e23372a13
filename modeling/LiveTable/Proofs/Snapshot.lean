import LiveTable.Proofs.Index

namespace LiveTable

namespace RowEvents

theorem upsert_absent (es : RowEvents) (e : RowEvent) (indexed : es.Indexed) (absent : e.id ∉ es.ids) :
    es.upsert e = es.add e := by
  rw [upsert, (find_index_none es e.id indexed).mpr absent]

theorem upsert_present (es : RowEvents) (e : RowEvent) (indexed : es.Indexed) (present : e.id ∈ es.ids) :
    ∃ place, (es.at? place).map RowEvent.id = some e.id ∧ es.upsert e = es.set place e := by
  obtain ⟨place, read⟩ := List.mem_iff_getElem?.mp present
  rw [ids_at] at read
  refine ⟨place, read, ?_⟩
  rw [upsert, (indexed.exact e.id place).mpr read]

theorem upsert_indexed (es : RowEvents) (e : RowEvent) (indexed : es.Indexed) : (es.upsert e).Indexed := by
  by_cases present : e.id ∈ es.ids
  · obtain ⟨place, held, result⟩ := upsert_present es e indexed present
    exact result ▸ set_indexed es place e indexed held
  · exact upsert_absent es e indexed present ▸ add_indexed es e indexed present

theorem upsert_ids (es : RowEvents) (e : RowEvent) (indexed : es.Indexed) :
    (es.upsert e).ids = if e.id ∈ es.ids then es.ids else es.ids ++ [e.id] := by
  by_cases present : e.id ∈ es.ids
  · obtain ⟨place, held, result⟩ := upsert_present es e indexed present
    rw [if_pos present, result, set_ids es place e held]
  · rw [if_neg present, upsert_absent es e indexed present, add_ids]

theorem mem_set (es : RowEvents) (place : Nat) (e f : RowEvent) (indexed : es.Indexed)
    (held : (es.at? place).map RowEvent.id = some e.id) :
    f ∈ (es.set place e).toList ↔ f = e ∨ f ∈ es.toList ∧ f.id ≠ e.id := by
  have inside := place_inside es place e.id held
  have bound : place < es.toList.length := inside
  rw [set, if_pos inside, List.mem_iff_getElem?]
  constructor
  · rintro ⟨i, read⟩
    rw [List.getElem?_set] at read
    by_cases hit : place = i
    · rw [if_pos hit, if_pos bound] at read
      exact .inl (Option.some.inj read).symm
    · rw [if_neg hit] at read
      refine .inr ⟨List.mem_of_getElem? read, fun same => hit ?_⟩
      have also : (es.at? i).map RowEvent.id = some e.id := by rw [at?, read, Option.map_some, same]
      exact Option.some.inj (((indexed.exact e.id place).mpr held).symm.trans ((indexed.exact e.id i).mpr also))
  · rintro (rfl | ⟨member, other⟩)
    · exact ⟨place, List.getElem?_set_self bound⟩
    · obtain ⟨i, read⟩ := List.mem_iff_getElem?.mp member
      have miss : place ≠ i := by
        rintro rfl
        rw [at?, read, Option.map_some, Option.some.injEq] at held
        exact other held
      exact ⟨i, by rw [List.getElem?_set_ne miss, read]⟩

theorem mem_upsert (es : RowEvents) (e f : RowEvent) (indexed : es.Indexed) :
    f ∈ (es.upsert e).toList ↔ f = e ∨ f ∈ es.toList ∧ f.id ≠ e.id := by
  by_cases present : e.id ∈ es.ids
  · obtain ⟨place, held, result⟩ := upsert_present es e indexed present
    rw [result, mem_set es place e f indexed held]
  · have other (member : f ∈ es.toList) : f.id ≠ e.id := fun same =>
      present ((mem_ids es e.id).mpr ⟨f, member, same⟩)
    rw [upsert_absent es e indexed present, add, List.mem_append, List.mem_singleton]
    constructor
    · rintro (member | rfl)
      · exact .inr ⟨member, other member⟩
      · exact .inl rfl
    · rintro (rfl | ⟨member, _⟩)
      · exact .inr rfl
      · exact .inl member

theorem get_upsert_other (es : RowEvents) (e : RowEvent) (id : String) (indexed : es.Indexed)
    (other : id ≠ e.id) : (es.upsert e).get? id = es.get? id := by
  ext f
  rw [get_some _ id f (upsert_indexed es e indexed), get_some es id f indexed, mem_upsert es e f indexed]
  constructor
  · rintro ⟨rfl | ⟨member, _⟩, same⟩
    · exact absurd same.symm other
    · exact ⟨member, same⟩
  · rintro ⟨member, rfl⟩
    exact ⟨.inr ⟨member, other⟩, rfl⟩

-- Every row becomes an event, which may depend on the events so far. What the source does once for the
-- first snapshot and once for all others is this with two different events.
def takeOver (event : RowEvents → Row → RowEvent) (es : RowEvents) (rows : List Row) : RowEvents :=
  rows.foldl (fun es row => es.upsert (event es row)) es

variable (event : RowEvents → Row → RowEvent) (es : RowEvents) (rows : List Row)

theorem take_over_append (row : Row) :
    takeOver event es (rows ++ [row]) =
      (takeOver event es rows).upsert (event (takeOver event es rows) row) := by
  simp only [takeOver, List.foldl_append, List.foldl_cons, List.foldl_nil]

theorem take_over_new (distinct : (rows.map Row.id).Nodup) :
    takeOver (fun _ row => .plain .added row) empty rows = reindex (rows.map (.plain .added)) := by
  induction rows using List.reverseRecOn with
  | nil => rfl
  | append_singleton rows row ih =>
      rw [List.map_append, List.nodup_append] at distinct
      have named : (reindex (rows.map (RowEvent.plain .added))).ids = rows.map Row.id := List.map_map
      have indexed : (reindex (rows.map (RowEvent.plain .added))).Indexed :=
        reindex_indexed _ (named.symm ▸ distinct.1 : (reindex (rows.map (RowEvent.plain .added))).ids.Nodup)
      have absent : (RowEvent.plain .added row).id ∉ (reindex (rows.map (RowEvent.plain .added))).ids := by
        rw [named]
        exact fun member => distinct.2.2 row.id member row.id (by simp) rfl
      rw [take_over_append, ih distinct.1, upsert_absent _ _ indexed absent, List.map_append, List.map_singleton,
        reindex_append]

theorem take_over_indexed (indexed : es.Indexed) : (takeOver event es rows).Indexed := by
  induction rows using List.reverseRecOn with
  | nil => exact indexed
  | append_singleton rows row ih =>
      rw [take_over_append]
      exact upsert_indexed _ _ ih

theorem upsert_forall (p : RowEvent → Prop) (es : RowEvents) (e : RowEvent) (before : ∀ f ∈ es.toList, p f)
    (made : p e) : ∀ f ∈ (es.upsert e).toList, p f := by
  have added : ∀ f ∈ (es.add e).toList, p f := by
    intro f member
    rcases List.mem_append.mp member with earlier | last
    · exact before f earlier
    · exact List.mem_singleton.mp last ▸ made
  unfold upsert
  split
  · unfold set
    split
    · intro f member
      rcases List.mem_or_eq_of_mem_set member with earlier | rfl
      · exact before f earlier
      · exact made
    · exact added
  · exact added

theorem take_over_forall (p : RowEvent → Prop) (before : ∀ e ∈ es.toList, p e)
    (made : ∀ es row, p (event es row)) : ∀ e ∈ (takeOver event es rows).toList, p e := by
  induction rows using List.reverseRecOn with
  | nil => exact before
  | append_singleton rows row ih =>
      rw [take_over_append]
      exact upsert_forall p _ _ ih (made _ row)

theorem erase_dups_append (ids : List String) (id : String) :
    (ids ++ [id]).eraseDups = if id ∈ ids then ids.eraseDups else ids.eraseDups ++ [id] := by
  rw [List.eraseDups_append]
  by_cases repeated : id ∈ ids <;> simp [List.removeAll, repeated, List.eraseDups_cons]

theorem take_over_ids (indexed : es.Indexed) (faithful : ∀ es row, (event es row).row = row) :
    (takeOver event es rows).ids =
      es.ids ++ (rows.map Row.id).eraseDups.filter fun id => decide (id ∉ es.ids) := by
  induction rows using List.reverseRecOn with
  | nil => simp [takeOver]
  | append_singleton rows row ih =>
      have named : (event (takeOver event es rows) row).id = row.id := congrArg Row.id (faithful _ row)
      rw [take_over_append, upsert_ids _ _ (take_over_indexed event es rows indexed), named, ih,
        List.map_append, List.map_singleton, erase_dups_append]
      by_cases retained : row.id ∈ es.ids
      · rw [if_pos (List.mem_append_left _ retained)]
        split
        · rfl
        · simp [retained]
      · by_cases repeated : row.id ∈ rows.map Row.id
        · have present : row.id ∈ (rows.map Row.id).eraseDups.filter fun id => decide (id ∉ es.ids) :=
            List.mem_filter.mpr ⟨List.mem_eraseDups.mpr repeated, by simpa using retained⟩
          rw [if_pos (List.mem_append_right _ present), if_pos repeated]
        · rw [if_neg repeated, if_neg, List.filter_append, List.append_assoc]
          · simp [retained]
          · rw [List.mem_append, List.mem_filter, List.mem_eraseDups]
            tauto

theorem take_over_last (indexed : es.Indexed) (faithful : ∀ es row, (event es row).row = row)
    (e : RowEvent) (member : e ∈ (takeOver event es rows).toList) :
    (rows.filter fun row => row.id = e.id).getLast? = some e.row ∨
      e ∈ es.toList ∧ e.id ∉ rows.map Row.id := by
  induction rows using List.reverseRecOn with
  | nil => exact .inr ⟨member, List.not_mem_nil⟩
  | append_singleton rows row ih =>
      rw [take_over_append, mem_upsert _ _ _ (take_over_indexed event es rows indexed)] at member
      have named : (event (takeOver event es rows) row).id = row.id := congrArg Row.id (faithful _ row)
      rcases member with rfl | ⟨earlier, other⟩
      · left
        simp [List.filter_append, named, faithful]
      · rw [named] at other
        rw [List.filter_append, List.filter_cons_of_neg (by simpa using Ne.symm other), List.filter_nil,
          List.append_nil]
        refine (ih earlier).imp_right fun ⟨before, missing⟩ => ⟨before, ?_⟩
        simpa [other] using missing

theorem get_take_over_other (indexed : es.Indexed) (faithful : ∀ es row, (event es row).row = row)
    (id : String) (missing : id ∉ rows.map Row.id) : (takeOver event es rows).get? id = es.get? id := by
  induction rows using List.reverseRecOn with
  | nil => rfl
  | append_singleton rows row ih =>
      rw [List.map_append, List.mem_append, not_or] at missing
      have other : id ≠ (event (takeOver event es rows) row).id := by
        rw [RowEvent.id, faithful]
        exact fun same => missing.2 (List.mem_singleton.mpr same)
      rw [take_over_append, get_upsert_other _ _ id (take_over_indexed event es rows indexed) other,
        ih missing.1]

theorem mem_take_over (indexed : es.Indexed) (faithful : ∀ es row, (event es row).row = row)
    (within : ∀ es fs row, es.get? row.id = fs.get? row.id → event es row = event fs row)
    (distinct : (rows.map Row.id).Nodup) (e : RowEvent) :
    e ∈ (takeOver event es rows).toList ↔
      (∃ row ∈ rows, e = event es row) ∨ e ∈ es.toList ∧ e.id ∉ rows.map Row.id := by
  induction rows using List.reverseRecOn with
  | nil => simp [takeOver]
  | append_singleton rows row ih =>
      rw [List.map_append, List.nodup_append] at distinct
      have fresh : row.id ∉ rows.map Row.id := fun member =>
        distinct.2.2 row.id member row.id (by simp) rfl
      -- No row before it has its identity, so the row meets the events as they were at the start.
      have made : event (takeOver event es rows) row = event es row :=
        within _ _ row (get_take_over_other event es rows indexed faithful row.id fresh)
      have named (row : Row) : (event es row).id = row.id := congrArg Row.id (faithful es row)
      rw [take_over_append, made, mem_upsert _ _ e (take_over_indexed event es rows indexed),
        ih distinct.1, named]
      constructor
      · rintro (rfl | ⟨⟨earlier, member, rfl⟩ | ⟨member, missing⟩, other⟩)
        · exact .inl ⟨row, by simp, rfl⟩
        · exact .inl ⟨earlier, by simp [member], rfl⟩
        · exact .inr ⟨member, by simpa [other] using missing⟩
      · rintro (⟨arrived, member, rfl⟩ | ⟨member, missing⟩)
        · rcases List.mem_append.mp member with earlier | last
          · have other : arrived.id ≠ row.id := fun same => fresh (same ▸ List.mem_map_of_mem earlier)
            exact .inr ⟨.inl ⟨arrived, earlier, rfl⟩, by rwa [named]⟩
          · exact .inl (by rw [List.mem_singleton.mp last])
        · rw [List.map_append, List.mem_append, not_or] at missing
          exact .inr ⟨.inr ⟨member, missing.1⟩, by simpa using missing.2⟩

theorem retain_list (ids : List String) :
    (es.retain ids).toList = es.toList.filter fun e => ids.contains e.id := by
  rw [retain]
  split
  · rename_i same
    rw [size, List.length_filter_eq_length_iff] at same
    exact (List.filter_eq_self.mpr same).symm
  · rfl

theorem retain_indexed (ids : List String) (indexed : es.Indexed) : (es.retain ids).Indexed := by
  rw [retain]
  split
  · exact indexed
  · exact sublist_indexed es _ indexed List.filter_sublist

theorem retain_ids (ids : List String) :
    (es.retain ids).ids = es.ids.filter fun id => ids.contains id := by
  rw [RowEvents.ids, retain_list, RowEvents.ids, List.filter_map]
  rfl

end RowEvents

end LiveTable
