import LiveTable.Table.RowEvents
import Mathlib.Data.List.Induction
import Mathlib.Data.List.Nodup

namespace LiveTable

namespace PlaceIndex

theorem find_erase_other (index : PlaceIndex) (id query : String) (other : query ≠ id) :
    (index.erase id).find? query = index.find? query := by
  induction index with
  | nil => rfl
  | cons entry rest ih =>
      obtain ⟨key, place⟩ := entry
      simp only [erase, find?] at ih ⊢
      by_cases erased : key = id
      · have passed : (key == query) = false := by simp [erased, Ne.symm other]
        simpa [erased, List.find?_cons, passed, Ne.symm other] using ih
      · rw [List.filter_cons_of_pos (by simpa using erased), List.find?_cons, List.find?_cons]
        split
        · rfl
        · exact ih

theorem find_insert (index : PlaceIndex) (id query : String) (place : Nat) :
    (index.insert id place).find? query = if query = id then some place else index.find? query := by
  by_cases same : query = id
  · simp [insert, find?, same]
  · rw [if_neg same, ← find_erase_other index id query same]
    simp [insert, find?, Ne.symm same]

theorem of_ids_append (ids : List String) (id : String) :
    ofIds (ids ++ [id]) = (ofIds ids).insert id ids.length := by
  simp [ofIds, List.zipIdx_append]

end PlaceIndex

namespace RowEvents

-- The representation invariant: identities are distinct, and the index gives the place of each and
-- nothing else. Every operation on tables keeps it, so no table without it can be made.
structure Indexed (es : RowEvents) : Prop where
  distinct : es.ids.Nodup
  exact : ∀ id place, es.findIndex? id = some place ↔ (es.at? place).map RowEvent.id = some id

theorem ids_at (es : RowEvents) (place : Nat) : es.ids[place]? = (es.at? place).map RowEvent.id := by
  simp [ids, at?]

theorem place_inside (es : RowEvents) (place : Nat) (id : String)
    (held : (es.at? place).map RowEvent.id = some id) : place < es.size := by
  obtain ⟨e, read, _⟩ := Option.map_eq_some_iff.mp held
  exact (List.getElem?_eq_some_iff.mp read).1

theorem mem_ids (es : RowEvents) (id : String) : id ∈ es.ids ↔ ∃ e ∈ es.toList, e.id = id := by
  simp [ids]

theorem indexed_empty : empty.Indexed :=
  ⟨List.nodup_nil, by simp [findIndex?, PlaceIndex.find?, at?, empty]⟩

theorem add_ids (es : RowEvents) (e : RowEvent) : (es.add e).ids = es.ids ++ [e.id] := by
  simp [ids, add]

theorem append_fresh_get (ids : List String) (id query : String) (place : Nat) (fresh : id ∉ ids) :
    (ids ++ [id])[place]? = some query ↔
      if query = id then ids.length = place else ids[place]? = some query := by
  rw [List.getElem?_append]
  by_cases inside : place < ids.length
  · rw [if_pos inside]
    split
    · rename_i same
      have absent : ids[place]? ≠ some query := fun found => fresh (same ▸ List.mem_of_getElem? found)
      simp only [absent, false_iff]
      omega
    · rfl
  · rw [if_neg inside, List.getElem?_singleton, List.getElem?_eq_none (Nat.le_of_not_lt inside)]
    by_cases last : place - ids.length = 0
    · have reached : ids.length = place := by omega
      simp [reached, eq_comm]
    · have passed : ids.length ≠ place := by omega
      simp [last, passed]

theorem add_indexed (es : RowEvents) (e : RowEvent) (indexed : es.Indexed) (fresh : e.id ∉ es.ids) :
    (es.add e).Indexed := by
  refine ⟨?_, fun id place => ?_⟩
  · rw [add_ids, List.nodup_append]
    refine ⟨indexed.distinct, List.nodup_singleton _, ?_⟩
    rintro a member b last rfl
    exact fresh (List.mem_singleton.mp last ▸ member)
  · have size : es.ids.length = es.size := List.length_map RowEvent.id
    rw [← ids_at, add_ids, append_fresh_get es.ids e.id id place fresh, findIndex?, add,
      PlaceIndex.find_insert, size, ids_at]
    split
    · exact Option.some_inj
    · exact indexed.exact id place

theorem set_ids (es : RowEvents) (place : Nat) (e : RowEvent)
    (held : (es.at? place).map RowEvent.id = some e.id) : (es.set place e).ids = es.ids := by
  have inside := place_inside es place e.id held
  rw [← ids_at] at held
  obtain ⟨bound, same⟩ := List.getElem?_eq_some_iff.mp held
  rw [set, if_pos inside]
  calc (es.toList.set place e).map RowEvent.id
    _ = es.ids.set place e.id := List.map_set
    _ = es.ids.set place es.ids[place] := by rw [same]
    _ = es.ids := List.set_getElem_self bound

theorem set_indexed (es : RowEvents) (place : Nat) (e : RowEvent) (indexed : es.Indexed)
    (held : (es.at? place).map RowEvent.id = some e.id) : (es.set place e).Indexed := by
  have inside := place_inside es place e.id held
  refine ⟨set_ids es place e held ▸ indexed.distinct, fun id i => ?_⟩
  rw [← ids_at, set_ids es place e held, ids_at, ← indexed.exact]
  have kept : (es.set place e).findIndex? id = es.findIndex? id := by
    rw [set, if_pos inside, findIndex?, PlaceIndex.find_insert]
    by_cases same : id = e.id
    · rw [if_pos same, same]
      exact ((indexed.exact e.id place).mpr held).symm
    · rw [if_neg same, findIndex?]
  rw [kept]

theorem reindex_append (events : List RowEvent) (e : RowEvent) :
    reindex (events ++ [e]) = (reindex events).add e := by
  simp [reindex, add, size, PlaceIndex.of_ids_append]

theorem reindex_indexed (events : List RowEvent) (distinct : (events.map RowEvent.id).Nodup) :
    (reindex events).Indexed := by
  induction events using List.reverseRecOn with
  | nil => exact indexed_empty
  | append_singleton events e ih =>
      rw [List.map_append, List.nodup_append] at distinct
      rw [reindex_append]
      refine add_indexed _ e (ih distinct.1) fun member => ?_
      exact distinct.2.2 e.id member e.id (by simp) rfl

theorem of_list_reindex (events : List RowEvent) : ofList events = reindex events := by
  induction events using List.reverseRecOn with
  | nil => rfl
  | append_singleton events e ih =>
      rw [reindex_append, ← ih, ofList, ofList, List.foldl_append]
      rfl

theorem sublist_indexed (es : RowEvents) (events : List RowEvent) (indexed : es.Indexed)
    (sub : events.Sublist es.toList) : (reindex events).Indexed :=
  reindex_indexed events (indexed.distinct.sublist (sub.map RowEvent.id))

theorem find_index_none (es : RowEvents) (id : String) (indexed : es.Indexed) :
    es.findIndex? id = none ↔ id ∉ es.ids := by
  rw [Option.eq_none_iff_forall_ne_some, List.mem_iff_getElem?, not_exists]
  refine forall_congr' fun place => ?_
  rw [ids_at, ← indexed.exact]

theorem get_some (es : RowEvents) (id : String) (e : RowEvent) (indexed : es.Indexed) :
    es.get? id = some e ↔ e ∈ es.toList ∧ e.id = id := by
  rw [get?, Option.bind_eq_some_iff]
  constructor
  · rintro ⟨place, found, read⟩
    have held := (indexed.exact id place).mp found
    rw [read, Option.map_some, Option.some.injEq] at held
    exact ⟨List.mem_of_getElem? read, held⟩
  · rintro ⟨member, same⟩
    obtain ⟨place, read⟩ := List.mem_iff_getElem?.mp member
    have held : (es.at? place).map RowEvent.id = some id := by
      rw [at?, read, Option.map_some, same]
    exact ⟨place, (indexed.exact id place).mpr held, read⟩

theorem get_none (es : RowEvents) (id : String) (indexed : es.Indexed) :
    es.get? id = none ↔ id ∉ es.ids := by
  rw [Option.eq_none_iff_forall_ne_some, mem_ids]
  simp only [ne_eq, get_some es id _ indexed, not_exists]

end RowEvents

end LiveTable
