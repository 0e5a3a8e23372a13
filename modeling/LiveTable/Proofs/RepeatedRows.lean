import LiveTable.Proofs.Settling

namespace LiveTable

namespace Row

def versions (rows : List Row) (id : String) : List Row := rows.filter fun row => row.id = id

def last? (rows : List Row) (id : String) : Option Row := (versions rows id).getLast?

def earlier? (rows : List Row) (id : String) : Option Row := (versions rows id).dropLast.getLast?

-- Each identity once, where it occurs first, with the row that it has last.
def collapse (rows : List Row) : List Row := (rows.map Row.id).eraseDups.filterMap (last? rows)

theorem last_append (rows : List Row) (row : Row) (id : String) :
    last? (rows ++ [row]) id = if row.id = id then some row else last? rows id := by
  by_cases same : row.id = id <;> simp [last?, versions, List.filter_append, same]

theorem earlier_append (rows : List Row) (row : Row) (id : String) :
    earlier? (rows ++ [row]) id = if row.id = id then last? rows id else earlier? rows id := by
  by_cases same : row.id = id <;> simp [earlier?, last?, versions, List.filter_append, same]

theorem last_id {rows : List Row} {id : String} {row : Row} (last : last? rows id = some row) : row.id = id := by
  have member := List.mem_of_getLast? last
  simpa using (List.mem_filter.mp member).2

theorem last_member {rows : List Row} {id : String} {row : Row} (last : last? rows id = some row) : row ∈ rows :=
  (List.mem_filter.mp (List.mem_of_getLast? last)).1

theorem last_exists {rows : List Row} {id : String} (given : id ∈ rows.map Row.id) :
    ∃ row, last? rows id = some row := by
  obtain ⟨row, member, same⟩ := List.mem_map.mp given
  have some : versions rows id ≠ [] := List.ne_nil_of_mem (List.mem_filter.mpr ⟨member, by simpa using same⟩)
  exact ⟨_, List.getLast?_eq_some_getLast some⟩

theorem mem_collapse (rows : List Row) (row : Row) : row ∈ collapse rows ↔ last? rows row.id = some row := by
  simp only [collapse, List.mem_filterMap, List.mem_eraseDups]
  constructor
  · rintro ⟨id, _, last⟩
    rwa [last_id last]
  · exact fun last => ⟨row.id, List.mem_map_of_mem (last_member last), last⟩

theorem collapse_ids (rows : List Row) : (collapse rows).map Row.id = (rows.map Row.id).eraseDups := by
  have named : ∀ id ∈ (rows.map Row.id).eraseDups, (last? rows id).map Row.id = some id := by
    intro id member
    obtain ⟨row, last⟩ := last_exists (List.mem_eraseDups.mp member)
    rw [last, Option.map_some, last_id last]
  rw [collapse, List.map_filterMap, List.filterMap_congr named, List.filterMap_some]

theorem erase_dups_distinct (ids : List String) : ids.eraseDups.Nodup := by
  induction ids using List.reverseRecOn with
  | nil => exact List.nodup_nil
  | append_singleton ids id ih =>
      rw [RowEvents.erase_dups_append]
      by_cases repeated : id ∈ ids
      · rwa [if_pos repeated]
      · rw [if_neg repeated, ← List.concat_eq_append]
        exact ih.concat (mt List.mem_eraseDups.mp repeated)

theorem erase_dups_kept {ids : List String} (distinct : ids.Nodup) : ids.eraseDups = ids := by
  induction ids using List.reverseRecOn with
  | nil => rfl
  | append_singleton ids id ih =>
      rw [← List.concat_eq_append, List.nodup_concat] at distinct
      rw [RowEvents.erase_dups_append, if_neg distinct.1, ih distinct.2]

theorem collapse_distinct (rows : List Row) : ((collapse rows).map Row.id).Nodup := by
  rw [collapse_ids]
  exact erase_dups_distinct _

theorem last_collapse (rows : List Row) (id : String) : last? (collapse rows) id = last? rows id := by
  cases found : last? (collapse rows) id with
  | some row =>
      have last := (mem_collapse rows row).mp (last_member found)
      rw [last_id found] at last
      exact last.symm
  | none =>
      cases other : last? rows id with
      | none => rfl
      | some row =>
          have given : id ∈ (collapse rows).map Row.id := by
            rw [collapse_ids, List.mem_eraseDups, ← last_id other]
            exact List.mem_map_of_mem (last_member other)
          obtain ⟨row, last⟩ := last_exists given
          rw [found] at last
          cases last

end Row

theorem Delta.between_blanked (h : Header) (old row : Row) (blank : (Delta.between old row h).isBlank = true) :
    Delta.between old row h = Delta.blank row.fields.length := by
  have empty : ∀ cell ∈ Delta.between old row h, cell = "" := by
    intro cell member
    simpa using List.all_eq_true.mp blank cell member
  have size : (Delta.between old row h).length = row.fields.length := by
    rw [between, List.length_map, List.length_range]
  rw [Delta.blank, ← size]
  exact List.eq_replicate_of_mem empty

theorem RowEvent.of_next_delta (h : Header) (old row : Row) :
    (RowEvent.ofNext h old row).delta = Delta.between old row h := by
  by_cases blank : (Delta.between old row h).isBlank = true
  · rw [ofNext, if_pos blank, Delta.between_blanked h old row blank, plain]
  · rw [ofNext, if_neg blank]

theorem RowEvent.of_next_alike (h : Header) (old earlier row : Row) :
    RowEvent.ofNext h earlier row = RowEvent.ofNext h old row ↔
      Delta.between earlier row h = Delta.between old row h := by
  constructor
  · intro same
    rw [← of_next_delta, ← of_next_delta, same]
  · intro same
    rw [ofNext, ofNext, same]

theorem RowEvent.of_next_not_added (h : Header) (old row : Row) : RowEvent.ofNext h old row ≠ .plain .added row := by
  intro same
  rcases of_next_change h old row with ⟨change, _⟩ | ⟨change, _⟩ <;> simp [same, plain] at change

namespace RowEvents

theorem get_upsert_own (es : RowEvents) (e : RowEvent) (indexed : es.Indexed) : (es.upsert e).get? e.id = some e :=
  (get_some _ e.id e (upsert_indexed es e indexed)).mpr ⟨(mem_upsert es e e indexed).mpr (.inl rfl), rfl⟩

def known? (es : RowEvents) (id : String) : Option Row := (es.get? id).map RowEvent.row

variable (event : Option Row → Row → RowEvent) (faithful : ∀ known row, (event known row).row = row)

def compareOver (es : RowEvents) (rows : List Row) : RowEvents :=
  es.takeOver (fun es row => event (es.known? row.id) row) rows

theorem compare_over_indexed (es : RowEvents) (rows : List Row) (indexed : es.Indexed) :
    (es.compareOver event rows).Indexed := take_over_indexed _ es rows indexed

include faithful

theorem get_compare_over (es : RowEvents) (rows : List Row) (indexed : es.Indexed) (id : String) :
    (es.compareOver event rows).get? id =
      match Row.last? rows id with
      | some last => some (event ((Row.earlier? rows id).or (es.known? id)) last)
      | none => es.get? id := by
  induction rows using List.reverseRecOn with
  | nil => rfl
  | append_singleton rows row ih =>
      have before := compare_over_indexed event es rows indexed
      have step : es.compareOver event (rows ++ [row]) = (es.compareOver event rows).upsert
          (event ((es.compareOver event rows).known? row.id) row) := take_over_append _ es rows row
      have named : (event ((es.compareOver event rows).known? row.id) row).id = row.id :=
        congrArg Row.id (faithful _ row)
      rw [step, Row.last_append, Row.earlier_append]
      by_cases same : row.id = id
      · have known : (es.compareOver event rows).known? id = (Row.last? rows id).or (es.known? id) := by
          rw [known?, ih]
          cases Row.last? rows id with
          | none => rfl
          | some last => rw [Option.map_some, faithful, Option.some_or]
        have own := get_upsert_own _ (event ((es.compareOver event rows).known? row.id) row) before
        rw [named, same, known] at own
        rw [if_pos same, if_pos same, same, known, own]
      · rw [if_neg same, if_neg same, get_upsert_other _ _ id before (named.symm ▸ Ne.symm same), ih]

end RowEvents

namespace Table

def compared (t : Table) (known : Option Row) (row : Row) : RowEvent :=
  if t.events.isEmpty then .plain .added row
  else
    match known with
    | none => .plain .added row
    | some old => .ofNext t.header old row

theorem arrival_compared (t : Table) (es : RowEvents) (row : Row) :
    t.arrival es row = t.compared (es.known? row.id) row := by
  unfold arrival compared eventOf RowEvents.known?
  cases es.get? row.id <;> rfl

theorem compared_row (t : Table) (known : Option Row) (row : Row) : (t.compared known row).row = row := by
  unfold compared
  split
  · rfl
  · cases known with
    | none => rfl
    | some old => exact of_next_row t.header old row

theorem start_compared (t : Table) (row : Row) :
    t.eventOf t.events row = t.compared (t.events.known? row.id) row := by
  rw [← arrival_start, arrival_compared]

-- What a snapshot tells of a row: it is compared with the one before it in the snapshot, if there is one.
def told (t : Table) (rows : List Row) (row : Row) : RowEvent :=
  t.compared ((Row.earlier? rows row.id).or (t.events.known? row.id)) row

theorem told_alike (t : Table) (rows : List Row) (row : Row) (indexed : t.events.Indexed) :
    t.told rows row = t.eventOf t.events row ↔
      t.events.isEmpty = true ∨ ∀ earlier ∈ Row.earlier? rows row.id, ∃ old ∈ t.events.toList, old.id = row.id ∧
        Delta.between earlier row t.header = Delta.between old.row row t.header := by
  rw [told, start_compared]
  cases Row.earlier? rows row.id with
  | none => simp
  | some earlier =>
      rw [Option.some_or]
      by_cases first : t.events.isEmpty = true
      · simp [compared, first]
      · cases found : t.events.get? row.id with
        | none =>
            have absent := (RowEvents.get_none t.events row.id indexed).mp found
            have missing : ¬ ∃ old ∈ t.events.toList, old.id = row.id ∧
                Delta.between earlier row t.header = Delta.between old.row row t.header := by
              rintro ⟨old, member, same, _⟩
              exact absent ((RowEvents.mem_ids _ _).mpr ⟨old, member, same⟩)
            have apart := RowEvent.of_next_not_added t.header earlier row
            simpa [compared, first, RowEvents.known?, found, apart] using missing
        | some old =>
            obtain ⟨member, same⟩ := (RowEvents.get_some t.events row.id old indexed).mp found
            have only := retained_iff t indexed old member fun known =>
              Delta.between earlier row t.header = Delta.between known row t.header
            rw [same] at only
            simp [compared, first, RowEvents.known?, found, only, RowEvent.of_next_alike]

theorem update_told (t : Table) (rows : List Row) (indexed : t.events.Indexed) (e : RowEvent)
    (member : e ∈ (t.update rows).events.toList) : e = t.told rows e.row := by
  have merged : t.events.takeOver t.arrival rows = t.events.compareOver t.compared rows := by
    rw [RowEvents.compareOver, funext₂ t.arrival_compared]
  have last : Row.last? rows e.id = some e.row := update_last t rows indexed e member
  have kept := ((mem_update t rows e).mp member).1
  rw [merged] at kept
  have stored := RowEvents.compare_over_indexed t.compared t.events rows indexed
  have read := (RowEvents.get_some _ e.id e stored).mpr ⟨kept, rfl⟩
  rw [RowEvents.get_compare_over t.compared t.compared_row t.events rows indexed, last, Option.some.injEq] at read
  exact read.symm

theorem update_told_distinct (t : Table) (rows : List Row) (indexed : t.events.Indexed)
    (distinct : (rows.map Row.id).Nodup) (e : RowEvent) (member : e ∈ (t.update rows).events.toList) :
    e = t.eventOf t.events e.row := by
  obtain ⟨row, _, rfl⟩ := (mem_update_distinct t rows indexed distinct e).mp member
  rw [event_of_row]

theorem update_rows (t : Table) (rows : List Row) (indexed : t.events.Indexed) :
    (t.update rows).events.toList.map RowEvent.row = (t.update rows).events.ids.filterMap (Row.last? rows) := by
  have last : ∀ e ∈ (t.update rows).events.toList, Row.last? rows e.id = some e.row := update_last t rows indexed
  rw [RowEvents.ids, List.filterMap_map, ← List.filterMap_eq_map]
  exact (List.filterMap_congr last).symm

theorem update_collapsed_ids (t : Table) (rows : List Row) (indexed : t.events.Indexed) :
    (t.update rows).events.ids = (t.update (Row.collapse rows)).events.ids := by
  rw [update_ids t rows indexed, update_ids t _ indexed, Row.collapse_ids,
    Row.erase_dups_kept (Row.erase_dups_distinct _)]
  simp only [List.mem_eraseDups]

theorem update_collapsed_rows (t : Table) (rows : List Row) (indexed : t.events.Indexed) :
    (t.update rows).events.toList.map RowEvent.row = (t.update (Row.collapse rows)).events.toList.map RowEvent.row := by
  rw [update_rows t rows indexed, update_rows t _ indexed, update_collapsed_ids t rows indexed]
  exact List.filterMap_congr fun id _ => (Row.last_collapse rows id).symm

theorem by_rows (es : RowEvents) (told : Row → RowEvent) (each : ∀ e ∈ es.toList, e = told e.row) :
    es.toList = (es.toList.map RowEvent.row).map told := by
  rw [List.map_map]
  conv_lhs => rw [← List.map_id es.toList]
  exact List.map_congr_left each

/-- Several rows of one identity take the place of the first of them and leave the last, as this one alone would. But
the events are the same just where they tell the same: the first snapshot tells of new rows only, and in any other a
row that has come before must differ from its last rendition as it does from the retained row. -/
theorem repeats_collapse (t : Table) (rows : List Row) (indexed : t.events.Indexed) :
    (t.update rows).events.ids = (t.update (Row.collapse rows)).events.ids ∧
      (t.update rows).events.toList.map RowEvent.row = (t.update (Row.collapse rows)).events.toList.map RowEvent.row ∧
      ((t.update rows).events.toList = (t.update (Row.collapse rows)).events.toList ↔
        t.events.isEmpty = true ∨ ∀ row ∈ Row.collapse rows, ∀ earlier ∈ Row.earlier? rows row.id,
          ∃ old ∈ t.events.toList, old.id = row.id ∧
            Delta.between earlier row t.header = Delta.between old.row row t.header) := by
  have alone := Row.collapse_distinct rows
  have rows_alike := update_collapsed_rows t rows indexed
  have stored := mem_update_rows t (Row.collapse rows) indexed alone
  have events := by_rows _ _ (update_told t rows indexed)
  have events_alone := by_rows _ _ (update_told_distinct t (Row.collapse rows) indexed alone)
  refine ⟨update_collapsed_ids t rows indexed, rows_alike, ?_⟩
  calc ((t.update rows).events.toList = (t.update (Row.collapse rows)).events.toList)
      ↔ ∀ row ∈ Row.collapse rows, t.told rows row = t.eventOf t.events row := by
        rw [events, events_alone, rows_alike, List.map_inj_left]
        simp only [stored]
    _ ↔ _ := by
        simp only [told_alike t rows _ indexed]
        by_cases first : t.events.isEmpty = true <;> simp [first]

theorem repeated_pod_collapses :
    threePods.events.Indexed ∧
      (threePods.update [⟨"a", ["a"]⟩, ⟨"d", ["d"]⟩, ⟨"a", ["x"]⟩]).events.toList =
        (threePods.update (Row.collapse [⟨"a", ["a"]⟩, ⟨"d", ["d"]⟩, ⟨"a", ["x"]⟩])).events.toList :=
  ⟨three_pods_indexed, (repeats_collapse threePods _ three_pods_indexed).2.2.mpr (.inr (by decide))⟩

def unreadyPod : Table :=
  ⟨[Column.named "NAME", Column.named "READY"], .ofList [.plain .added ⟨"a", ["a", "0/1"]⟩], "all"⟩

def readyTwice : List Row := [⟨"a", ["a", "1/1"]⟩, ⟨"a", ["a", "1/1"]⟩]

theorem listed_twice_unnoticed :
    unreadyPod.events.Indexed ∧
      (unreadyPod.update readyTwice).events.toList.map RowEvent.change = [.unchanged] ∧
      (unreadyPod.update (Row.collapse readyTwice)).events.toList.map RowEvent.change = [.updated] ∧
      (unreadyPod.update readyTwice).events.toList ≠ (unreadyPod.update (Row.collapse readyTwice)).events.toList := by
  refine ⟨?_, by decide, by decide, by decide⟩
  rw [unreadyPod, RowEvents.of_list_reindex]
  exact RowEvents.reindex_indexed _ (by decide)

end Table

end LiveTable
