import LiveTable.Proofs.Declaration
import LiveTable.Proofs.Toast

namespace LiveTable

namespace Header

theorem index_of_own (h : Header) (distinct : h.Distinct) (place : Nat) (c : Column) (read : h[place]? = some c) :
    h.indexOf? c.name true = some place := by
  cases found : h.indexOf? c.name true with
  | none =>
      have absent := List.findIdx?_eq_none_iff.mp found c (List.mem_of_getElem? read)
      simp at absent
  | some other =>
      obtain ⟨d, there, named⟩ := h.index_of_some c.name other found
      rw [Distinct.one_place h distinct d c other place there read named]

theorem index_of_known (h : Header) (name : String) (known : name ∈ h.map (·.name)) :
    ∃ place, h.indexOf? name true = some place := by
  cases found : h.indexOf? name true with
  | none =>
      obtain ⟨c, member, rfl⟩ := List.mem_map.mp known
      have absent := List.findIdx?_eq_none_iff.mp found c member
      simp at absent
  | some place => exact ⟨place, rfl⟩

theorem index_of_unknown (h : Header) (name : String) (unknown : name ∉ h.map (·.name)) :
    h.indexOf? name true = none := by
  cases found : h.indexOf? name true with
  | none => rfl
  | some place =>
      obtain ⟨c, read, named⟩ := h.index_of_some name place found
      exact absurd (List.mem_map.mpr ⟨c, List.mem_of_getElem? read, named⟩) unknown

def namesAt (h : Header) (places : List Nat) : List String := places.filterMap fun i => h[i]?.map (·.name)

theorem names_at_all (h : Header) : h.namesAt (List.range h.length) = h.map (·.name) := by
  calc h.namesAt (List.range h.length)
      = ((List.range h.length).map (h[·]?)).filterMap (Option.map (·.name)) := by
          rw [List.filterMap_map]
          rfl
    _ = (h.map some).filterMap (Option.map (·.name)) := by rw [read_by_place]
    _ = h.map (·.name) := by
          rw [List.filterMap_map]
          exact congrFun List.filterMap_eq_map h

theorem project_names (h : Header) (requested : List String) (wide : Bool) (asking : requested.isEmpty = false) :
    (h.project requested wide).map (·.name) =
      requested ++ if wide then h.namesAt (h.unrequested requested) else [] := by
  have first : (requested.map h.requestedColumn).map (·.name) = requested := by
    simp [List.map_map, Function.comp_def, requested_name]
  have others : ((h.unrequested requested).filterMap fun i => h[i]?.map Column.widened).map (·.name) =
      h.namesAt (h.unrequested requested) := by
    rw [namesAt, List.map_filterMap]
    simp [Option.map_map, Function.comp_def, Column.widened]
  rw [project, if_neg (by simp [asking]), List.map_append, first]
  cases wide with
  | false => rfl
  | true => exact congrArg (requested ++ ·) others

theorem unrequested_names_distinct (h : Header) (distinct : h.Distinct) (requested : List String) :
    (h.namesAt (h.unrequested requested)).Nodup := by
  have within : (h.namesAt (h.unrequested requested)).Sublist (h.map (·.name)) := by
    rw [← names_at_all]
    exact List.filter_sublist.filterMap _
  exact within.nodup distinct

theorem unrequested_name (h : Header) (distinct : h.Distinct) (requested : List String) (name : String)
    (rest : name ∈ h.namesAt (h.unrequested requested)) : name ∉ requested := by
  obtain ⟨place, free, read⟩ := List.mem_filterMap.mp rest
  obtain ⟨c, there, rfl⟩ := Option.map_eq_some_iff.mp read
  intro asked
  have passed := (List.mem_filter.mp free).2
  simp only [Bool.not_eq_true', List.any_eq_false] at passed
  exact passed c.name asked (beq_iff_eq.mpr (h.index_of_own distinct place c there))

theorem project_distinct (h : Header) (distinct : h.Distinct) (requested : List String) (wide : Bool) :
    (h.project requested wide).Distinct ↔ requested.Nodup := by
  cases asking : requested.isEmpty with
  | true =>
      rw [project, if_pos asking, List.isEmpty_iff.mp asking]
      exact ⟨fun _ => List.nodup_nil, fun _ => distinct⟩
  | false =>
      rw [Distinct, project_names h requested wide asking]
      cases wide with
      | false => simp
      | true =>
          rw [if_pos rfl, List.nodup_append]
          refine ⟨fun all => all.1, fun once => ⟨once, h.unrequested_names_distinct distinct requested, ?_⟩⟩
          rintro name asked _ rest rfl
          exact h.unrequested_name distinct requested name rest asked

theorem labelize_names (h : Header) (places : List Nat) (labels : List String) :
    (h.labelize places labels).map (·.name) = h.namesAt places ++ labels := by
  rw [labelize, List.map_append, List.map_filterMap, namesAt]
  simp [Option.map_map, Function.comp_def, Column.narrow, Column.named]

theorem names_at_index (h : Header) (name : String) :
    h.namesAt (h.indexOf? name true).toList = [name].filter fun n => (h.map (·.name)).contains n := by
  by_cases known : name ∈ h.map (·.name)
  · obtain ⟨place, found⟩ := h.index_of_known name known
    obtain ⟨c, read, named⟩ := h.index_of_some name place found
    rw [found, List.filter_cons_of_pos (List.contains_iff_mem.mpr known)]
    simp [namesAt, read, named]
  · rw [h.index_of_unknown name known, List.filter_cons_of_neg (by simpa using known)]
    rfl

end Header

namespace Table

def namesBesideLabels (t : Table) : List String :=
  ((if isNamespaced t.ns then [] else [namespaceName]) ++ [nameName]).filter fun n =>
    (t.header.map (·.name)).contains n

theorem label_places_names (t : Table) : t.header.namesAt t.labelPlaces = t.namesBesideLabels := by
  have split : t.header.namesAt t.labelPlaces =
      (if isNamespaced t.ns then [] else t.header.namesAt (t.header.indexOf? namespaceName true).toList) ++
        t.header.namesAt (t.header.indexOf? nameName true).toList := by
    rw [labelPlaces, Header.namesAt, List.filterMap_append]
    cases isNamespaced t.ns <;> rfl
  rw [split, Header.names_at_index, Header.names_at_index, namesBesideLabels, List.filter_append]
  cases isNamespaced t.ns <;> rfl

theorem names_beside_labels_distinct (t : Table) : t.namesBesideLabels.Nodup := by
  refine List.Nodup.filter _ ?_
  cases isNamespaced t.ns <;> decide

theorem labelize_distinct (t : Table) (distinct : t.header.Distinct) (labels : List String) :
    (t.labelize labels).header.Distinct ↔
      labelsName ∉ t.header.map (·.name) ∨ labels.Nodup ∧ ∀ label ∈ labels, label ∉ t.namesBesideLabels := by
  by_cases labelled : labelsName ∈ t.header.map (·.name)
  · obtain ⟨place, found⟩ := t.header.index_of_known labelsName labelled
    cases asking : labels.isEmpty with
    | true =>
        have same : t.labelize labels = t := by
          rw [labelize, found]
          exact if_pos asking
        rw [same, List.isEmpty_iff.mp asking]
        simp [distinct]
    | false =>
        rw [labelize_asking t labels place found asking, Header.Distinct, Header.labelize_names, label_places_names,
          List.nodup_append]
        constructor
        · rintro ⟨_, once, apart⟩
          exact .inr ⟨once, fun label asked stays => apart label stays label asked rfl⟩
        · rintro (missing | ⟨once, apart⟩)
          · exact absurd labelled missing
          · refine ⟨t.names_beside_labels_distinct, once, ?_⟩
            rintro name stays _ asked rfl
            exact apart name asked stays
  · have same : t.labelize labels = t := by
      rw [labelize, t.header.index_of_unknown labelsName labelled]
    rw [same]
    exact ⟨fun _ => .inl labelled, fun _ => distinct⟩

theorem names_stay_distinct (t : Table) (requested labels columns : List String) (wide : Bool)
    (specs : ColumnSpecs) (distinct : t.header.Distinct) (parsed : ColumnSpecs.parse columns = .ok specs) :
    (specs.header t.header).Distinct ∧
      ((t.header.project requested wide).Distinct ↔ requested.Nodup) ∧
      ((t.labelize labels).header.Distinct ↔
        labelsName ∉ t.header.map (·.name) ∨ labels.Nodup ∧ ∀ label ∈ labels, label ∉ t.namesBesideLabels) := by
  have declared := ColumnSpecs.parse_distinct specs columns parsed
  exact ⟨specs.header_distinct t.header declared distinct, t.header.project_distinct distinct requested wide,
    t.labelize_distinct distinct labels⟩

def labelledPods : Table :=
  { Table.new "ns1" with header := [namespaceName, nameName, labelsName].map Column.named }

theorem labelled_pods_distinct :
    ((ColumnSpecs.parse ["NAME|W", "ZONE"]).toOption.getD []).length = 2 ∧
      (((ColumnSpecs.parse ["NAME|W", "ZONE"]).toOption.getD []).header labelledPods.header).Distinct ∧
      (labelledPods.header.project ["ZONE", nameName] true).Distinct ∧
      (labelledPods.labelize ["app", namespaceName]).header.Distinct := by
  have distinct := names_stay_distinct labelledPods ["ZONE", nameName] ["app", namespaceName] ["NAME|W", "ZONE"] true
    _ (by unfold Header.Distinct; decide) (ColumnSpecs.parse_accepted _ (by decide +kernel))
  exact ⟨by decide +kernel, distinct.1, distinct.2.1.mpr (by decide), distinct.2.2.mpr (.inr (by decide +kernel))⟩

theorem asked_twice_not_distinct :
    labelledPods.header.Distinct ∧ ¬(labelledPods.header.project [nameName, nameName] false).Distinct ∧
      ¬(labelledPods.labelize ["app", "app"]).header.Distinct ∧
      ¬(labelledPods.labelize [nameName]).header.Distinct := by
  unfold Header.Distinct
  decide +kernel

end Table

end LiveTable
