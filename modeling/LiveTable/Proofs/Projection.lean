import LiveTable.Proofs.Invariant

namespace LiveTable

namespace Header

theorem index_of_name (h : Header) (name : String) : h.indexOf? name true = h.findIdx? (·.name == name) := rfl

theorem index_of_some (h : Header) (name : String) (place : Nat) (found : h.indexOf? name true = some place) :
    ∃ c, h[place]? = some c ∧ c.name = name := by
  obtain ⟨inside, named, _⟩ := List.findIdx?_eq_some_iff_getElem.mp found
  exact ⟨h[place], List.getElem?_eq_getElem inside, beq_iff_eq.mp named⟩

theorem visible_known (h : Header) (ns : String) (wide : Bool) (i : Nat) (shown : i ∈ h.visible ns wide) :
    ∃ c, h[i]? = some c := by
  obtain ⟨c, read, _⟩ := (Option.any_eq_true _ _).mp (List.mem_filter.mp shown).2
  exact ⟨c, read⟩

def requestedPart (h : Header) (requested : List String) : List (Option Nat × Column) :=
  requested.map fun name => (h.indexOf? name true, h.requestedColumn name)

def otherPart (h : Header) (requested : List String) : List (Option Nat × Column) :=
  (h.unrequested requested).filterMap fun i => h[i]?.map fun c => (some i, c.widened)

def chosen (h : Header) (requested : List String) (wide : Bool) : List (Option Nat × Column) :=
  h.requestedPart requested ++ if wide then h.otherPart requested else []

theorem unrequested_inside (h : Header) (requested : List String) (i : Nat) (rest : i ∈ h.unrequested requested) :
    i < h.length := List.mem_range.mp (List.mem_filter.mp rest).1

theorem chosen_places (h : Header) (requested : List String) (wide : Bool) :
    (h.chosen requested wide).map Prod.fst = h.places requested wide := by
  have others : (h.otherPart requested).map Prod.fst = (h.unrequested requested).map some := by
    rw [otherPart, List.map_filterMap, ← List.filterMap_eq_map]
    refine List.filterMap_congr fun i rest => ?_
    rw [List.getElem?_eq_getElem (unrequested_inside h requested i rest)]
    rfl
  rw [chosen, List.map_append, requestedPart, List.map_map, places]
  cases wide with
  | false => rfl
  | true => exact congrArg (requested.map (h.indexOf? · true) ++ ·) others

theorem chosen_columns (h : Header) (requested : List String) (wide : Bool) (asked : requested.isEmpty = false) :
    (h.chosen requested wide).map Prod.snd = h.project requested wide := by
  have others : (h.otherPart requested).map Prod.snd =
      (h.unrequested requested).filterMap fun i => h[i]?.map Column.widened := by
    rw [otherPart, List.map_filterMap]
    refine List.filterMap_congr fun i _ => ?_
    rw [Option.map_map]
    rfl
  have projected : h.project requested wide = requested.map h.requestedColumn ++
      if wide then (h.unrequested requested).filterMap fun i => h[i]?.map Column.widened else [] :=
    if_neg (Bool.not_eq_true _ ▸ asked)
  rw [projected, chosen, List.map_append, requestedPart, List.map_map]
  cases wide with
  | false => rfl
  | true => exact congrArg (requested.map h.requestedColumn ++ ·) others

theorem requested_name (h : Header) (name : String) : (h.requestedColumn name).name = name := by
  unfold requestedColumn
  cases found : h.indexOf? name true with
  | none => rfl
  | some place =>
      obtain ⟨c, read, named⟩ := index_of_some h name place found
      rw [Option.bind_some, read]
      exact named

theorem requested_find (h : Header) (requested : List String) (name : String) (asked : name ∈ requested) :
    (h.requestedPart requested).find? (·.2.name == name) =
      some (h.indexOf? name true, h.requestedColumn name) := by
  have first : requested.find? (· == name) = some name := by
    cases found : requested.find? (· == name) with
    | none => exact absurd (List.find?_eq_none.mp found name asked) (by simp)
    | some other =>
        have same := List.find?_some found
        simp only [beq_iff_eq] at same
        rw [same]
  have matching :
      ((·.2.name == name) ∘ fun name => (h.indexOf? name true, h.requestedColumn name)) = (· == name) := by
    funext other
    simp only [Function.comp_apply, requested_name]
  rw [requestedPart, List.find?_map, matching, first, Option.map_some]

theorem requested_find_none (h : Header) (requested : List String) (name : String) (unasked : name ∉ requested) :
    (h.requestedPart requested).find? (·.2.name == name) = none := by
  refine List.find?_eq_none.mpr fun entry member same => ?_
  obtain ⟨other, asked, rfl⟩ := List.mem_map.mp member
  rw [requested_name, beq_iff_eq] at same
  exact unasked (same ▸ asked)

theorem other_find (h : Header) (requested : List String) (name : String) (place : Nat)
    (found : h.indexOf? name true = some place) (unasked : name ∉ requested) :
    ∃ c, (h.otherPart requested).find? (·.2.name == name) = some (some place, c) := by
  obtain ⟨c, read, named⟩ := index_of_some h name place found
  obtain ⟨inside, _, before⟩ := List.findIdx?_eq_some_iff_getElem.mp found
  have free : (!requested.any fun other => h.indexOf? other true == some place) = true := by
    rw [Bool.not_eq_true', List.any_eq_false]
    intro other asked same
    obtain ⟨d, again, otherNamed⟩ := index_of_some h other place (beq_iff_eq.mp same)
    rw [read, Option.some.injEq] at again
    exact unasked (named ▸ again ▸ otherNamed ▸ asked)
  have first : (h.unrequested requested).find?
      (fun i => (h[i]?.map fun c => (some i, c.widened)).any (·.2.name == name)) = some place := by
    rw [unrequested, List.find?_filter, List.find?_range_eq_some]
    refine ⟨?_, List.mem_range.mpr inside, fun i earlier => ?_⟩
    · simp only [free, read, Option.map_some, Option.any_some, Column.widened, named, beq_self_eq_true, and_self,
        decide_true]
    · have within : i < h.length := Nat.lt_trans earlier inside
      have other : ¬h[i].name = name := by simpa using before i earlier
      simp [List.getElem?_eq_getElem within, Column.widened, other]
  refine ⟨c.widened, ?_⟩
  rw [otherPart, List.find?_filterMap, first, Option.bind_some, read]
  rfl

theorem chosen_find (h : Header) (requested : List String) (wide : Bool) (name : String) (place : Nat)
    (found : h.indexOf? name true = some place) (asked : name ∈ requested ∨ wide = true) :
    ∃ c, (h.chosen requested wide).find? (·.2.name == name) = some (some place, c) := by
  rw [chosen, List.find?_append]
  by_cases member : name ∈ requested
  · rw [requested_find h requested name member, found]
    exact ⟨_, rfl⟩
  · rw [requested_find_none h requested name member, asked.resolve_left member]
    exact other_find h requested name place found member

theorem chosen_find_none (h : Header) (requested : List String) (name : String) (unasked : name ∉ requested) :
    (h.chosen requested false).find? (·.2.name == name) = none := by
  rw [chosen, List.find?_append, requested_find_none h requested name unasked]
  rfl

theorem project_index (h : Header) (requested : List String) (wide : Bool) (name : String) (place : Nat)
    (asking : requested.isEmpty = false) (found : h.indexOf? name true = some place)
    (asked : name ∈ requested ∨ wide = true) :
    ∃ shown, (h.project requested wide).indexOf? name true = some shown ∧
      (h.places requested wide)[shown]? = some (some place) := by
  obtain ⟨c, first⟩ := chosen_find h requested wide name place found asked
  obtain ⟨named, shown, inside, read, before⟩ := List.find?_eq_some_iff_getElem.mp first
  refine ⟨shown, ?_, ?_⟩
  · rw [index_of_name, ← chosen_columns h requested wide asking, List.findIdx?_map,
      List.findIdx?_eq_some_iff_getElem]
    refine ⟨inside, ?_, fun i earlier => ?_⟩
    · simpa only [Function.comp_apply, read] using named
    · simpa using before i earlier
  · rw [← chosen_places, List.getElem?_map, List.getElem?_eq_getElem inside, read]
    rfl

theorem project_index_none (h : Header) (requested : List String) (name : String)
    (asking : requested.isEmpty = false) (unasked : name ∉ requested) :
    (h.project requested false).indexOf? name true = none := by
  have missing := chosen_find_none h requested name unasked
  rw [index_of_name, ← chosen_columns h requested false asking, List.findIdx?_map, List.findIdx?_eq_none_iff]
  intro entry member
  simpa using List.find?_eq_none.mp missing entry member

end Header

theorem Table.sort_found (t : Table) (column : Column) (place : Nat) (ascending : Bool)
    (found : t.header.indexOf? column.name true = some place) (read : t.header[place]? = some column) :
    t.sort? ⟨column.name, ascending⟩ =
      (t.events.sort? (cellOrder column) place ascending).map fun events => { t with events } := by
  simp only [sort?, found, read]

theorem Row.project_field (r : Row) (places : List (Option Nat)) (shown place : Nat)
    (read : places[shown]? = some (some place)) : (r.project places).fields[shown]? = some (r.field place) := by
  rw [project, List.getElem?_map, read]
  rfl

end LiveTable
