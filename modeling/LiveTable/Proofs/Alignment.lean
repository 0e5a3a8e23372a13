import LiveTable.Proofs.Layout
import LiveTable.Proofs.Toast

namespace LiveTable

namespace Header

structure First (h : Header) (name : String) (place : Nat) (c : Column) : Prop where
  there : h[place]? = some c
  named : c.name = name
  before : ∀ i d, i < place → h[i]? = some d → d.name ≠ name

theorem index_first (h : Header) (name : String) (place : Nat) :
    h.indexOf? name true = some place ↔ ∃ c, h.First name place c := by
  rw [index_of_name, List.findIdx?_eq_some_iff_getElem]
  constructor
  · rintro ⟨inside, named, before⟩
    refine ⟨h[place], List.getElem?_eq_getElem inside, beq_iff_eq.mp named, fun i d earlier read => ?_⟩
    obtain ⟨_, rfl⟩ := List.getElem?_eq_some_iff.mp read
    simpa using before i earlier
  · rintro ⟨c, there, named, before⟩
    obtain ⟨inside, rfl⟩ := List.getElem?_eq_some_iff.mp there
    refine ⟨inside, beq_iff_eq.mpr named, fun i earlier => ?_⟩
    simpa using before i _ earlier (List.getElem?_eq_getElem (Nat.lt_trans earlier inside))

theorem index_unknown (h : Header) (name : String) (unknown : ∀ c ∈ h, c.name ≠ name) :
    h.indexOf? name true = none :=
  List.findIdx?_eq_none_iff.mpr fun c member => by simpa using unknown c member

theorem requested_first (h : Header) (name : String) (place : Nat) (c : Column) (first : h.First name place c) :
    h.requestedColumn name = c.narrow := by
  rw [requestedColumn, (h.index_first name place).mpr ⟨c, first⟩, Option.bind_some, first.there]

theorem requested_unknown (h : Header) (name : String) (unknown : ∀ c ∈ h, c.name ≠ name) :
    h.requestedColumn name = Column.named name := by
  rw [requestedColumn, h.index_unknown name unknown]
  rfl

theorem mem_unrequested (h : Header) (requested : List String) (place : Nat) :
    place ∈ h.unrequested requested ↔
      place < h.length ∧ ∀ name ∈ requested, ∀ c, ¬h.First name place c := by
  rw [unrequested, List.mem_filter, List.mem_range, Bool.not_eq_true', List.any_eq_false]
  refine and_congr_right fun _ => forall₂_congr fun name _ => ?_
  rw [beq_iff_eq, index_first, not_exists]

theorem unrequested_ascending (h : Header) (requested : List String) :
    (h.unrequested requested).Pairwise (· < ·) := List.pairwise_lt_range.filter _

theorem chosen_requested (h : Header) (requested : List String) (wide : Bool) (shown : Nat) (name : String)
    (asked : requested[shown]? = some name) :
    (h.chosen requested wide)[shown]? = some (h.indexOf? name true, h.requestedColumn name) := by
  have inside : shown < (h.requestedPart requested).length := by
    rw [requestedPart, List.length_map]
    exact (List.getElem?_eq_some_iff.mp asked).1
  rw [chosen, List.getElem?_append_left inside, requestedPart, List.getElem?_map, asked]
  rfl

theorem chosen_other (h : Header) (requested : List String) (i place : Nat)
    (rest : (h.unrequested requested)[i]? = some place) :
    ∃ c, h[place]? = some c ∧ (h.chosen requested true)[requested.length + i]? = some (some place, c.widened) := by
  have columns : h.otherPart requested =
      (h.unrequested requested).map fun i => (some i, (h[i]?.getD (Column.named "")).widened) := by
    rw [otherPart, ← List.filterMap_eq_map]
    refine List.filterMap_congr fun i member => ?_
    simp [unrequested_inside h requested i member]
  have there := List.getElem?_eq_getElem (unrequested_inside h requested place (List.mem_of_getElem? rest))
  refine ⟨_, there, ?_⟩
  rw [chosen, requestedPart, List.getElem?_append_right (by simp), List.length_map, Nat.add_sub_cancel_left,
    if_pos rfl, columns, List.getElem?_map, rest, Option.map_some, there, Option.getD_some]

theorem chosen_length (h : Header) (requested : List String) (wide : Bool) :
    (h.chosen requested wide).length =
      requested.length + (if wide then h.unrequested requested else []).length := by
  have size := congrArg List.length (h.chosen_places requested wide)
  rw [List.length_map, places, List.length_append, List.length_map] at size
  cases wide <;> simpa using size

end Header

theorem Delta.project_each (d : Delta) (places : List (Option Nat)) :
    d.project places = places.map fun place => (place.bind (d[·]?)).getD "" := by
  by_cases blank : d.isBlank = true
  · rw [project, if_pos blank, Delta.blank]
    refine (List.eq_replicate_iff.mpr ⟨List.length_map _, fun entry shown => ?_⟩).symm
    obtain ⟨place, _, rfl⟩ := List.mem_map.mp shown
    cases place with
    | none => rfl
    | some i => rw [Option.bind_some, ← List.getD_eq_getElem?_getD, d.blank_entry blank i]
  · rw [project, if_neg blank]

namespace RowEvent

variable (e : RowEvent) (places : List (Option Nat))

theorem project_lengths : (e.project places).row.fields.length = places.length ∧
    (e.project places).delta.length = places.length :=
  ⟨List.length_map _, by rw [project, Delta.project_each, List.length_map]⟩

theorem project_shown (shown place : Nat) (read : places[shown]? = some (some place))
    (cell : place < e.row.fields.length) (change : place < e.delta.length) :
    (e.project places).row.fields[shown]? = e.row.fields[place]? ∧
      (e.project places).delta[shown]? = e.delta[place]? := by
  constructor
  · have field := e.row.project_field places shown place read
    rw [Row.field, List.getD_eq_getElem?_getD, List.getElem?_eq_getElem cell, Option.getD_some] at field
    rw [List.getElem?_eq_getElem cell]
    exact field
  · rw [project, Delta.project_each, List.getElem?_map, read, List.getElem?_eq_getElem change]
    simp [change]

theorem project_missing (shown : Nat) (read : places[shown]? = some none) :
    (e.project places).row.fields[shown]? = some Cell.notApplicable ∧
      (e.project places).delta[shown]? = some "" := by
  constructor
  · rw [project, Row.project, List.getElem?_map, read]
    rfl
  · rw [project, Delta.project_each, List.getElem?_map, read]
    rfl

end RowEvent

namespace Table

structure Aligned (t : Table) : Prop where
  cells : t.RowsFit
  deltas : ∀ e ∈ t.events.toList, e.delta.length = t.header.length

-- A view shows one place of a table at another: the column, wide or not, and below it the cell of every row
-- with what has changed in it.
structure ShowsPlace (t view : Table) (wide : Bool) (place shown : Nat) : Prop where
  column : ∃ c, t.header[place]? = some c ∧ view.header[shown]? = some { c with wide }
  rows : List.Forall₂
    (fun e f => f.row.fields[shown]? = e.row.fields[place]? ∧ f.delta[shown]? = e.delta[place]?)
    t.events.toList view.events.toList

structure ShowsUnknown (view : Table) (name : String) (shown : Nat) : Prop where
  column : view.header[shown]? = some (Column.named name)
  rows : ∀ f ∈ view.events.toList,
    f.row.fields[shown]? = some Cell.notApplicable ∧ f.delta[shown]? = some ""

section

variable (t : Table) (requested : List String) (wide : Bool)

theorem project_events (asking : requested.isEmpty = false) :
    (t.project requested wide).events.toList =
      t.events.toList.map (·.project (t.header.places requested wide)) := by
  rw [project_asking t requested wide asking]
  exact t.events.map_list _

theorem project_header (asking : requested.isEmpty = false) :
    (t.project requested wide).header = (t.header.chosen requested wide).map Prod.snd := by
  rw [project_asking t requested wide asking, t.header.chosen_columns requested wide asking]

theorem project_fits (asking : requested.isEmpty = false) : (t.project requested wide).Aligned := by
  have size : (t.project requested wide).header.length = (t.header.places requested wide).length := by
    rw [project_header t requested wide asking, ← Header.chosen_places, List.length_map, List.length_map]
  have sized : ∀ f ∈ (t.project requested wide).events.toList,
      f.row.fields.length = (t.project requested wide).header.length ∧
        f.delta.length = (t.project requested wide).header.length := by
    intro f member
    rw [project_events t requested wide asking] at member
    obtain ⟨e, _, rfl⟩ := List.mem_map.mp member
    rw [size]
    exact e.project_lengths _
  exact ⟨fun f member => (sized f member).1, fun f member => (sized f member).2⟩

theorem project_shows (aligned : t.Aligned) (asking : requested.isEmpty = false) (widened : Bool)
    (place shown : Nat) (c : Column) (there : t.header[place]? = some c)
    (chosen : (t.header.chosen requested wide)[shown]? = some (some place, { c with wide := widened })) :
    ShowsPlace t (t.project requested wide) widened place shown := by
  have inside := (List.getElem?_eq_some_iff.mp there).1
  have read : (t.header.places requested wide)[shown]? = some (some place) := by
    rw [← Header.chosen_places, List.getElem?_map, chosen]
    rfl
  refine ⟨⟨c, there, ?_⟩, ?_⟩
  · rw [project_header t requested wide asking, List.getElem?_map, chosen]
    rfl
  · rw [project_events t requested wide asking, List.forall₂_map_right_iff, List.forall₂_same]
    intro e member
    exact e.project_shown _ shown place read (by rwa [aligned.cells e member]) (by rwa [aligned.deltas e member])

theorem project_shows_unknown (asking : requested.isEmpty = false) (shown : Nat) (name : String)
    (chosen : (t.header.chosen requested wide)[shown]? = some (none, Column.named name)) :
    ShowsUnknown (t.project requested wide) name shown := by
  have read : (t.header.places requested wide)[shown]? = some none := by
    rw [← Header.chosen_places, List.getElem?_map, chosen]
    rfl
  refine ⟨?_, fun f member => ?_⟩
  · rw [project_header t requested wide asking, List.getElem?_map, chosen]
    rfl
  · rw [project_events t requested wide asking] at member
    obtain ⟨e, _, rfl⟩ := List.mem_map.mp member
    exact e.project_missing _ shown read

end

theorem project_aligned (t : Table) (requested : List String) (wide : Bool) (aligned : t.Aligned)
    (asked : requested ≠ []) :
    (t.project requested wide).ns = t.ns ∧ (t.project requested wide).Aligned ∧
      List.Forall₂ (fun e f => f.id = e.id ∧ f.change = e.change) t.events.toList
        (t.project requested wide).events.toList ∧
      (∀ shown name, requested[shown]? = some name →
        (∀ place c, t.header.First name place c → ShowsPlace t (t.project requested wide) false place shown) ∧
        ((∀ c ∈ t.header, c.name ≠ name) → ShowsUnknown (t.project requested wide) name shown)) ∧
      ∃ others : List Nat, others.Pairwise (· < ·) ∧
        (∀ place, place ∈ others ↔
          wide = true ∧ place < t.header.length ∧ ∀ name ∈ requested, ∀ c, ¬t.header.First name place c) ∧
        (t.project requested wide).header.length = requested.length + others.length ∧
        ∀ i place, others[i]? = some place →
          ShowsPlace t (t.project requested wide) true place (requested.length + i) := by
  have asking : requested.isEmpty = false := List.isEmpty_eq_false_iff.mpr asked
  refine ⟨?_, t.project_fits requested wide asking, ?_, fun shown name read => ⟨?_, ?_⟩,
    if wide then t.header.unrequested requested else [], ?_, fun place => ?_, ?_, fun i place rest => ?_⟩
  · rw [project_asking t requested wide asking]
  · rw [project_events t requested wide asking, List.forall₂_map_right_iff, List.forall₂_same]
    exact fun e _ => ⟨rfl, rfl⟩
  · intro place c first
    refine t.project_shows requested wide aligned asking false place shown c first.there ?_
    rw [t.header.chosen_requested requested wide shown name read, t.header.requested_first name place c first,
      (t.header.index_first name place).mpr ⟨c, first⟩]
    rfl
  · intro unknown
    refine t.project_shows_unknown requested wide asking shown name ?_
    rw [t.header.chosen_requested requested wide shown name read, t.header.requested_unknown name unknown,
      t.header.index_unknown name unknown]
  · cases wide
    · exact .nil
    · exact t.header.unrequested_ascending requested
  · cases wide
    · simp
    · simpa using t.header.mem_unrequested requested place
  · rw [project_header t requested wide asking, List.length_map, Header.chosen_length]
  · cases wide with
    | false => cases rest
    | true =>
        obtain ⟨c, there, chosen⟩ := t.header.chosen_other requested i place rest
        exact t.project_shows requested true aligned asking true place _ c there chosen

def movedPod : Table :=
  ⟨[Column.named "NAME", (Column.named "NODE").widened, Column.named "READY"],
    .ofList [⟨.updated, ⟨"a", ["a", "n2", "0/1"]⟩, ["", "n1", "1/1"]⟩], "all"⟩

theorem moved_pod_aligned :
    movedPod.Aligned ∧ ["NODE", "ZONE", "NODE"] ≠ [] ∧
      (movedPod.project ["NODE", "ZONE", "NODE"] true).Aligned ∧
      ShowsPlace movedPod (movedPod.project ["NODE", "ZONE", "NODE"] true) false 1 0 ∧
      ShowsUnknown (movedPod.project ["NODE", "ZONE", "NODE"] true) "ZONE" 1 ∧
      ShowsPlace movedPod (movedPod.project ["NODE", "ZONE", "NODE"] true) false 1 2 ∧
      ∃ i, ShowsPlace movedPod (movedPod.project ["NODE", "ZONE", "NODE"] true) true 2 (3 + i) := by
  have aligned : movedPod.Aligned := ⟨by unfold RowsFit; decide, by decide⟩
  obtain ⟨_, fits, _, asked, others, _, rest, _, shown⟩ :=
    project_aligned movedPod ["NODE", "ZONE", "NODE"] true aligned (by decide)
  obtain ⟨node, first⟩ := (movedPod.header.index_first "NODE" 1).mp (by decide)
  have ready := (movedPod.header.mem_unrequested ["NODE", "ZONE", "NODE"] 2).mp (by decide)
  obtain ⟨i, read⟩ := List.mem_iff_getElem?.mp ((rest 2).mpr ⟨rfl, ready⟩)
  exact ⟨aligned, by decide, fits, (asked 0 "NODE" rfl).1 1 node first, (asked 1 "ZONE" rfl).2 (by decide),
    (asked 2 "NODE" rfl).1 1 node first, i, shown i 2 read⟩

end Table

end LiveTable
