import LiveTable.Proofs.ViewFreshness

namespace LiveTable

namespace RowEvents

theorem map_indexed (es : RowEvents) (f : RowEvent → RowEvent) (indexed : es.Indexed)
    (named : ∀ e, (f e).id = e.id) : (es.map f).Indexed := by
  have same : (es.toList.map f).map RowEvent.id = es.toList.map RowEvent.id := by
    rw [List.map_map]
    exact List.map_congr_left fun e _ => named e
  rw [map, of_list_reindex]
  refine reindex_indexed _ ?_
  rw [same]
  exact indexed.distinct

end RowEvents

namespace Table

theorem arrange_indexed (t : Table) (columns labels : List String) (wide : Bool) (indexed : t.events.Indexed) :
    (t.arrange columns labels wide).events.Indexed := by
  rcases arrange_cases t columns labels wide with all | ⟨h, f, mapped, named⟩
  · rwa [all]
  · rw [mapped]
    exact RowEvents.map_indexed t.events f indexed named

theorem filter_indexed (t : Table) (f : RowFilter) (indexed : t.events.Indexed) : (t.filter f).events.Indexed := by
  rcases filter_cases t f with all | ⟨p, kept⟩
  · rwa [all]
  · rw [kept]
    exact RowEvents.filter_indexed t.events p indexed

theorem sort_indexed (t u : Table) (column : SortColumn) (indexed : t.events.Indexed)
    (sorted : t.sort? column = some u) : u.events.Indexed := by
  rcases sort_cases t u column sorted with rfl | ⟨o, place, events, arranged, rfl⟩
  · exact indexed
  · exact RowEvents.sort_indexed t.events events o place column.ascending indexed arranged

end Table

namespace Console

theorem shown_indexed (c : Console) (indexed : c.source.events.Indexed) (column : SortColumn) (view : Table)
    (sorted : c.shown.sort? column = some view) : view.events.Indexed := by
  have arranged := Table.arrange_indexed c.source c.columns c.labels c.wide indexed
  exact Table.sort_indexed _ view column (Table.filter_indexed _ c.rowFilter arranged) sorted

def Within (c : Console) : Prop := c.selected ≤ c.view.events.size - 1

theorem step_within (c e : Console) (s : Step) (within : c.Within) (stepped : c.step? s = some e) : e.Within := by
  rcases step_cases c e s stepped with moves | ⟨d, made, _⟩ | ⟨_, same⟩
  · obtain ⟨place, bounded, rfl⟩ := cursor_moved c e s moves stepped
    exact bounded
  · obtain ⟨view, _, rfl⟩ := rebuild_made d e made
    exact Nat.min_le_right _ _
  · unfold Within
    rw [same.selected, same.view]
    exact within

theorem run_within (c d : Console) (history : List Step) (within : c.Within) (ran : c.run? history = some d) :
    d.Within := by
  induction history using List.reverseRecOn generalizing d with
  | nil =>
      cases ran
      exact within
  | append_singleton history s ih =>
      obtain ⟨before, first, last⟩ := (run_append c d history s).mp ran
      exact step_within before d s (ih before first) last

theorem within_selects (c : Console) (within : c.Within) (rows : c.view.events.isEmpty = false) :
    c.selected < c.view.events.size ∧ c.selectedRow?.isSome = true := by
  have filled : 0 < c.view.events.size := by
    refine List.length_pos_iff.mpr fun empty => ?_
    simp [RowEvents.isEmpty, empty] at rows
  have inside : c.selected < c.view.events.size := by
    unfold Within at within
    omega
  refine ⟨inside, ?_⟩
  rw [selectedRow?, RowEvents.at?, List.getElem?_eq_getElem inside]
  rfl

theorem within_first (c : Console) (within : c.Within) (vacant : c.view.events.isEmpty = true) : c.selected = 0 := by
  have empty : c.view.events.size = 0 := List.length_eq_zero_iff.mpr (List.isEmpty_iff.mp vacant)
  unfold Within at within
  omega

theorem reselect_place (t : Table) (indexed : t.events.Indexed) (id : String) (before place : Nat)
    (held : (t.events.at? place).map RowEvent.id = some id) : reselect (some id) before t = place := by
  have found : t.events.findIndex? id = some place := (indexed.exact id place).mpr held
  have inside := RowEvents.place_inside t.events place id held
  rw [reselect, Option.bind_some, found, Option.getD_some]
  omega

theorem reselect_follows (c : Console) (t : Table) (indexed : t.events.Indexed) (e : RowEvent)
    (selected : c.selectedRow? = some e) (member : e.id ∈ t.events.ids) :
    (t.events.at? (reselect (c.selectedRow?.map (·.id)) c.selected t)).map RowEvent.id = some e.id := by
  obtain ⟨place, read⟩ := List.mem_iff_getElem?.mp member
  rw [RowEvents.ids_at] at read
  rw [selected, Option.map_some, reselect_place t indexed e.id c.selected place read]
  exact read

theorem rebuild_follows (c d : Console) (indexed : c.source.events.Indexed) (made : c.rebuild? = some d) (e : RowEvent)
    (selected : c.selectedRow? = some e) (shown : e.id ∈ d.view.events.ids) :
    d.selectedRow?.map RowEvent.id = some e.id := by
  obtain ⟨view, sorted, rfl⟩ := rebuild_made c d made
  exact reselect_follows c view (shown_indexed c indexed _ view sorted) e selected shown

theorem step_follows (c d : Console) (s : Step) (indexed : (s.table?.getD c.source).events.Indexed)
    (still : s.movesCursor = false) (stepped : c.step? s = some d) (e : RowEvent) (selected : c.selectedRow? = some e)
    (shown : e.id ∈ d.view.events.ids) : d.selectedRow?.map RowEvent.id = some e.id := by
  rcases step_cases c d s stepped with moves | ⟨b, made, settled⟩ | ⟨_, same⟩
  · rw [still] at moves
    cases moves
  · have before : b.selectedRow? = some e := by
      rw [← selected, selectedRow?, selectedRow?, settled.view, settled.selected]
    exact rebuild_follows b d (settled.source ▸ indexed) made e before shown
  · rw [selectedRow?, same.view, same.selected, ← selectedRow?, selected]
    rfl

theorem run_source_indexed (c d : Console) (history : List Step) (start : c.source.events.Indexed)
    (indexed : ∀ t ∈ history.filterMap Step.table?, t.events.Indexed) (ran : c.run? history = some d) :
    d.source.events.Indexed := by
  rw [run_source c d history ran]
  cases latest : latest? history with
  | none => exact start
  | some t => exact indexed t (List.mem_of_getLast? latest)

/-- Whatever is done to a console that is given tables with exact indexes, and pages of any size: where the
view has rows the cursor is at one of them, and otherwise at the first place. A step moves the cursor and leaves
the view as it is, or the row that was selected stays selected as long as it is shown. -/
theorem selection_follows (c : Console) (history : List Step) (reached : c.ReachedBy history) (s : Step)
    (indexed : ∀ t ∈ (history ++ [s]).filterMap Step.table?, t.events.Indexed) :
    (c.view.events.isEmpty = false → c.selected < c.view.events.size ∧ c.selectedRow?.isSome = true) ∧
      (c.view.events.isEmpty = true → c.selected = 0) ∧
      ∀ d ∈ c.step? s, (s.movesCursor = true → d.view = c.view) ∧
        (s.movesCursor = false → ∀ e, c.selectedRow? = some e → e.id ∈ d.view.events.ids →
          d.selectedRow?.map RowEvent.id = some e.id) := by
  obtain ⟨cluster, context, kind, scope, theme, colorer, options, ran⟩ := reached
  let opened := start cluster context kind scope theme colorer options
  have within : c.Within := run_within opened c history (Nat.zero_le _) ran
  rw [List.filterMap_append] at indexed
  have source : c.source.events.Indexed :=
    run_source_indexed opened c history RowEvents.indexed_empty (fun t member => indexed t (by simp [member])) ran
  refine ⟨within_selects _ within, within_first _ within, fun d stepped => ⟨fun moves => ?_, fun still e => ?_⟩⟩
  · obtain ⟨place, _, rfl⟩ := cursor_moved c d s moves stepped
    rfl
  · refine step_follows c d s ?_ still stepped e
    cases handed : s.table? with
    | none => exact source
    | some t => exact indexed t (by simp [handed])

def onePod : List Step := [.setTable 0 (twoPods.delete "ns1/db")]

theorem two_pods_indexed : twoPods.events.Indexed := Table.update_indexed _ _ RowEvents.indexed_empty

theorem one_pod_indexed : (twoPods.delete "ns1/db").events.Indexed :=
  RowEvents.sublist_indexed twoPods.events _ two_pods_indexed (List.eraseIdx_sublist _ 0)

theorem pod_followed :
    ∃ c ∈ (podConsole {}).run? onePod, c.view.events.ids = ["ns1/web"] ∧
      ∃ d ∈ c.step? (.setTable 60 twoPods), d.view.events.ids = ["ns1/db", "ns1/web"] ∧
        d.selectedRow?.map RowEvent.id = some "ns1/web" := by
  have first : ((podConsole {}).run? onePod).map (fun c => (c.selectedRow?, c.view.events.ids)) =
      some (some ⟨.added, ⟨"ns1/web", ["web", "pod is terminating"]⟩, ["", ""]⟩, ["ns1/web"]) := by decide +kernel
  have second : (((podConsole {}).run? onePod).bind (·.step? (.setTable 60 twoPods))).map (·.view.events.ids) =
      some ["ns1/db", "ns1/web"] := by decide +kernel
  obtain ⟨c, ran, shown⟩ := Option.map_eq_some_iff.mp first
  rw [ran, Option.bind_some] at second
  obtain ⟨d, stepped, arrived⟩ := Option.map_eq_some_iff.mp second
  have indexed : ∀ t ∈ (onePod ++ [Step.setTable 60 twoPods]).filterMap Step.table?, t.events.Indexed := by
    simpa [onePod, Step.table?] using And.intro one_pod_indexed two_pods_indexed
  have follows := (selection_follows c onePod (pod_console_reached {} onePod c ran) (.setTable 60 twoPods) indexed).2.2
    d stepped
  rw [Prod.mk.injEq] at shown
  exact ⟨c, ran, shown.2, d, stepped, arrived, follows.2 rfl _ shown.1 (by rw [arrived]; decide)⟩

end Console

end LiveTable
