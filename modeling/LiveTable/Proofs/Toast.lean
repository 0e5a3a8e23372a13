import LiveTable.Proofs.Projection
import LiveTable.Proofs.Provenance
import LiveTable.Proofs.ViewFreshness

namespace LiveTable

namespace RowEvents

theorem map_filter (es : RowEvents) (f : RowEvent → RowEvent) (p q : RowEvent → Bool)
    (agree : ∀ e, p (f e) = q e) : (es.map f).filter p = (es.filter q).map f := by
  have same : p ∘ f = q := funext agree
  simp only [map, filter, of_list_reindex, reindex, List.filter_map, same]

end RowEvents

-- Whether the health cell, which is at this place, says something.
def RowEvent.unwell (place : Nat) (e : RowEvent) : Bool :=
  e.row.fields[place]?.any fun cell => !Text.isBlankText cell

theorem RowEvent.project_unwell (e : RowEvent) (places : List (Option Nat)) (shown place : Nat)
    (read : places[shown]? = some (some place)) : (e.project places).unwell shown = e.unwell place := by
  have cell : (e.project places).row.fields[shown]? = some (e.row.field place) :=
    e.row.project_field places shown place read
  rw [unwell, cell, unwell, Row.field, List.getD_eq_getElem?_getD]
  cases e.row.fields[place]? <;> rfl

theorem Row.label_field (r : Row) (places : List Nat) (labelColumn : Nat) (labels : List String) (shown : Nat)
    (label : String) (read : labels[shown]? = some label) :
    (r.labelize places labelColumn labels).fields[places.length + shown]? =
      some ((Labels.lookup label (Labels.parse (r.field labelColumn))).getD "") := by
  simp only [labelize]
  rw [List.getElem?_append_right (by simp), List.length_map, Nat.add_sub_cancel_left, List.getElem?_map, read]
  rfl

theorem RowEvent.labelize_unwell (e : RowEvent) (places : List Nat) (labelColumn : Nat) (labels : List String)
    (shown : Nat) (label : String) (read : labels[shown]? = some label) :
    (e.labelize places labelColumn labels).unwell (shown + places.length) =
      !Text.isBlankText ((Labels.lookup label (Labels.parse (e.row.field labelColumn))).getD "") := by
  rw [unwell, labelize, Nat.add_comm, e.row.label_field places labelColumn labels shown label read]
  rfl

theorem Header.kept_length (h : Header) (places : List Nat) (known : ∀ place ∈ places, ∃ c, h[place]? = some c) :
    (places.filterMap fun i => h[i]?.map Column.narrow).length = places.length := by
  rw [List.length_filterMap_eq_countP, List.countP_eq_length]
  intro place member
  obtain ⟨c, read⟩ := known place member
  simp [read]

theorem Header.labelize_index (h : Header) (places : List Nat) (labels : List String) (label : String)
    (others : ∀ place ∈ places, ∃ c, h[place]? = some c ∧ c.name ≠ label) :
    (h.labelize places labels).indexOf? label true =
      (labels.findIdx? (· == label)).map (· + places.length) := by
  have sized := h.kept_length places fun place member => (others place member).imp fun _ => And.left
  have passed : (places.filterMap fun i => h[i]?.map Column.narrow).findIdx? (·.name == label) = none := by
    refine List.findIdx?_eq_none_iff.mpr fun c member => ?_
    obtain ⟨place, stays, shown⟩ := List.mem_filterMap.mp member
    obtain ⟨d, read, other⟩ := others place stays
    rw [read, Option.map_some, Option.some.injEq] at shown
    rw [← shown]
    exact beq_eq_false_iff_ne.mpr other
  rw [index_of_name, labelize, List.findIdx?_append, passed, Option.none_or, sized, List.findIdx?_map]
  rfl

namespace Table

theorem toast_keeps (t : Table) (place : Nat) (found : t.header.validIndex? = some place) :
    t.toast = t.keep (RowEvent.unwell place) := by
  rw [toast, found]
  rfl

theorem toast_all (t : Table) (missing : t.header.validIndex? = none) : t.toast = t := by
  rw [toast, missing]

theorem project_asking (t : Table) (columns : List String) (wide : Bool) (asking : columns.isEmpty = false) :
    t.project columns wide = { t with
      header := t.header.project columns wide
      events := t.events.project (t.header.places columns wide) } := by
  rw [project, asking]
  rfl

theorem project_toast_shown (t : Table) (columns : List String) (wide : Bool) (place : Nat)
    (found : t.header.validIndex? = some place)
    (shown : columns.isEmpty = true ∨ validName ∈ columns ∨ wide = true) :
    (t.project columns wide).toast = t.toast.project columns wide := by
  cases asking : columns.isEmpty with
  | true => rw [project, project, if_pos asking, if_pos asking]
  | false =>
      have asked : validName ∈ columns ∨ wide = true := shown.resolve_left (by simp [asking])
      obtain ⟨position, named, read⟩ := t.header.project_index columns wide validName place asking found asked
      have projected := project_asking t columns wide asking
      have valid : (t.project columns wide).header.validIndex? = some position := by
        rw [projected]
        exact named
      rw [toast_keeps _ position valid, toast_keeps t place found, projected, project_asking _ columns wide asking]
      exact congrArg (Table.mk _ · t.ns) (RowEvents.map_filter t.events _ _ _ fun e =>
        e.project_unwell _ position place read)

theorem project_toast_hidden (t : Table) (columns : List String) (asking : columns.isEmpty = false)
    (unasked : validName ∉ columns) : (t.project columns false).toast = t.project columns false := by
  refine toast_all _ ?_
  rw [project_asking t columns false asking]
  exact t.header.project_index_none columns validName asking unasked

theorem label_places_named (t : Table) (place : Nat) (member : place ∈ t.labelPlaces) :
    ∃ c, t.header[place]? = some c ∧ (c.name = namespaceName ∨ c.name = nameName) := by
  have found : t.header.indexOf? namespaceName true = some place ∨ t.header.indexOf? nameName true = some place := by
    simp only [labelPlaces, List.mem_append, Option.mem_toList] at member
    refine member.imp_left fun spaced => ?_
    split at spaced
    · cases spaced
    · exact Option.mem_toList.mp spaced
  rcases found with found | found
  · obtain ⟨c, read, named⟩ := Header.index_of_some _ _ _ found
    exact ⟨c, read, .inl named⟩
  · obtain ⟨c, read, named⟩ := Header.index_of_some _ _ _ found
    exact ⟨c, read, .inr named⟩

theorem label_valid_index (t : Table) (labels : List String) :
    (t.header.labelize t.labelPlaces labels).validIndex? =
      (labels.findIdx? (· == validName)).map (· + t.labelPlaces.length) := by
  refine Header.labelize_index _ _ labels validName fun place member => ?_
  obtain ⟨c, read, spaced | named⟩ := label_places_named t place member
  · exact ⟨c, read, by rw [spaced]; decide⟩
  · exact ⟨c, read, by rw [named]; decide⟩

def keepLabelled (t : Table) (label : String) : Table :=
  match t.header.indexOf? labelsName true with
  | none => t
  | some place => t.keep fun e => !Text.isBlankText ((Labels.lookup label (Labels.parse (e.row.field place))).getD "")

theorem labelize_asking (t : Table) (labels : List String) (place : Nat)
    (found : t.header.indexOf? labelsName true = some place) (asking : labels.isEmpty = false) :
    t.labelize labels = { t with
      header := t.header.labelize t.labelPlaces labels
      events := t.events.labelize t.labelPlaces place labels } := by
  rw [labelize, found]
  dsimp only
  rw [asking]
  rfl

theorem labelize_toast (t : Table) (labels : List String) (place : Nat)
    (found : t.header.indexOf? labelsName true = some place) (asking : labels.isEmpty = false) :
    (t.labelize labels).toast =
      (if labels.contains validName then t.keepLabelled validName else t).labelize labels := by
  have labelled := labelize_asking t labels place found asking
  have valid : (t.labelize labels).header.validIndex? =
      (labels.findIdx? (· == validName)).map (· + t.labelPlaces.length) := by
    rw [labelled]
    exact label_valid_index t labels
  cases first : labels.findIdx? (· == validName) with
  | none =>
      rw [first, Option.map_none] at valid
      have unasked : labels.contains validName = false := by
        rw [← Bool.not_eq_true, List.contains_iff_mem]
        intro member
        simpa using List.findIdx?_eq_none_iff.mp first validName member
      rw [toast_all _ valid, unasked]
      rfl
  | some shown =>
      rw [first, Option.map_some] at valid
      obtain ⟨inside, named, _⟩ := List.findIdx?_eq_some_iff_getElem.mp first
      have read : labels[shown]? = some validName := by
        rw [List.getElem?_eq_getElem inside, beq_iff_eq.mp named]
      have asked : labels.contains validName = true := List.contains_iff_mem.mpr (List.mem_of_getElem? read)
      have kept : t.keepLabelled validName = t.keep fun e =>
          !Text.isBlankText ((Labels.lookup validName (Labels.parse (e.row.field place))).getD "") := by
        rw [keepLabelled, found]
      rw [toast_keeps _ _ valid, if_pos asked, kept, labelled, labelize_asking (t.keep _) labels place found asking]
      exact congrArg (Table.mk _ · t.ns) (RowEvents.map_filter t.events _ _ _ fun e =>
        e.labelize_unwell t.labelPlaces place labels shown validName read)

theorem arrange_events (t : Table) (columns labels : List String) (wide : Bool) (e : RowEvent)
    (member : e ∈ (t.arrange columns labels wide).events.toList) : ∃ s ∈ t.events.toList, s.id = e.id := by
  rcases arrange_cases t columns labels wide with all | ⟨h, f, mapped, named⟩
  · rw [all] at member
    exact ⟨e, member, rfl⟩
  · rw [mapped, RowEvents.map_list] at member
    obtain ⟨s, row, rfl⟩ := List.mem_map.mp member
    exact ⟨s, row, (named s).symm⟩

theorem toast_unwell (t : Table) (place : Nat) (found : t.header.validIndex? = some place) (e : RowEvent)
    (member : e ∈ t.toast.events.toList) : e ∈ t.events.toList ∧ e.unwell place = true := by
  rw [toast_keeps t place found, keep, RowEvents.filter_list] at member
  exact List.mem_filter.mp member

end Table

namespace Console

-- Whether the health column of the source is a column of the view. Labels take the place of all columns, if the
-- source has any labels.
def showsHealth (c : Console) : Bool :=
  if c.labels.isEmpty then c.columns.isEmpty || c.columns.contains validName || c.wide
  else (c.source.header.indexOf? labelsName true).isNone

-- What toasting leaves of the source. If the view does not show the health column, a label of its name is taken
-- for it, and without such a label nothing is left out.
def toasted (c : Console) : Table :=
  if c.showsHealth then c.source.toast
  else if c.labels.contains validName then c.source.keepLabelled validName
  else c.source

theorem columns_toasted (c : Console) (place : Nat) (found : c.source.header.validIndex? = some place)
    (unlabelled : c.labels.isEmpty = true) :
    (c.source.project c.columns c.wide).toast = c.toasted.project c.columns c.wide := by
  have visible : c.showsHealth = (c.columns.isEmpty || c.columns.contains validName || c.wide) := by
    rw [showsHealth, if_pos unlabelled]
  have unnamed : c.labels.contains validName = false := by rw [List.isEmpty_iff.mp unlabelled]; rfl
  cases shown : c.showsHealth with
  | true =>
      rw [toasted, if_pos shown]
      refine Table.project_toast_shown c.source c.columns c.wide place found ?_
      simpa [shown, or_assoc] using visible
  | false =>
      have hidden : c.columns.isEmpty = false ∧ validName ∉ c.columns ∧ c.wide = false := by
        simpa [shown, and_assoc] using visible
      rw [toasted, shown, unnamed, hidden.2.2]
      exact Table.project_toast_hidden c.source c.columns hidden.1 hidden.2.1

theorem labels_toasted (c : Console) (labelled : c.labels.isEmpty = false) :
    (c.source.labelize c.labels).toast = c.toasted.labelize c.labels := by
  have visible : c.showsHealth = (c.source.header.indexOf? labelsName true).isNone := by
    rw [showsHealth, labelled]
    rfl
  cases held : c.source.header.indexOf? labelsName true with
  | none =>
      have shown : c.showsHealth = true := by rw [visible, held]; rfl
      have toastHeld : c.source.toast.header.indexOf? labelsName true = none := by
        rw [Table.kept_header _ _ (Table.toast_cases c.source), held]
      rw [toasted, if_pos shown, Table.labelize, held, Table.labelize, toastHeld]
  | some place =>
      have hidden : c.showsHealth = false := by rw [visible, held]; rfl
      rw [toasted, hidden]
      exact Table.labelize_toast c.source c.labels place held labelled

theorem arrange_toasted (c : Console) (place : Nat) (found : c.source.header.validIndex? = some place) :
    (c.source.arrange c.columns c.labels c.wide).toast = c.toasted.arrange c.columns c.labels c.wide := by
  unfold Table.arrange
  split
  · rename_i unlabelled
    exact columns_toasted c place found unlabelled
  · rename_i labelled
    exact labels_toasted c (Bool.eq_false_iff.mpr labelled)

theorem reached_fresh (c : Console) (history : List Step) (reached : c.ReachedBy history) (place : Nat)
    (found : c.source.header.validIndex? = some place) : c.Fresh := by
  obtain ⟨cluster, context, kind, scope, theme, colorer, options, ran⟩ := reached
  cases given : latest? history with
  | some t => exact run_fresh _ c history t given ran
  | none =>
      rw [run_source _ c history ran, given] at found
      cases found

/-- Where a console toasts a source with a health column, the view is what toasting leaves of the source, in the
columns, filtered by the text and sorted as the settings say. If the view has the health column, each of its rows is
a row of the source whose health cell is not blank. If it has not, and no label of its name is asked for either, the
view is just what it is without toasting. -/
theorem toast_hides_healthy (c : Console) (history : List Step) (reached : c.ReachedBy history)
    (toasting : c.toast = true) (place : Nat) (found : c.source.header.validIndex? = some place) :
    ((c.toasted.arrange c.columns c.labels c.wide).select c.filter).sort? c.sort = some c.view ∧
      (c.showsHealth = true → ∀ e ∈ c.view.events.toList, ∃ s ∈ c.source.events.toList,
        s.id = e.id ∧ s.unwell place = true) ∧
      (c.showsHealth = false → c.labels.contains validName = false →
        ({ c with toast := false } : Console).shown.sort? c.sort = some c.view) := by
  have made : ((c.toasted.arrange c.columns c.labels c.wide).select c.filter).sort? c.sort = some c.view := by
    rw [← (reached_fresh c history reached place found).view, ← arrange_toasted c place found, shown, Table.filter,
      rowFilter, toasting]
    rfl
  refine ⟨made, fun healthShown e member => ?_, fun hidden unnamed => ?_⟩
  · have selected := (Table.sort_only_permutes _ c.view c.sort made).1.mem_iff.mp member
    have arranged := Table.kept_events _ _ (Table.select_cases _ c.filter) e selected
    obtain ⟨s, left, same⟩ := Table.arrange_events _ _ _ _ e arranged
    rw [toasted, if_pos healthShown] at left
    obtain ⟨row, unwell⟩ := Table.toast_unwell c.source place found s left
    exact ⟨s, row, same, unwell⟩
  · rw [← made, toasted, hidden, unnamed]
    rfl

def toastPods : List Step := [.setTable 0 twoPods, .act .toggleToast]

def toastedPods? (columns : List String) : Option Console := (podConsole { columns := columns }).run? toastPods

theorem healthy_pod_hidden :
    ∃ c ∈ toastedPods? [nameName, validName], c.view.events.ids = ["ns1/web"] ∧
      ∀ e ∈ c.view.events.toList, ∃ s ∈ c.source.events.toList, s.id = e.id ∧ s.unwell 1 = true := by
  have shown : (toastedPods? [nameName, validName]).map (fun c => (c.view.events.ids, c.toast)) =
      some (["ns1/web"], true) := by decide +kernel
  have health : (toastedPods? [nameName, validName]).map (fun c => (c.source.header.validIndex?, c.showsHealth)) =
      some (some 1, true) := by decide +kernel
  obtain ⟨c, ran, same⟩ := Option.map_eq_some_iff.mp shown
  rw [ran, Option.map_some, Option.some.injEq, Prod.mk.injEq] at health
  rw [Prod.mk.injEq] at same
  have hides := toast_hides_healthy c toastPods (pod_console_reached _ toastPods c ran) same.2 1 health.1
  exact ⟨c, ran, same.1, hides.2.1 health.2⟩

theorem healthy_pod_shown :
    ∃ c ∈ toastedPods? [nameName], c.ReachedBy toastPods ∧ c.toast = true ∧
      c.source.header.validIndex? = some 1 ∧
      ∃ e ∈ c.view.events.toList, ∀ s ∈ c.source.events.toList, s.id = e.id → s.unwell 1 = false := by
  let e : RowEvent := ⟨.added, ⟨"ns1/db", ["db"]⟩, [""]⟩
  have settings : (toastedPods? [nameName]).map (fun c => (c.toast, c.source.header.validIndex?)) =
      some (true, some 1) := by decide +kernel
  have rows : (toastedPods? [nameName]).all (fun c => decide (e ∈ c.view.events.toList ∧
      ∀ s ∈ c.source.events.toList, s.id = e.id → s.unwell 1 = false)) = true := by decide +kernel
  obtain ⟨c, ran, same⟩ := Option.map_eq_some_iff.mp settings
  rw [ran, Option.all_some, decide_eq_true_iff] at rows
  rw [Prod.mk.injEq] at same
  exact ⟨c, ran, pod_console_reached _ toastPods c ran, same.1, same.2, e, rows.1, rows.2⟩

end Console

end LiveTable
