import LiveTable.Proofs.LabelText
import LiveTable.Proofs.RepeatedRows

namespace LiveTable

def Row.label? (r : Row) (place : Nat) (label : String) : Option String :=
  Labels.lookup label (Labels.parse (r.field place))

theorem Row.label_blank (r : Row) (place : Nat) (label : String) (blank : r.field place = "") :
    r.label? place label = none := by
  rw [label?, blank]
  rfl

-- What a column is to tell of its label: nothing where the label is as before, else that there was none, or what
-- its value was.
structure Labels.Told (before after : Option String) (entry : String) : Prop where
  kept : entry = "" ↔ before = after
  appeared : before = none → after ≠ none → entry = Cell.missing
  replaced : ∀ value, before = some value → after ≠ some value → value ≠ "" → entry = value

theorem Labels.told_iff (before after : Option String) (cell : String) (absent : cell = "" → before = none) :
    Told before after (if cell = "" ∨ before = after then "" else before.getD Cell.missing) ↔
      before = after ∨ cell ≠ "" ∧ before ≠ some "" := by
  by_cases same : before = after
  · subst same
    rw [if_pos (.inr rfl)]
    exact iff_of_true ⟨iff_of_true rfl rfl, fun none some => absurd none some, fun _ read other => absurd read other⟩
      (.inl rfl)
  · by_cases vacant : cell = ""
    · rw [if_pos (.inl vacant)]
      exact iff_of_false (fun told => same (told.kept.mp rfl)) (by simp [same, vacant])
    · rw [if_neg (by simp [same, vacant])]
      cases before with
      | none => exact iff_of_true ⟨iff_of_false (by decide) same, fun _ _ => rfl, nofun⟩ (.inr ⟨vacant, nofun⟩)
      | some value =>
          by_cases blank : value = ""
          · subst blank
            exact iff_of_false (fun told => same (told.kept.mp rfl)) (by simp [same])
          · refine iff_of_true ⟨iff_of_false blank same, nofun, ?_⟩ (.inr ⟨vacant, by simp [blank]⟩)
            rintro _ ⟨⟩ _ _
            rfl

namespace Delta

theorem label_entry (d : Delta) (places : List Nat) (place : Nat) (current : Row) (labels : List String) (shown : Nat)
    (label : String) (read : labels[shown]? = some label) :
    (d.labelize places place current labels)[places.length + shown]? =
      some (if (d.getD place "").isEmpty then ""
        else ofLabel (Labels.parse (d.getD place "")) (Labels.parse (current.field place)) label) := by
  have inside := (List.getElem?_eq_some_iff.mp read).1
  by_cases silent : d.isBlank = true
  · rw [labelize, if_pos silent, blank_entry d silent place, blank,
      List.getElem?_replicate_of_lt (Nat.add_lt_add_left inside _)]
    rfl
  · rw [labelize, if_neg silent, List.getElem?_append_right (by simp), List.length_map, Nat.add_sub_cancel_left,
      List.getElem?_map, read]
    rfl

theorem between_entry (old new : Row) (h : Header) (place : Nat) (timeless : h.isTime place = false)
    (inside : place < new.fields.length) (sized : old.fields.length = new.fields.length) :
    (between old new h).getD place "" =
      if old.field place = new.field place then "" else old.field place := by
  have outside : place < old.fields.length := sized ▸ inside
  simp only [between, Row.field, List.getD_eq_getElem?_getD, List.getElem?_map, List.getElem?_range inside,
    Option.map_some, Option.getD_some, List.getElem?_eq_getElem inside, List.getElem?_eq_getElem outside, timeless]
  by_cases same : old.fields[place] = new.fields[place] <;> simp [same]

end Delta

theorem RowEvent.next_label_entry (h : Header) (old new : Row) (places : List Nat) (place : Nat) (labels : List String)
    (shown : Nat) (label : String) (read : labels[shown]? = some label) (timeless : h.isTime place = false)
    (inside : place < new.fields.length) (sized : old.fields.length = new.fields.length) :
    ((ofNext h old new).labelize places place labels).delta[places.length + shown]? =
      some (if old.field place = "" ∨ old.label? place label = new.label? place label then ""
        else (old.label? place label).getD Cell.missing) := by
  simp only [labelize, of_next_delta, Table.of_next_row]
  rw [Delta.label_entry _ places place new labels shown label read,
    Delta.between_entry old new h place timeless inside sized]
  by_cases same : old.field place = new.field place
  · simp [same, Row.label?]
  · rw [if_neg same]
    by_cases vacant : old.field place = ""
    · simp [vacant]
    · simp [vacant, Row.label?, Delta.ofLabel]

namespace Table

variable (t : Table) (old new : Row)

theorem update_again (vacant : t.events = .empty) (same : new.id = old.id) :
    ((t.update [old]).update [new]).events.toList = [.ofNext t.header old new] := by
  have first : (t.update [old]).events.toList = [.plain .added old] := update_new t [old] vacant (by simp)
  have indexed : (t.update [old]).events.Indexed := update_indexed t [old] (vacant ▸ RowEvents.indexed_empty)
  have known : (t.update [old]).events.get? new.id = some (.plain .added old) :=
    (RowEvents.get_some _ _ _ indexed).mpr ⟨by simp [first], same.symm⟩
  have ids : ((t.update [old]).update [new]).events.ids = [new.id] := by
    have before : (t.update [old]).events.ids = [new.id] := by
      rw [RowEvents.ids, first, same]
      rfl
    rw [update_ids _ [new] indexed, before]
    simp [List.eraseDups_cons]
  have rows : ((t.update [old]).update [new]).events.toList.map RowEvent.row = [new] := by
    rw [update_rows _ [new] indexed, ids]
    simp [Row.last?, Row.versions]
  rw [by_rows _ _ (update_told_distinct (t.update [old]) [new] indexed (by simp)), rows, List.map_singleton, eventOf,
    known]
  rfl

/-- The column of a label that is asked for tells nothing where the label is as before or the cell of all labels was
empty; else it tells the value before, or that there was none. So every change of a label is told but that of the
first labels of a row and that of a label without value. -/
theorem label_changes_told (labels : List String) (place : Nat) (vacant : t.events = .empty)
    (found : t.header.indexOf? labelsName true = some place) (timeless : t.header.isTime place = false)
    (same : new.id = old.id) (oldFits : old.fields.length = t.header.length)
    (newFits : new.fields.length = t.header.length) :
    ∃ e, (((t.update [old]).update [new]).labelize labels).events.toList = [e] ∧ e.id = old.id ∧
      ∀ shown label, labels[shown]? = some label →
        (((t.update [old]).update [new]).labelize labels).header[t.labelPlaces.length + shown]? =
            some (Column.named label) ∧
          ∃ entry, e.delta[t.labelPlaces.length + shown]? = some entry ∧
            entry = (if old.field place = "" ∨ old.label? place label = new.label? place label then ""
              else (old.label? place label).getD Cell.missing) ∧
            (Labels.Told (old.label? place label) (new.label? place label) entry ↔
              old.label? place label = new.label? place label ∨
                old.field place ≠ "" ∧ old.label? place label ≠ some "") := by
  have told := update_again t old new vacant same
  have named : (RowEvent.ofNext t.header old new).row.id = old.id := by rw [of_next_row, same]
  have inside : place < new.fields.length := by
    obtain ⟨c, there, _⟩ := t.header.index_of_some labelsName place found
    rw [newFits]
    exact (List.getElem?_eq_some_iff.mp there).1
  cases asking : labels.isEmpty with
  | true =>
      have all : ((t.update [old]).update [new]).labelize labels = (t.update [old]).update [new] := by
        rw [labelize, List.isEmpty_iff.mp asking]
        split <;> rfl
      have only := (congrArg (·.events.toList) all).trans told
      refine ⟨RowEvent.ofNext t.header old new, only, named, fun shown label read => ?_⟩
      rw [List.isEmpty_iff.mp asking] at read
      cases read
  | false =>
      refine ⟨(RowEvent.ofNext t.header old new).labelize t.labelPlaces place labels, ?_, named, ?_⟩
      · rw [labelize_events ((t.update [old]).update [new]) labels place found asking, told]
        rfl
      · intro shown label read
        exact ⟨labelize_column ((t.update [old]).update [new]) labels place found shown label read, _,
          RowEvent.next_label_entry t.header old new t.labelPlaces place labels shown label read timeless inside
            (oldFits.trans newFits.symm), rfl,
          Labels.told_iff _ _ _ fun blank => old.label_blank place label blank⟩

def podColumns : Table := { Table.new "all" with header := [nameName, "READY", labelsName].map Column.named }

def podWithLabels (ready : String) (labels : List (String × String)) : Row := ⟨"a", ["a", ready, Labels.write labels]⟩

theorem moved_zone_told :
    podColumns.header.indexOf? labelsName true = some 2 ∧ podColumns.header.isTime 2 = false ∧
      ∃ e, (((podColumns.update [podWithLabels "0/1" [("app", "web"), ("zone", "a")]]).update
          [podWithLabels "1/1" [("tier", "front"), ("zone", "b")]]).labelize ["tier", "zone"]).events.toList = [e] ∧
        (∃ entry, e.delta[1]? = some entry ∧ Labels.Told none (some "front") entry) ∧
        ∃ entry, e.delta[2]? = some entry ∧ Labels.Told (some "a") (some "b") entry := by
  obtain ⟨e, only, _, told⟩ := label_changes_told podColumns (podWithLabels "0/1" [("app", "web"), ("zone", "a")])
    (podWithLabels "1/1" [("tier", "front"), ("zone", "b")]) ["tier", "zone"] 2 rfl (by decide) (by decide) rfl rfl rfl
  obtain ⟨_, tier, first, _, appeared⟩ := told 0 "tier" rfl
  obtain ⟨_, zone, second, _, replaced⟩ := told 1 "zone" rfl
  exact ⟨by decide, by decide, e, only, ⟨tier, first, appeared.mpr (.inr (by decide))⟩, zone, second,
    replaced.mpr (.inr (by decide))⟩

theorem first_label_untold :
    podColumns.header.indexOf? labelsName true = some 2 ∧ podColumns.header.isTime 2 = false ∧
      (((podColumns.update [podWithLabels "0/1" []]).update
          [podWithLabels "1/1" [("app", "web")]]).labelize ["app"]).events.toList.map
            (fun e => (e.row.fields, e.delta)) = [(["a", "web"], ["", ""])] ∧
      ¬Labels.Told ((podWithLabels "0/1" []).label? 2 "app")
        ((podWithLabels "1/1" [("app", "web")]).label? 2 "app") "" := by
  refine ⟨by decide, by decide, by decide, fun told => ?_⟩
  exact absurd (told.kept.mp rfl) (by decide)

end Table

end LiveTable
