import LiveTable.Proofs.Reconciliation

namespace LiveTable

def Row.Changed (h : Header) (old new : Row) : Prop :=
  ∃ i, h.isTime i = false ∧ old.fields[i]? ≠ new.fields[i]?

theorem Row.changed_within (h : Header) (old new : Row) :
    Row.Changed h old new ↔ ∃ i ∈ List.range (max old.fields.length new.fields.length),
      h.isTime i = false ∧ old.fields[i]? ≠ new.fields[i]? := by
  simp only [Row.Changed, List.mem_range]
  refine exists_congr fun i => ⟨fun ⟨timeless, other⟩ => ⟨?_, timeless, other⟩, And.right⟩
  by_contra beyond
  have outside : old.fields.length ≤ i ∧ new.fields.length ≤ i := by omega
  rw [List.getElem?_eq_none outside.1, List.getElem?_eq_none outside.2] at other
  exact other rfl

instance (h : Header) (old new : Row) : Decidable (Row.Changed h old new) :=
  decidable_of_iff _ (Row.changed_within h old new).symm

def Row.Replaced (h : Header) (old new : Row) : Prop :=
  ∃ i previous, i < new.fields.length ∧ h.isTime i = false ∧ old.fields[i]? = some previous ∧
    previous ≠ "" ∧ new.fields[i]? ≠ some previous

theorem Row.replaced_changed (h : Header) (old new : Row) (replaced : Row.Replaced h old new) :
    Row.Changed h old new := by
  obtain ⟨i, previous, _, timeless, read, _, other⟩ := replaced
  exact ⟨i, timeless, fun same => other (same ▸ read)⟩

theorem Delta.between_blank (h : Header) (old new : Row) :
    (Delta.between old new h).isBlank = true ↔ ¬ Row.Replaced h old new := by
  simp only [Delta.isBlank, Delta.between, List.all_map, List.all_eq_true, List.mem_range,
    Function.comp_apply, String.isEmpty_iff, Row.Replaced, not_exists]
  refine forall_congr' fun i => ?_
  cases read : old.fields[i]? with
  | none => simp
  | some previous =>
      simp only [Option.some.injEq, bne_iff_ne, ne_eq, Bool.and_eq_true, Bool.not_eq_true',
        ite_eq_right_iff, not_and, not_not]
      constructor
      · rintro blank _ inside timeless rfl kept
        by_contra other
        exact kept (blank inside ⟨fun same => other same.symm, timeless⟩)
      · rintro noneReplaced inside ⟨other, timeless⟩
        by_contra kept
        exact other (noneReplaced previous inside timeless rfl kept).symm

theorem RowEvent.of_next_change (h : Header) (old new : Row) :
    (RowEvent.ofNext h old new).change = .updated ∧ Row.Replaced h old new ∧
        (RowEvent.ofNext h old new).delta.isBlank = false ∨
      (RowEvent.ofNext h old new).change = .unchanged ∧ ¬ Row.Replaced h old new := by
  by_cases blank : (Delta.between old new h).isBlank = true
  · right
    exact ⟨by rw [ofNext, if_pos blank, plain], (Delta.between_blank h old new).mp blank⟩
  · left
    have replaced := not_not.mp (mt (Delta.between_blank h old new).mpr blank)
    simpa [ofNext, blank] using replaced

namespace Table

-- What an event has to say of its row, given the rows of the snapshot before. The relation tells when
-- a row has changed.
structure ClassifiedBy (t : Table) (changed : Row → Row → Prop) (e : RowEvent) : Prop where
  added : e.change = .added ↔ e.id ∉ t.events.ids
  updated : e.change = .updated ↔ ∃ old ∈ t.events.toList, old.id = e.id ∧ changed old.row e.row
  unchanged : e.change = .unchanged ↔
    e.id ∈ t.events.ids ∧ ¬ ∃ old ∈ t.events.toList, old.id = e.id ∧ changed old.row e.row
  marked : e.change = .updated → e.delta.isBlank = false

theorem classified_by_congr (t : Table) (r s : Row → Row → Prop) (e : RowEvent)
    (agree : ∀ old ∈ t.events.toList, old.id = e.id → (r old.row e.row ↔ s old.row e.row))
    (classified : t.ClassifiedBy r e) : t.ClassifiedBy s e := by
  have same : (∃ old ∈ t.events.toList, old.id = e.id ∧ r old.row e.row) ↔
      ∃ old ∈ t.events.toList, old.id = e.id ∧ s old.row e.row := by
    refine exists_congr fun old => and_congr_right fun member => and_congr_right fun named => ?_
    exact agree old member named
  exact ⟨classified.added, classified.updated.trans same,
    classified.unchanged.trans (and_congr_right fun _ => not_congr same), classified.marked⟩

theorem retained_unique (t : Table) (indexed : t.events.Indexed) (e f : RowEvent)
    (first : e ∈ t.events.toList) (second : f ∈ t.events.toList) (same : e.id = f.id) : e = f := by
  have found := (RowEvents.get_some t.events f.id e indexed).mpr ⟨first, same⟩
  rw [(RowEvents.get_some t.events f.id f indexed).mpr ⟨second, rfl⟩] at found
  exact (Option.some.inj found).symm

theorem retained_iff (t : Table) (indexed : t.events.Indexed) (old : RowEvent) (member : old ∈ t.events.toList)
    (p : Row → Prop) : (∃ e ∈ t.events.toList, e.id = old.id ∧ p e.row) ↔ p old.row := by
  constructor
  · rintro ⟨e, other, same, holds⟩
    rwa [retained_unique t indexed e old other member same] at holds
  · exact fun holds => ⟨old, member, rfl, holds⟩

theorem event_of_classified (t : Table) (row : Row) (indexed : t.events.Indexed) :
    t.ClassifiedBy (Row.Replaced t.header) (t.eventOf t.events row) := by
  have named := event_of_id t t.events row
  have placed := event_of_row t t.events row
  cases found : t.events.get? row.id with
  | none =>
      have absent := (RowEvents.get_none t.events row.id indexed).mp found
      have change : (t.eventOf t.events row).change = .added := by rw [eventOf, found, RowEvent.plain]
      have missing : ¬ ∃ old ∈ t.events.toList, old.id = row.id ∧ Row.Replaced t.header old.row row := by
        rintro ⟨old, member, same, _⟩
        exact absent ((RowEvents.mem_ids _ _).mpr ⟨old, member, same⟩)
      constructor <;> rw [change] <;> simp [named, placed, absent, missing]
  | some old =>
      obtain ⟨member, same⟩ := (RowEvents.get_some t.events row.id old indexed).mp found
      have retained : row.id ∈ t.events.ids := (RowEvents.mem_ids _ _).mpr ⟨old, member, same⟩
      have only := retained_iff t indexed old member (Row.Replaced t.header · row)
      have made : t.eventOf t.events row = .ofNext t.header old.row row := by rw [eventOf, found]
      rw [same] at only
      rw [made] at named placed ⊢
      rcases RowEvent.of_next_change t.header old.row row with ⟨change, replaced, delta⟩ | ⟨change, kept⟩
      · constructor <;> rw [change] <;> simp [named, placed, retained, only, replaced, delta]
      · constructor <;> rw [change] <;> simp [named, placed, retained, only, kept]

/-- A change counts where it replaces text. So the events tell every change of a retained row exactly
when no row has changed by nothing but cells that were empty. -/
theorem update_classifies (t : Table) (rows : List Row) (indexed : t.events.Indexed)
    (distinct : (rows.map Row.id).Nodup) :
    (∀ e ∈ (t.update rows).events.toList, t.ClassifiedBy (Row.Replaced t.header) e) ∧
      ((∀ e ∈ (t.update rows).events.toList, t.ClassifiedBy (Row.Changed t.header) e) ↔
        ∀ row ∈ rows, ∀ old ∈ t.events.toList, old.id = row.id →
          Row.Changed t.header old.row row → Row.Replaced t.header old.row row) := by
  have actual : ∀ e ∈ (t.update rows).events.toList, t.ClassifiedBy (Row.Replaced t.header) e := by
    intro e member
    obtain ⟨row, _, rfl⟩ := (mem_update_distinct t rows indexed distinct e).mp member
    exact event_of_classified t row indexed
  refine ⟨actual, fun classified row given old member same changed => ?_, fun noticed e member => ?_⟩
  · have made := (mem_update_distinct t rows indexed distinct _).mpr ⟨row, given, rfl⟩
    have named := (event_of_id t t.events row).trans same.symm
    have placed := event_of_row t t.events row
    have update := (classified _ made).updated.mpr ⟨old, member, named.symm, by rwa [placed]⟩
    have replaced := (actual _ made).updated.mp update
    rwa [named, placed, retained_iff t indexed old member (Row.Replaced t.header · row)] at replaced
  · obtain ⟨row, given, rfl⟩ := (mem_update_distinct t rows indexed distinct e).mp member
    refine classified_by_congr t _ _ _ (fun old before same => ?_) (actual _ member)
    rw [event_of_id] at same
    rw [event_of_row]
    exact ⟨Row.replaced_changed _ _ _, noticed row given old before same⟩

theorem renamed_pod_classified :
    threePods.events.Indexed ∧ (["c", "d"].map fun name => (⟨name, ["x"]⟩ : Row).id).Nodup ∧
      ∀ e ∈ (threePods.update [⟨"c", ["x"]⟩, ⟨"d", ["x"]⟩]).events.toList,
        threePods.ClassifiedBy (Row.Changed threePods.header) e := by
  refine ⟨three_pods_indexed, by decide, ?_⟩
  refine (update_classifies threePods _ three_pods_indexed (by decide)).2.mpr ?_
  rintro row given old member same -
  have filled : ∀ old ∈ threePods.events.toList, old.row.fields[0]? = some old.id ∧ old.id ≠ "" ∧ old.id ≠ "x" := by
    decide
  obtain ⟨read, text, other⟩ := filled old member
  have fields : row.fields = ["x"] := by
    simp only [List.mem_cons, List.not_mem_nil, or_false] at given
    rcases given with rfl | rfl <;> rfl
  exact ⟨0, old.id, by simp [fields], by decide, read, text, by simpa [fields] using Ne.symm other⟩

def waitingPod : Table :=
  ⟨[Column.named "NAME", Column.named "NODE"], .ofList [.plain .added ⟨"a", ["a", ""]⟩], "all"⟩

theorem filled_cell_unnoticed :
    waitingPod.events.Indexed ∧ waitingPod.events.ids = ["a"] ∧
      waitingPod.events.toList.map (fun e => e.row.fields.length) = [2] ∧
      ¬ ∀ e ∈ (waitingPod.update [⟨"a", ["a", "n1"]⟩]).events.toList,
        waitingPod.ClassifiedBy (Row.Changed waitingPod.header) e := by
  refine ⟨?_, by decide, by decide, fun classified => ?_⟩
  · rw [waitingPod, RowEvents.of_list_reindex]
    exact RowEvents.reindex_indexed _ (by decide)
  · have made : RowEvent.plain .unchanged ⟨"a", ["a", "n1"]⟩ ∈
        (waitingPod.update [⟨"a", ["a", "n1"]⟩]).events.toList := by decide
    have before : RowEvent.plain .added ⟨"a", ["a", ""]⟩ ∈ waitingPod.events.toList := by decide
    have change := (classified _ made).updated.mpr ⟨_, before, rfl, 1, by decide, by decide⟩
    cases change

end Table

end LiveTable
