import LiveTable.Proofs.Reconciliation
import LiveTable.Proofs.SortedMembers
import LiveTable.Table.Projection

namespace LiveTable

-- Events stand for rows that are there, and only updates have a delta to show.
def RowEvent.Settled (e : RowEvent) : Prop :=
  e.change ≠ .deleted ∧ e.change ≠ .cleared ∧ (e.change = .updated ↔ e.delta.isBlank = false)

theorem Delta.blank_blank (size : Nat) : (Delta.blank size).isBlank = true := by
  simp [Delta.blank, Delta.isBlank]

theorem Delta.blank_entry (d : Delta) (blank : d.isBlank = true) (i : Nat) : d.getD i "" = "" := by
  rw [List.getD_eq_getElem?_getD]
  cases read : d[i]? with
  | none => rfl
  | some entry => simpa using List.all_eq_true.mp blank entry (List.mem_of_getElem? read)

theorem RowEvent.plain_settled (change : Change) (row : Row) (present : change = .added ∨ change = .unchanged) :
    (RowEvent.plain change row).Settled := by
  have blank : (RowEvent.plain change row).delta.isBlank = true := Delta.blank_blank row.fields.length
  refine ⟨?_, ?_, ?_⟩
  · rintro rfl
    simp at present
  · rintro rfl
    simp at present
  · rw [blank]
    rcases present with rfl | rfl <;> simp [RowEvent.plain]

theorem RowEvent.of_next_settled (h : Header) (old new : Row) : (RowEvent.ofNext h old new).Settled := by
  unfold RowEvent.ofNext
  dsimp only
  split
  · exact RowEvent.plain_settled .unchanged new (.inr rfl)
  · rename_i marked
    exact ⟨nofun, nofun, by simpa using marked⟩

namespace RowEvents

structure Sound (es : RowEvents) : Prop where
  indexed : es.Indexed
  settled : ∀ e ∈ es.toList, e.Settled

theorem sound_empty : empty.Sound := ⟨indexed_empty, nofun⟩

theorem sublist_sound (es : RowEvents) (events : List RowEvent) (sound : es.Sound)
    (sub : events.Sublist es.toList) : (reindex events).Sound :=
  ⟨sublist_indexed es events sound.indexed sub, fun e member => sound.settled e (sub.subset member)⟩

theorem delete_sound (es fs : RowEvents) (id : String) (sound : es.Sound)
    (deleted : es.delete? id = some fs) : fs.Sound := by
  obtain ⟨place, _, rfl⟩ := Option.map_eq_some_iff.mp deleted
  exact sublist_sound es _ sound (List.eraseIdx_sublist es.toList place)

theorem filter_reindex (es : RowEvents) (p : RowEvent → Bool) : es.filter p = reindex (es.toList.filter p) :=
  of_list_reindex _

theorem filter_list (es : RowEvents) (p : RowEvent → Bool) : (es.filter p).toList = es.toList.filter p := by
  rw [filter_reindex]
  rfl

theorem map_list (es : RowEvents) (f : RowEvent → RowEvent) : (es.map f).toList = es.toList.map f := by
  rw [map, of_list_reindex]
  rfl

theorem filter_indexed (es : RowEvents) (p : RowEvent → Bool) (indexed : es.Indexed) : (es.filter p).Indexed := by
  rw [filter_reindex]
  exact sublist_indexed es _ indexed List.filter_sublist

theorem filter_sound (es : RowEvents) (p : RowEvent → Bool) (sound : es.Sound) : (es.filter p).Sound := by
  refine ⟨filter_indexed es p sound.indexed, fun e member => sound.settled e ?_⟩
  rw [filter_list] at member
  exact (List.mem_filter.mp member).1

theorem sort_perm (es fs : RowEvents) (o : CellOrder) (column : Nat) (ascending : Bool)
    (sorted : es.sort? o column ascending = some fs) : fs.toList.Perm es.toList ∧ fs = reindex fs.toList := by
  obtain ⟨events, arranged, rfl⟩ := Option.map_eq_some_iff.mp sorted
  exact ⟨Sorting.sort_perm _ es.toList events arranged, rfl⟩

theorem sort_indexed (es fs : RowEvents) (o : CellOrder) (column : Nat) (ascending : Bool) (indexed : es.Indexed)
    (sorted : es.sort? o column ascending = some fs) : fs.Indexed := by
  obtain ⟨permuted, made⟩ := sort_perm es fs o column ascending sorted
  rw [made]
  exact reindex_indexed _ ((permuted.map RowEvent.id).nodup_iff.mpr indexed.distinct)

theorem sort_sound (es fs : RowEvents) (o : CellOrder) (column : Nat) (ascending : Bool) (sound : es.Sound)
    (sorted : es.sort? o column ascending = some fs) : fs.Sound :=
  ⟨sort_indexed es fs o column ascending sound.indexed sorted,
    fun e member => sound.settled e ((sort_perm es fs o column ascending sorted).1.mem_iff.mp member)⟩

end RowEvents

namespace Table

inductive Operation where
  | setHeader (header : Header)
  | update (rows : List Row)
  | reconcile (now : Int) (renderer : Renderer) (specs : ColumnSpecs) (objects : List Json)
  | delete (id : String)
  | clear
  | reset (ns : String)
  | sort (column : SortColumn)
  | filter (f : RowFilter)

def perform? (t : Table) : Operation → Option Table
  | .setHeader header => some { t with header }
  | .update rows => some (t.update rows)
  | .reconcile now renderer specs objects => (t.reconcile? now renderer specs objects).map (·.1)
  | .delete id => some (t.delete id)
  | .clear => some t.clear
  | .reset ns => some (reset ns)
  | .sort column => t.sort? column
  | .filter f => some (t.filter f)

theorem arrival_settled (t : Table) (es : RowEvents) (row : Row) : (t.arrival es row).Settled := by
  unfold arrival
  split
  · exact RowEvent.plain_settled .added row (.inl rfl)
  · unfold eventOf
    split
    · exact RowEvent.plain_settled .added row (.inl rfl)
    · exact RowEvent.of_next_settled t.header _ row

theorem update_sound (t : Table) (rows : List Row) (sound : t.events.Sound) : (t.update rows).events.Sound :=
  ⟨update_indexed t rows sound.indexed, update_forall _ t rows sound.settled t.arrival_settled⟩

theorem relayout_sound (t : Table) (h : Header) (sound : t.events.Sound) : (t.relayout h).events.Sound := by
  unfold relayout
  split
  · exact sound
  · exact RowEvents.sound_empty

theorem reconcile_sound (now : Int) (t next : Table) (renderer : Renderer) (specs : ColumnSpecs)
    (objects : List Json) (outcome : Except String Unit) (sound : t.events.Sound)
    (completed : t.reconcile? now renderer specs objects = some (next, outcome)) : next.events.Sound := by
  rcases reconcile_cases now t next renderer specs objects outcome completed with ⟨_, rfl, _⟩ | ⟨h, rows, rfl, _⟩
  · exact sound
  · exact update_sound _ rows (relayout_sound t h sound)

theorem sort_cases (t next : Table) (column : SortColumn) (sorted : t.sort? column = some next) :
    next = t ∨ ∃ o place events, t.events.sort? o place column.ascending = some events ∧
      next = { t with events } := by
  unfold sort? at sorted
  split at sorted
  · exact .inl (Option.some.inj sorted).symm
  · split at sorted
    · exact .inl (Option.some.inj sorted).symm
    · obtain ⟨events, arranged, rfl⟩ := Option.map_eq_some_iff.mp sorted
      exact .inr ⟨_, _, events, arranged, rfl⟩

theorem sort_only_permutes (t next : Table) (column : SortColumn) (sorted : t.sort? column = some next) :
    next.events.toList.Perm t.events.toList ∧ next.header = t.header ∧ next.ns = t.ns := by
  rcases sort_cases t next column sorted with rfl | ⟨o, place, events, arranged, rfl⟩
  · exact ⟨.rfl, rfl, rfl⟩
  · exact ⟨(RowEvents.sort_perm _ _ _ _ _ arranged).1, rfl, rfl⟩

theorem sort_sound (t next : Table) (column : SortColumn) (sound : t.events.Sound)
    (sorted : t.sort? column = some next) : next.events.Sound := by
  rcases sort_cases t next column sorted with rfl | ⟨o, place, events, arranged, rfl⟩
  · exact sound
  · exact RowEvents.sort_sound t.events events o place column.ascending sound arranged

theorem toast_cases (t : Table) : t.toast = t ∨ ∃ p, t.toast = t.keep p := by
  unfold toast
  split
  · exact .inl rfl
  · exact .inr ⟨_, rfl⟩

theorem select_cases (t : Table) (query : String) : t.select query = t ∨ ∃ p, t.select query = t.keep p := by
  unfold select
  split
  · exact .inl rfl
  · exact .inr ⟨_, rfl⟩
  · unfold matching
    split
    · exact .inl rfl
    · exact .inr ⟨_, rfl⟩

theorem keep_keep (t : Table) (p q : RowEvent → Bool) : (t.keep p).keep q = t.keep fun e => q e && p e := by
  simp only [keep, RowEvents.filter_reindex, RowEvents.reindex, List.filter_filter]

theorem filter_cases (t : Table) (f : RowFilter) : t.filter f = t ∨ ∃ p, t.filter f = t.keep p := by
  unfold filter
  split
  · rcases toast_cases t with all | ⟨p, some⟩
    · rw [all]
      exact select_cases t f.query
    · rw [some]
      rcases select_cases (t.keep p) f.query with all | ⟨q, some⟩
      · exact .inr ⟨p, all⟩
      · exact .inr ⟨_, some.trans (keep_keep t p q)⟩
  · exact select_cases t f.query

theorem kept_header (t next : Table) (cases : next = t ∨ ∃ p, next = t.keep p) : next.header = t.header := by
  rcases cases with rfl | ⟨p, rfl⟩ <;> rfl

theorem arrange_cases (t : Table) (columns labels : List String) (wide : Bool) :
    t.arrange columns labels wide = t ∨ ∃ (h : Header) (f : RowEvent → RowEvent),
      t.arrange columns labels wide = { t with header := h, events := t.events.map f } ∧ ∀ e, (f e).id = e.id := by
  unfold arrange
  split
  · unfold project
    split
    · exact .inl rfl
    · exact .inr ⟨_, _, rfl, fun _ => rfl⟩
  · unfold labelize
    split
    · exact .inl rfl
    · split
      · exact .inl rfl
      · exact .inr ⟨_, _, rfl, fun _ => rfl⟩

theorem kept_sound (t next : Table) (cases : next = t ∨ ∃ p, next = t.keep p) (sound : t.events.Sound) :
    next.events.Sound := by
  rcases cases with rfl | ⟨p, rfl⟩
  · exact sound
  · exact RowEvents.filter_sound t.events p sound

theorem filter_sound (t : Table) (f : RowFilter) (sound : t.events.Sound) : (t.filter f).events.Sound :=
  kept_sound t _ (filter_cases t f) sound

theorem perform_sound (t next : Table) (operation : Operation) (sound : t.events.Sound)
    (performed : t.perform? operation = some next) : next.events.Sound := by
  cases operation with
  | setHeader header =>
      cases performed
      exact sound
  | update rows =>
      cases performed
      exact update_sound t rows sound
  | reconcile now renderer specs objects =>
      obtain ⟨⟨table, outcome⟩, completed, rfl⟩ := Option.map_eq_some_iff.mp performed
      exact reconcile_sound now t table renderer specs objects outcome sound completed
  | delete id =>
      cases performed
      cases deleted : t.events.delete? id with
      | none => simpa only [delete, deleted, Option.getD_none] using sound
      | some rest =>
          simpa only [delete, deleted, Option.getD_some] using
            RowEvents.delete_sound t.events rest id sound deleted
  | clear =>
      cases performed
      exact RowEvents.sound_empty
  | reset ns =>
      cases performed
      exact RowEvents.sound_empty
  | sort column => exact sort_sound t next column sound performed
  | filter f =>
      cases performed
      exact filter_sound t f sound

theorem history_sound (t next : Table) (history : List Operation) (sound : t.events.Sound)
    (performed : history.foldlM perform? t = some next) : next.events.Sound := by
  induction history generalizing t with
  | nil =>
      cases performed
      exact sound
  | cons operation rest ih =>
      obtain ⟨after, first, others⟩ := Option.bind_eq_some_iff.mp performed
      exact ih after (perform_sound t after operation sound first) others

theorem operations_keep_sound (ns : String) (history : List Operation) :
    ∀ t ∈ history.foldlM perform? (new ns), t.events.Sound ∧
      ∀ column, ∀ sorted ∈ t.sort? column, sorted.events.toList.Perm t.events.toList ∧
        sorted.header = t.header ∧ sorted.ns = t.ns :=
  fun t performed => ⟨history_sound (new ns) t history RowEvents.sound_empty performed,
    fun column sorted done => sort_only_permutes t sorted column done⟩

def twoSnapshots : List Operation :=
  [.setHeader [Column.named nameName], .update [⟨"b", ["b"]⟩, ⟨"a", ["a"]⟩], .sort ⟨nameName, true⟩,
    .update [⟨"b", ["c"]⟩, ⟨"a", ["a"]⟩]]

theorem two_snapshots_sound :
    ∃ t ∈ twoSnapshots.foldlM perform? (new "all"), t.events.ids = ["a", "b"] ∧ t.events.Sound ∧
      ∃ sorted ∈ t.sort? ⟨nameName, false⟩, sorted.events.toList.Perm t.events.toList := by
  have performed : (twoSnapshots.foldlM perform? (new "all")).map (fun t =>
      (t.events.ids, (t.sort? ⟨nameName, false⟩).isSome)) = some (["a", "b"], true) := by decide +kernel
  obtain ⟨t, reached, shown⟩ := Option.map_eq_some_iff.mp performed
  obtain ⟨ids, completes⟩ := Prod.mk.inj shown
  obtain ⟨sorted, done⟩ := Option.isSome_iff_exists.mp completes
  obtain ⟨sound, permutes⟩ := operations_keep_sound "all" twoSnapshots t reached
  exact ⟨t, reached, ids, sound, sorted, done, (permutes _ sorted done).1⟩

end Table

end LiveTable
