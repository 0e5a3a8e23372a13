import LiveTable.Proofs.Invariant

namespace LiveTable.Table

-- An event as a snapshot brings it, whatever the table and the events before it were.
def Arrived (e : RowEvent) : Prop := ∃ (t : Table) (es : RowEvents) (row : Row), e = t.arrival es row

theorem arrived_cases (e : RowEvent) (arrived : Arrived e) :
    e = .plain .added e.row ∨ e = .plain .unchanged e.row ∨
      e.change = .updated ∧ e.delta.length = e.row.fields.length := by
  obtain ⟨t, es, row, rfl⟩ := arrived
  unfold arrival eventOf RowEvent.ofNext
  dsimp only
  split
  · exact .inl rfl
  · split
    · exact .inl rfl
    · split
      · exact .inr (.inl rfl)
      · exact .inr (.inr ⟨rfl, by simp [Delta.between]⟩)

theorem arrived_length (e : RowEvent) (arrived : Arrived e) : e.delta.length = e.row.fields.length := by
  have plain (change : Change) (row : Row) : (RowEvent.plain change row).delta.length = row.fields.length := by
    simp [RowEvent.plain, Delta.blank]
  rcases arrived_cases e arrived with added | unchanged | ⟨_, size⟩
  · rw [added]
    exact plain .added e.row
  · rw [unchanged]
    exact plain .unchanged e.row
  · exact size

theorem arrived_unchanged (e : RowEvent) (arrived : Arrived e) (unchanged : e.change = .unchanged) :
    e = .plain .unchanged e.row := by
  rcases arrived_cases e arrived with added | plain | ⟨updated, _⟩
  · rw [added] at unchanged
    cases unchanged
  · exact plain
  · rw [updated] at unchanged
    cases unchanged

theorem update_events (t : Table) (rows : List Row) :
    ∀ e ∈ (t.update rows).events.toList, e ∈ t.events.toList ∨ Arrived e :=
  update_forall (fun e => e ∈ t.events.toList ∨ Arrived e) t rows (fun _ member => .inl member)
    fun es row => .inr ⟨t, es, row, rfl⟩

theorem relayout_events (t : Table) (h : Header) :
    ∀ e ∈ (t.relayout h).events.toList, e ∈ t.events.toList := by
  intro e member
  unfold relayout at member
  split at member
  · exact member
  · cases member

theorem delete_events (t : Table) (id : String) : ∀ e ∈ (t.delete id).events.toList, e ∈ t.events.toList := by
  intro e member
  unfold delete at member
  cases deleted : t.events.delete? id with
  | none => simpa only [deleted, Option.getD_none] using member
  | some rest =>
      obtain ⟨place, _, rfl⟩ := Option.map_eq_some_iff.mp deleted
      simp only [deleted, Option.getD_some] at member
      exact (List.eraseIdx_sublist t.events.toList place).subset member

theorem kept_events (t next : Table) (cases : next = t ∨ ∃ p, next = t.keep p) :
    ∀ e ∈ next.events.toList, e ∈ t.events.toList := by
  intro e member
  rcases cases with rfl | ⟨p, rfl⟩
  · exact member
  · rw [keep, RowEvents.filter_list] at member
    exact (List.mem_filter.mp member).1

theorem filter_events (t : Table) (f : RowFilter) : ∀ e ∈ (t.filter f).events.toList, e ∈ t.events.toList :=
  kept_events t _ (filter_cases t f)

theorem perform_events (t next : Table) (operation : Operation) (performed : t.perform? operation = some next) :
    ∀ e ∈ next.events.toList, e ∈ t.events.toList ∨ Arrived e := by
  intro e member
  cases operation with
  | setHeader header =>
      cases performed
      exact .inl member
  | update rows =>
      cases performed
      exact update_events t rows e member
  | reconcile now renderer specs objects =>
      obtain ⟨⟨table, outcome⟩, completed, rfl⟩ := Option.map_eq_some_iff.mp performed
      rcases reconcile_cases now t table renderer specs objects outcome completed with ⟨_, rfl, _⟩ | ⟨h, rows, rfl, _⟩
      · exact .inl member
      · exact (update_events _ rows e member).imp_left (relayout_events t h e)
  | delete id =>
      cases performed
      exact .inl (delete_events t id e member)
  | clear =>
      cases performed
      cases member
  | reset ns =>
      cases performed
      cases member
  | sort column => exact .inl ((sort_only_permutes t next column performed).1.mem_iff.mp member)
  | filter f =>
      cases performed
      exact .inl (filter_events t f e member)

theorem history_arrived (t next : Table) (history : List Operation) (arrived : ∀ e ∈ t.events.toList, Arrived e)
    (performed : history.foldlM perform? t = some next) : ∀ e ∈ next.events.toList, Arrived e := by
  induction history generalizing t with
  | nil =>
      cases performed
      exact arrived
  | cons operation rest ih =>
      obtain ⟨after, first, others⟩ := Option.bind_eq_some_iff.mp performed
      refine ih after (fun e member => ?_) others
      rcases perform_events t after operation first e member with earlier | now
      · exact arrived e earlier
      · exact now

def Reachable (t : Table) : Prop :=
  ∃ (ns : String) (history : List Operation), history.foldlM perform? (new ns) = some t

theorem reachable_indexed (t : Table) (reachable : t.Reachable) : t.events.Indexed := by
  obtain ⟨ns, history, performed⟩ := reachable
  exact (history_sound (new ns) t history RowEvents.sound_empty performed).indexed

theorem reachable_arrived (t : Table) (reachable : t.Reachable) : ∀ e ∈ t.events.toList, Arrived e := by
  obtain ⟨ns, history, performed⟩ := reachable
  exact history_arrived (new ns) t history nofun performed

end LiveTable.Table
