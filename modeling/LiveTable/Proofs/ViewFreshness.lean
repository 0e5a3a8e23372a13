import LiveTable.Console.Basic
import LiveTable.Proofs.Invariant

namespace LiveTable

namespace Table

def Sortable (t : Table) (column : SortColumn) : Prop :=
  (t.header.indexOf? column.name true).isSome = true ∨ column = .none ∧ t.header = []

theorem default_sort_configured (t : Table) (configured : SortColumn) :
    t.defaultSort (some configured) =
      if !configured.isNone && (t.header.indexOf? configured.name true).isSome then configured
      else t.defaultSort none := rfl

theorem default_sort_held (t : Table) (column : SortColumn) (named : column.isNone = false)
    (held : (t.header.indexOf? column.name true).isSome = true) : t.defaultSort (some column) = column := by
  rw [default_sort_configured, named, held]
  rfl

theorem default_sort_sortable (t : Table) (configured : Option SortColumn) :
    t.Sortable (t.defaultSort configured) := by
  have fallback : t.Sortable (t.defaultSort none) := by
    dsimp only [defaultSort]
    split
    · rename_i spaced
      exact .inl (Bool.and_eq_true _ _ ▸ spaced).2
    · split
      · rename_i named
        exact .inl named
      · cases columns : t.header with
        | nil => exact .inr ⟨rfl, columns⟩
        | cons c rest =>
            left
            simp [columns, Header.indexOf?]
  cases configured with
  | none => exact fallback
  | some configured =>
      rw [default_sort_configured]
      split
      · rename_i present
        exact .inl (Bool.and_eq_true _ _ ▸ present).2
      · exact fallback

end Table

namespace Console

inductive Step where
  | setTable (now : Int) (t : Table)
  | setTheme (theme : Theme)
  | setStatus (status : String)
  | setPageSize (rows : Nat)
  | act (action : Action)

def step? (c : Console) : Step → Option Console
  | .setTable now t => c.setTable? now t
  | .setTheme theme => some (c.setTheme theme)
  | .setStatus status => some (c.setStatus status)
  | .setPageSize rows => some (c.setPageSize rows)
  | .act action => c.act? action

def run? (c : Console) (history : List Step) : Option Console := history.foldlM step? c

def ReachedBy (c : Console) (history : List Step) : Prop :=
  ∃ cluster context kind scope theme colorer options,
    (start cluster context kind scope theme colorer options).run? history = some c

def Step.table? : Step → Option Table
  | .setTable _ t => some t
  | _ => none

def latest? (history : List Step) : Option Table := (history.filterMap Step.table?).getLast?

def Step.movesCursor : Step → Bool
  | .act .down | .act .up | .act .pageDown | .act .pageUp | .act .top | .act .bottom => true
  | _ => false

theorem run_append (c e : Console) (history : List Step) (s : Step) :
    c.run? (history ++ [s]) = some e ↔ ∃ d, c.run? history = some d ∧ d.step? s = some e := by
  simp only [run?, List.foldlM_append, List.foldlM_cons, List.foldlM_nil, Option.pure_def, Option.bind_eq_bind,
    Option.bind_eq_some_iff, Option.some.injEq, exists_eq_right]

theorem latest_append (history : List Step) (s : Step) :
    latest? (history ++ [s]) = s.table?.or (latest? history) := by
  cases given : s.table? with
  | none => simp [latest?, given]
  | some t => simp [latest?, given]

theorem move_place (c d : Console) (distance : Int64) (moved : c.move? distance = some d) :
    ∃ place ≤ c.view.events.size - 1, d = { c with selected := place } := by
  unfold move? at moved
  split at moved
  · cases moved
    exact ⟨0, Nat.zero_le _, rfl⟩
  · obtain ⟨next, _, given⟩ := Option.bind_eq_some_iff.mp moved
    cases given
    exact ⟨_, Nat.min_le_right _ _, rfl⟩

theorem cursor_moved (c d : Console) (s : Step) (moves : s.movesCursor = true) (stepped : c.step? s = some d) :
    ∃ place ≤ c.view.events.size - 1, d = { c with selected := place } := by
  cases s with
  | act action =>
      cases action with
      | down | up | pageDown => exact move_place c d _ stepped
      | pageUp =>
          obtain ⟨distance, _, moved⟩ := Option.bind_eq_some_iff.mp stepped
          exact move_place c d distance moved
      | top =>
          cases stepped
          exact ⟨0, Nat.zero_le _, rfl⟩
      | bottom =>
          cases stepped
          exact ⟨_, Nat.le_refl _, rfl⟩
      | _ => simp [Step.movesCursor] at moves
  | _ => simp [Step.movesCursor] at moves

structure SameView (c d : Console) : Prop where
  source : d.source = c.source
  shown : d.shown = c.shown
  sort : d.sort = c.sort
  view : d.view = c.view
  selected : d.selected = c.selected

theorem SameView.itself (c : Console) : SameView c c := ⟨rfl, rfl, rfl, rfl, rfl⟩

structure Resettled (c d : Console) (source : Table) : Prop where
  source : d.source = source
  view : d.view = c.view
  selected : d.selected = c.selected

-- What a step does that leaves the cursor where it is: it makes the view anew, or touches nothing that the view comes from.
def Renews (c e : Console) (source : Table) : Prop :=
  (∃ d, d.rebuild? = some e ∧ Resettled c d source) ∨ SameView c e

theorem sort_by_renews (c e : Console) (name : String) (sorted : c.sortBy? name = some e) : Renews c e c.source := by
  unfold sortBy? at sorted
  split at sorted
  · cases sorted
    exact .inr ⟨rfl, rfl, rfl, rfl, rfl⟩
  · exact .inl ⟨_, sorted, rfl, rfl, rfl⟩

theorem sort_by_offset_renews (c e : Console) (offset : Int) (sorted : c.sortByOffset? offset = some e) :
    Renews c e c.source := by
  unfold sortByOffset? at sorted
  dsimp only at sorted
  split at sorted
  · cases sorted
    exact .inr (.itself c)
  · exact .inl ⟨_, sorted, rfl, rfl, rfl⟩

theorem clear_filter_renews (c e : Console) (cleared : c.clearFilter? = some e) : Renews c e c.source := by
  unfold clearFilter? at cleared
  split at cleared
  · cases cleared
    exact .inr (.itself c)
  · exact .inl ⟨_, cleared, rfl, rfl, rfl⟩

theorem step_cases (c e : Console) (s : Step) (stepped : c.step? s = some e) :
    s.movesCursor = true ∨
      (∃ d, d.rebuild? = some e ∧ Resettled c d (s.table?.getD c.source)) ∨
      s.table? = none ∧ SameView c e := by
  cases s with
  | setTable now t => exact .inr (.inl ⟨_, stepped, rfl, rfl, rfl⟩)
  | setTheme | setStatus | setPageSize =>
      cases stepped
      exact .inr (.inr ⟨rfl, rfl, rfl, rfl, rfl, rfl⟩)
  | act action =>
      cases action with
      | down | up | pageDown | pageUp | top | bottom => exact .inl rfl
      | toggleWide | toggleToast | submitInput => exact .inr (.inl ⟨_, stepped, rfl, rfl, rfl⟩)
      | clearFilter => exact .inr ((clear_filter_renews c e stepped).imp_right (⟨rfl, ·⟩))
      | sortBy name => exact .inr ((sort_by_renews c e name stepped).imp_right (⟨rfl, ·⟩))
      | sortNext => exact .inr ((sort_by_offset_renews c e 1 stepped).imp_right (⟨rfl, ·⟩))
      | sortPrevious => exact .inr ((sort_by_offset_renews c e (-1) stepped).imp_right (⟨rfl, ·⟩))
      | quit | startFilter | cancelInput | backspace | inputChar =>
          cases stepped
          exact .inr (.inr ⟨rfl, rfl, rfl, rfl, rfl, rfl⟩)

theorem moves_no_table (s : Step) (moves : s.movesCursor = true) : s.table? = none := by
  cases s with
  | setTable now t => simp [Step.movesCursor] at moves
  | _ => rfl

theorem rebuild_made (c d : Console) (made : c.rebuild? = some d) :
    ∃ view, c.shown.sort? (c.shown.defaultSort c.preferredSort) = some view ∧
      d = { c with
        sort := c.shown.defaultSort c.preferredSort
        view := view
        selected := reselect (c.selectedRow?.map (·.id)) c.selected view } := by
  obtain ⟨view, sorted, given⟩ := Option.bind_eq_some_iff.mp made
  exact ⟨view, sorted, (Option.some.inj given).symm⟩

theorem step_source (c e : Console) (s : Step) (stepped : c.step? s = some e) : e.source = s.table?.getD c.source := by
  rcases step_cases c e s stepped with moves | ⟨d, made, settled⟩ | ⟨given, same⟩
  · obtain ⟨place, _, rfl⟩ := cursor_moved c e s moves stepped
    rw [moves_no_table s moves]
    rfl
  · obtain ⟨view, _, rfl⟩ := rebuild_made d e made
    exact settled.source
  · rw [given]
    exact same.source

theorem run_source (c d : Console) (history : List Step) (ran : c.run? history = some d) :
    d.source = (latest? history).getD c.source := by
  induction history using List.reverseRecOn generalizing d with
  | nil =>
      cases ran
      rfl
  | append_singleton history s ih =>
      obtain ⟨before, first, last⟩ := (run_append c d history s).mp ran
      rw [step_source before d s last, latest_append, ih before first]
      cases s.table? <;> rfl

structure Fresh (c : Console) : Prop where
  view : c.shown.sort? c.sort = some c.view
  sorted : c.view.Sortable c.sort

theorem rebuild_fresh (c d : Console) (made : c.rebuild? = some d) : d.Fresh := by
  obtain ⟨view, sorted, rfl⟩ := rebuild_made c d made
  refine ⟨sorted, ?_⟩
  have sortable := Table.default_sort_sortable c.shown c.preferredSort
  simpa only [Table.Sortable, (Table.sort_only_permutes _ _ _ sorted).2.1] using sortable

theorem step_fresh (c e : Console) (s : Step) (fresh : c.Fresh) (stepped : c.step? s = some e) : e.Fresh := by
  rcases step_cases c e s stepped with moves | ⟨d, made, _⟩ | ⟨_, same⟩
  · obtain ⟨place, _, rfl⟩ := cursor_moved c e s moves stepped
    exact ⟨fresh.view, fresh.sorted⟩
  · exact rebuild_fresh d e made
  · refine ⟨?_, ?_⟩
    · rw [same.view, same.shown, same.sort]
      exact fresh.view
    · rw [same.view, same.sort]
      exact fresh.sorted

theorem table_fresh (c e : Console) (s : Step) (t : Table) (given : s.table? = some t) (stepped : c.step? s = some e) :
    e.Fresh := by
  cases s with
  | setTable now t => exact rebuild_fresh _ e stepped
  | _ => cases given

theorem run_fresh (c d : Console) (history : List Step) (t : Table) (given : latest? history = some t)
    (ran : c.run? history = some d) : d.Fresh := by
  induction history using List.reverseRecOn generalizing d with
  | nil => cases given
  | append_singleton history s ih =>
      obtain ⟨before, first, last⟩ := (run_append c d history s).mp ran
      cases handed : s.table? with
      | some t => exact table_fresh before d s t handed last
      | none =>
          rw [latest_append, handed, Option.none_or] at given
          exact step_fresh before d s (ih before given first) last

/-- After any history with a table in it, the source is the latest table and the view is made from it as the
settings of the moment say: by labels if there are labels, else by columns and layout, then filtered, then
sorted by a column that the view has, or by none if it has no columns. -/
theorem view_never_stale (c : Console) (history : List Step) (reached : c.ReachedBy history) (t : Table)
    (given : latest? history = some t) :
    c.source = t ∧
      ((if c.labels.isEmpty then t.project c.columns c.wide else t.labelize c.labels).filter
        ⟨c.toast, c.filter⟩).sort? c.sort = some c.view ∧
      ((c.view.header.indexOf? c.sort.name true).isSome = true ∨ c.sort = .none ∧ c.view.header = []) := by
  obtain ⟨cluster, context, kind, scope, theme, colorer, options, ran⟩ := reached
  have source := run_source (start cluster context kind scope theme colorer options) c history ran
  have fresh := run_fresh (start cluster context kind scope theme colorer options) c history t given ran
  rw [given, Option.getD_some] at source
  refine ⟨source, ?_, fresh.sorted⟩
  rw [← source]
  exact fresh.view

def twoPods : Table :=
  ({ Table.new "all" with header := [Column.named nameName, (Column.named validName).widened] }).update
    [⟨"ns1/db", ["db", ""]⟩, ⟨"ns1/web", ["web", "pod is terminating"]⟩]

def podConsole (options : ViewOptions) : Console :=
  start "cluster" "context" ⟨"", "v1", "Pod", "pods", true⟩ .all Theme.default Colorer.byChange options

theorem pod_console_reached (options : ViewOptions) (history : List Step) (c : Console)
    (ran : (podConsole options).run? history = some c) : c.ReachedBy history := ⟨_, _, _, _, _, _, _, ran⟩

def writingFilter : List Step :=
  [.setTable 0 twoPods, .act (.sortBy nameName), .act .startFilter, .act (.inputChar 'x'),
    .setTable 60 (twoPods.delete "ns1/db")]

theorem unsubmitted_filter_unused :
    ∃ c ∈ (podConsole {}).run? writingFilter, c.input = "x" ∧ c.view.events.ids = ["ns1/web"] ∧
      ((twoPods.delete "ns1/db").filter ⟨false, ""⟩).sort? ⟨nameName, false⟩ = some c.view := by
  have written : ((podConsole {}).run? writingFilter).map (fun c => (c.input, c.view.events.ids)) =
      some ("x", ["ns1/web"]) := by decide +kernel
  have settings : ((podConsole {}).run? writingFilter).map (fun c => (c.sort, c.rowFilter, c.labels, c.columns, c.wide)) =
      some (⟨nameName, false⟩, ⟨false, ""⟩, [], [], false) := by decide +kernel
  obtain ⟨c, ran, same⟩ := Option.map_eq_some_iff.mp written
  rw [ran, Option.map_some, Option.some.injEq] at settings
  obtain ⟨source, view, _⟩ := view_never_stale c writingFilter (pod_console_reached {} writingFilter c ran) _ rfl
  simp only [Prod.mk.injEq, rowFilter, RowFilter.mk.injEq] at same settings
  obtain ⟨sorted, ⟨toast, filter⟩, labels, columns, wide⟩ := settings
  rw [sorted, toast, filter, labels, columns, wide] at view
  exact ⟨c, ran, same.1, same.2, view⟩

end Console

end LiveTable
