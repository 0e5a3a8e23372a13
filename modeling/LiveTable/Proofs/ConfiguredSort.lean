import LiveTable.Proofs.ViewFreshness

namespace LiveTable

namespace Table

theorem default_sort_alike (t u : Table) (header : t.header = u.header) (ns : t.ns = u.ns) (column : Option SortColumn) :
    t.defaultSort column = u.defaultSort column := by
  simp only [defaultSort, header, ns]

theorem default_sort_vacant (t : Table) (column : Option SortColumn) (vacant : t.header = []) :
    t.defaultSort column = .none := by
  cases column <;> simp [defaultSort, vacant, Header.indexOf?]

theorem default_sort_again (t : Table) (column : Option SortColumn) :
    (t.defaultSort column).isNone = true ∨ t.defaultSort (some (t.defaultSort column)) = t.defaultSort column := by
  cases named : (t.defaultSort column).isNone with
  | true => exact .inl rfl
  | false =>
      rcases default_sort_sortable t column with held | ⟨none, _⟩
      · exact .inr (default_sort_held t _ named held)
      · rw [none] at named
        cases named

end Table

namespace Console

def Step.choosesSort : Step → Bool
  | .act (.sortBy _) | .act .sortNext | .act .sortPrevious => true
  | _ => false

theorem rebuild_sort (c d : Console) (made : c.rebuild? = some d) :
    d.configuredSort = c.configuredSort ∧ d.sort = d.view.defaultSort c.preferredSort := by
  obtain ⟨view, sorted, rfl⟩ := rebuild_made c d made
  obtain ⟨_, header, ns⟩ := Table.sort_only_permutes _ _ _ sorted
  exact ⟨rfl, Table.default_sort_alike c.shown view header.symm ns.symm c.preferredSort⟩

theorem unchosen_step (c e : Console) (s : Step) (unchosen : s.choosesSort = false) (stepped : c.step? s = some e) :
    e.configuredSort = c.configuredSort ∧
      (e.sort = c.sort ∧ e.view = c.view ∨ e.sort = e.view.defaultSort c.preferredSort) := by
  by_cases moves : s.movesCursor = true
  · obtain ⟨place, _, rfl⟩ := cursor_moved c e s moves stepped
    exact ⟨rfl, .inl ⟨rfl, rfl⟩⟩
  · have renewed (d : Console) (made : d.rebuild? = some e) (configured : d.configuredSort = c.configuredSort)
        (preferred : d.preferredSort = c.preferredSort) : e.configuredSort = c.configuredSort ∧
          (e.sort = c.sort ∧ e.view = c.view ∨ e.sort = e.view.defaultSort c.preferredSort) := by
      obtain ⟨same, given⟩ := rebuild_sort d e made
      exact ⟨same.trans configured, .inr (preferred ▸ given)⟩
    cases s with
    | setTable now t => exact renewed _ stepped rfl rfl
    | setTheme | setStatus | setPageSize =>
        cases stepped
        exact ⟨rfl, .inl ⟨rfl, rfl⟩⟩
    | act action =>
        cases action with
        | down | up | pageDown | pageUp | top | bottom => exact absurd rfl moves
        | sortBy name => cases unchosen
        | sortNext => cases unchosen
        | sortPrevious => cases unchosen
        | toggleWide | toggleToast | submitInput => exact renewed _ stepped rfl rfl
        | clearFilter =>
            change c.clearFilter? = some e at stepped
            unfold clearFilter? at stepped
            split at stepped
            · cases stepped
              exact ⟨rfl, .inl ⟨rfl, rfl⟩⟩
            · exact renewed _ stepped rfl rfl
        | quit | startFilter | cancelInput | backspace | inputChar =>
            cases stepped
            exact ⟨rfl, .inl ⟨rfl, rfl⟩⟩

theorem unchosen_kept (c e : Console) (s : Step) (unchosen : s.choosesSort = false) (stepped : c.step? s = some e)
    (named : c.sort.isNone = false) (held : (e.view.header.indexOf? c.sort.name true).isSome = true) :
    e.sort = c.sort := by
  rcases (unchosen_step c e s unchosen stepped).2 with ⟨same, _⟩ | made
  · exact same
  · rw [made, preferredSort, named]
    exact Table.default_sort_held _ _ named held

structure Trace (c : Console) (history : List Step) (after : Nat → Console) : Prop where
  start : after 0 = c
  step : ∀ n s, history[n]? = some s → (after n).step? s = some (after (n + 1))

theorem run_trace (c d : Console) (history : List Step) (ran : c.run? history = some d) :
    ∃ after, Trace c history after ∧ after history.length = d := by
  induction history generalizing c with
  | nil =>
      cases ran
      exact ⟨fun _ => _, ⟨rfl, by simp⟩, rfl⟩
  | cons s history ih =>
      obtain ⟨next, first, rest⟩ := Option.bind_eq_some_iff.mp ran
      obtain ⟨after, trace, last⟩ := ih next rest
      refine ⟨fun n => n.casesOn c after, ⟨rfl, fun n t taken => ?_⟩, last⟩
      cases n with
      | zero =>
          cases taken
          exact first.trans (congrArg some trace.start.symm)
      | succ n => exact trace.step n t taken

theorem trace_run (c : Console) (history : List Step) (after : Nat → Console) (trace : Trace c history after) (n : Nat)
    (inside : n ≤ history.length) : c.run? (history.take n) = some (after n) := by
  induction n with
  | zero => exact congrArg some trace.start.symm
  | succ n ih =>
      have taken : history[n]? = some history[n] := List.getElem?_eq_getElem inside
      rw [List.take_add_one, taken]
      exact (run_append c _ _ _).mpr ⟨after n, ih (by omega), trace.step n _ taken⟩

-- The next view takes the column of the one before for the same as the configured one, unless that had none.
def Continues (configured : Option SortColumn) (before next : Table) : Prop :=
  (before.defaultSort configured).isNone = true ∨
    next.defaultSort (some (before.defaultSort configured)) = next.defaultSort configured

theorem continues_itself (configured : Option SortColumn) (t : Table) : Continues configured t t :=
  Table.default_sort_again t configured

theorem held_continues (column : SortColumn) (before next : Table) (named : column.isNone = false)
    (held : before.header = [] ∨ (before.header.indexOf? column.name true).isSome = true) :
    Continues (some column) before next := by
  rcases held with vacant | held
  · rw [Continues, Table.default_sort_vacant before _ vacant]
    exact .inl rfl
  · rw [Continues, Table.default_sort_held before column named held]
    exact .inr rfl

def Honours (c : Console) : Prop := c.sort = c.view.defaultSort c.configuredSort

theorem opened_honours (c : Console) (opened : c.ReachedBy []) : c.Honours := by
  obtain ⟨cluster, context, kind, scope, theme, colorer, options, ran⟩ := opened
  cases ran
  exact (Table.default_sort_vacant _ _ rfl).symm

theorem step_honours (c e : Console) (s : Step) (unchosen : s.choosesSort = false) (stepped : c.step? s = some e)
    (honours : c.Honours) : e.Honours ↔ Continues c.configuredSort c.view e.view := by
  obtain ⟨configured, ⟨same, still⟩ | made⟩ := unchosen_step c e s unchosen stepped
  · rw [Honours, same, still, configured]
    exact iff_of_true honours (continues_itself _ _)
  · rw [Honours, made, preferredSort, configured, Continues, ← honours]
    cases c.sort.isNone <;> simp

section

variable (c : Console) (history : List Step) (unchosen : ∀ s ∈ history, s.choosesSort = false)
  (after : Nat → Console) (trace : Trace c history after)

include unchosen trace

theorem trace_step (n : Nat) (inside : n < history.length) :
    ∃ s, s.choosesSort = false ∧ (after n).step? s = some (after (n + 1)) :=
  ⟨history[n], unchosen _ (List.getElem_mem inside), trace.step n _ (List.getElem?_eq_getElem inside)⟩

theorem trace_configured (n : Nat) (inside : n ≤ history.length) : (after n).configuredSort = c.configuredSort := by
  induction n with
  | zero => rw [trace.start]
  | succ n ih =>
      obtain ⟨s, kept, taken⟩ := trace_step c history unchosen after trace n inside
      rw [(unchosen_step _ _ s kept taken).1, ih (by omega)]

theorem trace_honours (n : Nat) (inside : n < history.length) (honours : (after n).Honours) :
    (after (n + 1)).Honours ↔ Continues c.configuredSort (after n).view (after (n + 1)).view := by
  obtain ⟨s, kept, taken⟩ := trace_step c history unchosen after trace n inside
  rw [step_honours _ _ s kept taken honours, trace_configured c history unchosen after trace n (by omega)]

theorem run_honours (honours : c.Honours)
    (continues : ∀ n < history.length, Continues c.configuredSort (after n).view (after (n + 1)).view)
    (n : Nat) (inside : n ≤ history.length) : (after n).Honours := by
  induction n with
  | zero => exact trace.start ▸ honours
  | succ n ih =>
      exact (trace_honours c history unchosen after trace n inside (ih (by omega))).mpr (continues n inside)

theorem run_honours_iff (honours : c.Honours) :
    (∀ n ≤ history.length, (after n).Honours) ↔
      ∀ n < history.length, Continues c.configuredSort (after n).view (after (n + 1)).view :=
  ⟨fun all n inside =>
      (trace_honours c history unchosen after trace n inside (all n (by omega))).mp (all (n + 1) inside),
    run_honours c history unchosen after trace honours⟩

theorem trace_kept (m n : Nat) (later : m ≤ n) (inside : n ≤ history.length) (named : (after m).sort.isNone = false)
    (held : ∀ k, m < k → k ≤ n → ((after k).view.header.indexOf? (after m).sort.name true).isSome = true) :
    (after n).sort = (after m).sort := by
  induction later with
  | refl => rfl
  | @step n later ih =>
      have before := ih (by omega) fun k above within => held k above (by omega)
      obtain ⟨s, kept, taken⟩ := trace_step c history unchosen after trace n inside
      have still := held (n + 1) (Nat.lt_succ_of_le later) (Nat.le_refl _)
      rw [← before] at named still
      rw [unchosen_kept _ _ s kept taken named still, before]

end

/-- From the start and as long as the operator chooses no column, the column to sort by is the one that each view gives
for the configured one exactly when each view takes the column of the view before for the same as the configured one,
unless that had no column. So it is as long as each view before has the configured column, or no columns at all; and
then a view that has it is sorted by it. But any column that has been sorted by is kept as long as the views have it,
and so is one that was taken for want of the configured one. -/
theorem configured_sort_used_iff (c : Console) (opened : c.ReachedBy []) (history : List Step)
    (unchosen : ∀ s ∈ history, s.choosesSort = false) (after : Nat → Console) (trace : Trace c history after) :
    ((∀ n ≤ history.length, (after n).sort = (after n).view.defaultSort (after n).configuredSort) ↔
      ∀ n < history.length, Continues c.configuredSort (after n).view (after (n + 1)).view) ∧
      (∀ column, c.configuredSort = some column → column.isNone = false →
        (∀ n < history.length, (after n).view.header = [] ∨
          ((after n).view.header.indexOf? column.name true).isSome = true) →
        ∃ d, c.run? history = some d ∧ d.sort = d.view.defaultSort (some column) ∧
          ((d.view.header.indexOf? column.name true).isSome = true → d.sort = column) ∧
          (latest? history ≠ none → d.shown.sort? d.sort = some d.view)) ∧
      ∀ m n, m ≤ n → n ≤ history.length → (after m).sort.isNone = false →
        (∀ k, m < k → k ≤ n → ((after k).view.header.indexOf? (after m).sort.name true).isSome = true) →
        (after n).sort = (after m).sort := by
  have honours := opened_honours c opened
  refine ⟨run_honours_iff c history unchosen after trace honours, fun column given named held => ?_,
    fun m n later inside => trace_kept c history unchosen after trace m n later inside⟩
  have ran := trace_run c history after trace history.length (Nat.le_refl _)
  rw [List.take_length] at ran
  have used : (after history.length).sort = (after history.length).view.defaultSort (some column) := by
    have last := run_honours c history unchosen after trace honours
      (fun n inside => given ▸ held_continues column _ _ named (held n inside)) history.length (Nat.le_refl _)
    rwa [Honours, trace_configured c history unchosen after trace _ (Nat.le_refl _), given] at last
  refine ⟨_, ran, used, fun still => used.trans (Table.default_sort_held _ column named still), fun arrived => ?_⟩
  obtain ⟨t, latest⟩ := Option.ne_none_iff_exists'.mp arrived
  exact (run_fresh c _ history t latest ran).view

def healthDescending : SortColumn := ⟨validName, false⟩

def widened : List Step := [.setTable 0 twoPods, .act .toggleWide]

def healthConsole : Console := podConsole { columns := [validName], sort := healthDescending }

theorem health_used_throughout :
    healthConsole.ReachedBy [] ∧ (∀ s ∈ widened, s.choosesSort = false) ∧
      ∃ d, healthConsole.run? widened = some d ∧ d.sort = healthDescending ∧
        d.shown.sort? d.sort = some d.view := by
  have opened : healthConsole.ReachedBy [] := pod_console_reached _ [] _ rfl
  have unchosen : ∀ s ∈ widened, s.choosesSort = false := by simp [widened, Step.choosesSort]
  have completes : (healthConsole.run? widened).isSome = true := by decide +kernel
  obtain ⟨last, ran⟩ := Option.isSome_iff_exists.mp completes
  obtain ⟨after, trace, reached⟩ := run_trace healthConsole last widened ran
  have first : ((healthConsole.run? (widened.take 1)).all fun c =>
      (c.view.header.indexOf? validName true).isSome) = true := by decide +kernel
  have second : ((healthConsole.run? widened).all fun c =>
      (c.view.header.indexOf? validName true).isSome) = true := by decide +kernel
  rw [trace_run healthConsole widened after trace 1 (by decide)] at first
  have held : ∀ n < widened.length, (after n).view.header = [] ∨
      ((after n).view.header.indexOf? validName true).isSome = true := by
    intro n inside
    match n, inside with
    | 0, _ => exact .inl (by rw [trace.start]; rfl)
    | 1, _ => exact .inr first
  obtain ⟨d, done, _, used, sorted⟩ :=
    (configured_sort_used_iff healthConsole opened widened unchosen after trace).2.1 healthDescending rfl (by decide)
      held
  rw [done] at second
  exact ⟨opened, unchosen, d, done, used second, sorted (by simp [latest?, widened, Step.table?])⟩

def nameConsole : Console := podConsole { columns := [nameName], sort := healthDescending }

theorem shown_later_unused :
    nameConsole.ReachedBy [] ∧ nameConsole.configuredSort = some healthDescending ∧
      (∀ s ∈ widened, s.choosesSort = false) ∧
      (nameConsole.run? widened).map (fun d => (d.sort, d.view.defaultSort (some healthDescending))) =
        some (⟨nameName, true⟩, healthDescending) :=
  ⟨pod_console_reached _ [] _ rfl, rfl, by simp [widened, Step.choosesSort], by decide +kernel⟩

end Console

end LiveTable
