import LiveTable.Proofs.Difference
import LiveTable.Watch.Basic

namespace LiveTable

structure Refresh where
  now : Int
  listing : Listing

structure Watched where
  current : Table
  told : Table

namespace WatchedView

def receive? (v : WatchedView) (w : Watched) (r : Refresh) : Option Watched := do
  let (next, told) ← v.refresh? r.now w.current r.listing
  return ⟨next, if .updated v.kind.key ∈ told then next else w.told⟩

def watch? (v : WatchedView) (history : List Refresh) : Option Watched :=
  history.foldlM v.receive? ⟨v.newTable, v.newTable⟩

theorem watch_append (v : WatchedView) (w : Watched) (history : List Refresh) (r : Refresh) :
    v.watch? (history ++ [r]) = some w ↔ ∃ before, v.watch? history = some before ∧ v.receive? before r = some w := by
  simp only [watch?, List.foldlM_append, List.foldlM_cons, List.foldlM_nil, Option.pure_def, Option.bind_eq_bind,
    Option.bind_eq_some_iff, Option.some.injEq, exists_eq_right]

theorem refresh_cases (v : WatchedView) (now : Int) (t next : Table) (listing : Listing) (told : List Notification)
    (refreshed : v.refresh? now t listing = some (next, told)) :
    (∃ causes, next = t ∧ told = [v.failure causes]) ∨
      ∃ h rows, next = (t.relayout h).update rows ∧
        told = if next.differs t then [.updated v.kind.key] else [] := by
  cases listing with
  | failed causes =>
      cases refreshed
      exact .inl ⟨causes, rfl, rfl⟩
  | timedOut =>
      cases refreshed
      exact .inl ⟨_, rfl, rfl⟩
  | objects objects =>
      obtain ⟨⟨table, outcome⟩, completed, given⟩ := Option.bind_eq_some_iff.mp refreshed
      rcases Table.reconcile_cases now t table v.renderer v.columns objects outcome completed with
        ⟨message, rfl, rfl⟩ | ⟨h, rows, made, rfl⟩
      · cases given
        exact .inl ⟨[message], rfl, rfl⟩
      · cases given
        exact .inr ⟨h, rows, made, rfl⟩

theorem failed_refresh_unchanged (v : WatchedView) (now : Int) (t next : Table) (listing : Listing)
    (told : List Notification) (refreshed : v.refresh? now t listing = some (next, told)) (key error : String)
    (reported : .failed key error ∈ told) : next = t := by
  rcases refresh_cases v now t next listing told refreshed with ⟨causes, same, _⟩ | ⟨h, rows, _, given⟩
  · exact same
  · rw [given] at reported
    split at reported <;> simp at reported

theorem refresh_timeless (v : WatchedView) (now : Int) (t next : Table) (listing : Listing) (told : List Notification)
    (refreshed : v.refresh? now t listing = some (next, told)) (timeless : t.Timeless) : next.Timeless := by
  rcases refresh_cases v now t next listing told refreshed with ⟨causes, rfl, _⟩ | ⟨h, rows, rfl, _⟩
  · exact timeless
  · exact Table.update_timeless _ _ (Table.relayout_timeless t h timeless)

theorem refresh_quiet (v : WatchedView) (now : Int) (t next : Table) (listing : Listing) (told : List Notification)
    (refreshed : v.refresh? now t listing = some (next, told)) (quiet : .updated v.kind.key ∉ told) :
    next.ageless = t.ageless := by
  rcases refresh_cases v now t next listing told refreshed with ⟨causes, rfl, _⟩ | ⟨h, rows, rfl, rfl⟩
  · rfl
  · refine Table.relayout_unchanged t h rows ?_
    by_contra differs
    simp [differs] at quiet

-- What a run keeps: the table looks as it did when it was last told of, and neither has deltas under times.
structure UpToDate (w : Watched) : Prop where
  alike : w.current.ageless = w.told.ageless
  current : w.current.Timeless
  told : w.told.Timeless

theorem receive_up_to_date (v : WatchedView) (w after : Watched) (r : Refresh) (upToDate : UpToDate w)
    (observed : v.receive? w r = some after) : UpToDate after := by
  obtain ⟨⟨next, told⟩, refreshed, given⟩ := Option.bind_eq_some_iff.mp observed
  have timeless := refresh_timeless v r.now w.current next r.listing told refreshed upToDate.current
  cases given
  by_cases notified : .updated v.kind.key ∈ told
  · simp only [if_pos notified]
    exact ⟨rfl, timeless, timeless⟩
  · simp only [if_neg notified]
    exact ⟨(refresh_quiet v r.now w.current next r.listing told refreshed notified).trans upToDate.alike, timeless,
      upToDate.told⟩

theorem watch_up_to_date (v : WatchedView) (w : Watched) (history : List Refresh) (watched : v.watch? history = some w) :
    UpToDate w := by
  induction history using List.reverseRecOn generalizing w with
  | nil =>
      cases watched
      exact ⟨rfl, Table.timeless_new _, Table.timeless_new _⟩
  | append_singleton history r ih =>
      obtain ⟨before, first, last⟩ := (watch_append v w history r).mp watched
      exact receive_up_to_date v before w r (ih before first) last

theorem only_ages_untold (v : WatchedView) (history : List Refresh) (w : Watched)
    (watched : v.watch? history = some w) :
    w.current.ageless = w.told.ageless ∧
      (w.current.header.ageIndex?.all w.current.header.isTime = true →
        w.current.events.toList.map (·.delta) = w.told.events.toList.map (·.delta)) ∧
      ∀ now t listing next told key error, v.refresh? now t listing = some (next, told) →
        .failed key error ∈ told → next = t := by
  obtain ⟨alike, current, told⟩ := watch_up_to_date v w history watched
  exact ⟨alike, Table.deltas_of_ageless _ _ alike current told, fun now t listing next told key error refreshed =>
    failed_refresh_unchanged v now t next listing told refreshed key error⟩

def agingPod : Renderer where
  header _ := [Column.named nameName, (Column.named ageName).timed]
  render now _ _ := some (.ok ⟨"a", ["a", toString now ++ "m"]⟩)

def podView : WatchedView := ⟨⟨"", "v1", "Pod", "pods", true⟩, .all, agingPod, []⟩

def threeMinutes : List Refresh := [1, 2, 3].map fun now => ⟨now, .objects [.null]⟩

theorem third_minute_untold :
    ∃ w ∈ podView.watch? threeMinutes, w.current.events.toList.map (·.row.fields) = [["a", "3m"]] ∧
      w.told.events.toList.map (·.row.fields) = [["a", "2m"]] ∧ w.current.ageless = w.told.ageless ∧
      w.current.events.toList.map (·.delta) = w.told.events.toList.map (·.delta) := by
  have rows : (podView.watch? threeMinutes).map (fun w =>
      (w.current.events.toList.map (·.row.fields), w.told.events.toList.map (·.row.fields))) =
      some ([["a", "3m"]], [["a", "2m"]]) := by decide +kernel
  have timed : (podView.watch? threeMinutes).map (fun w => w.current.header.ageIndex?.all w.current.header.isTime) =
      some true := by decide +kernel
  obtain ⟨w, watched, shown⟩ := Option.map_eq_some_iff.mp rows
  rw [watched, Option.map_some, Option.some.injEq] at timed
  rw [Prod.mk.injEq] at shown
  obtain ⟨alike, deltas, _⟩ := only_ages_untold podView threeMinutes w watched
  exact ⟨w, watched, shown.1, shown.2, alike, deltas timed⟩

end WatchedView

end LiveTable
