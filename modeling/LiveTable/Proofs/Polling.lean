import LiveTable.Config.Watcher
import Mathlib.Data.List.Induction

namespace LiveTable

def Config.ofText (path text : String) : Except Config.Error Config :=
  match Settings.parse? text with
  | none => .error (.malformed path)
  | some settings => Config.ofSettings path settings

namespace Surroundings

def write (s : Surroundings) (path : String) (file : StoredFile) : Surroundings :=
  { s with files := (path, file) :: s.files }

def remove (s : Surroundings) (path : String) : Surroundings :=
  { s with files := s.files.filter (·.1 != path) }

theorem file_written (s : Surroundings) (path : String) (file : StoredFile) (p : String) :
    (s.write path file).file? p = if p = path then some file else s.file? p := by
  by_cases same : p = path
  · simp [write, file?, same]
  · simp [write, file?, same, List.lookup_cons, beq_false_of_ne same]

theorem file_removed (s : Surroundings) (path p : String) :
    (s.remove path).file? p = if p = path then none else s.file? p := by
  simp only [remove, file?]
  induction s.files with
  | nil => simp
  | cons f rest ih =>
      obtain ⟨name, held⟩ := f
      by_cases asked : p = name
      · by_cases gone : name = path
        · simpa [asked, gone] using ih
        · simp [asked, gone]
      · by_cases gone : name = path
        · subst gone
          simpa [asked, List.lookup_cons, beq_false_of_ne asked] using ih
        · simpa [gone, List.lookup_cons, beq_false_of_ne asked] using ih

end Surroundings

namespace ConfigWatcher

inductive Call where
  | load
  | reload
deriving DecidableEq

def Call.answer (w : ConfigWatcher) (s : Surroundings) :
    Call → ConfigWatcher × Except Config.Error (Option Config)
  | .load => ((w.load s).1, (w.load s).2.map some)
  | .reload => w.reload s

def Idle (w : ConfigWatcher) : Prop := w.path = none → w.modified = none

-- A failed read leaves the mark of the file as it was, or it has just been taken away.
inductive Outcome (w : ConfigWatcher) (s : Surroundings) :
    ConfigWatcher × Except Config.Error (Option Config) → Prop where
  | quiet
      (current : ∀ path, w.path = some path →
        ∃ file, s.file? path = some file ∧ w.modified = some file.modified) :
      Outcome w s (w, .ok none)
  | defaults : Outcome w s (⟨none, none⟩, .ok (some Config.default))
  | unread (u : ConfigWatcher) (e : Config.Error) (path : String) (tracked : u.path = some path)
      (kept : u = w ∨ u.modified = none) : Outcome w s (u, .error e)
  | read (path : String) (file : StoredFile) (there : s.file? path = some file) :
      Outcome w s (⟨some path, some file.modified⟩, (Config.ofText path file.text).map some)

theorem reload_unchanged (w : ConfigWatcher) (s : Surroundings) (path : String) (file : StoredFile)
    (tracked : w.path = some path) (there : s.file? path = some file)
    (marked : w.modified = some file.modified) : w.reload s = (w, .ok none) := by
  simp [reload, tracked, there, marked, Surroundings.has, Surroundings.modified?]

theorem reload_changed (w : ConfigWatcher) (s : Surroundings) (path : String) (file : StoredFile)
    (tracked : w.path = some path) (there : s.file? path = some file)
    (changed : w.modified ≠ some file.modified) :
    w.reload s = ((w.loadFile s path).1, (w.loadFile s path).2.map some) := by
  simp [reload, tracked, there, changed.symm, Surroundings.has, Surroundings.modified?]

theorem load_file_outcome (w u : ConfigWatcher) (s : Surroundings) (path : String)
    (tracked : u.path = some path) (kept : u = w ∨ u.modified = none) :
    Outcome w s ((u.loadFile s path).1, (u.loadFile s path).2.map some) := by
  cases found : s.file? path with
  | none =>
      simp only [loadFile, found]
      exact .unread u _ path tracked kept
  | some file =>
      cases parsed : Settings.parse? file.text with
      | none =>
          simp only [loadFile, found, parsed]
          exact .unread u _ path tracked kept
      | some settings =>
          have read := Outcome.read (w := w) path file found
          simpa only [loadFile, found, parsed, tracked, Config.ofText] using read

theorem load_outcome (w : ConfigWatcher) (s : Surroundings) (idle : w.Idle) :
    Outcome w s (Call.load.answer w s) := by
  obtain ⟨path, modified⟩ := w
  cases path with
  | none =>
      obtain rfl : modified = none := idle rfl
      exact .defaults
  | some path => exact load_file_outcome _ _ s path rfl (.inl rfl)

theorem reload_outcome (w : ConfigWatcher) (s : Surroundings) (idle : w.Idle) :
    Outcome w s (Call.reload.answer w s) := by
  obtain ⟨path, modified⟩ := w
  cases path with
  | none =>
      obtain rfl : modified = none := idle rfl
      cases found : s.discover? with
      | none =>
          simp only [Call.answer, reload, loadWatched, found]
          exact .quiet fun path tracked => nomatch tracked
      | some path =>
          simp only [Call.answer, reload, loadWatched, found]
          exact load_file_outcome _ _ s path rfl (.inr rfl)
  | some path =>
      cases there : s.file? path with
      | none =>
          cases found : s.discover? with
          | none =>
              simp only [Call.answer, reload, loadWatched, discover, Surroundings.has, there, found]
              exact .defaults
          | some other =>
              simp only [Call.answer, reload, loadWatched, discover, Surroundings.has, there, found]
              exact load_file_outcome _ _ s other rfl (.inr rfl)
      | some file =>
          by_cases same : modified = some file.modified
          · rw [Call.answer, reload_unchanged _ s path file rfl there same]
            refine .quiet fun p tracked => ?_
            obtain rfl : path = p := Option.some.inj tracked
            exact ⟨file, there, same⟩
          · rw [Call.answer, reload_changed _ s path file rfl there same]
            exact load_file_outcome _ _ s path rfl (.inl rfl)

theorem call_outcome (w : ConfigWatcher) (s : Surroundings) (c : Call) (idle : w.Idle) :
    Outcome w s (c.answer w s) := by
  cases c with
  | load => exact load_outcome w s idle
  | reload => exact reload_outcome w s idle

theorem load_not_quiet (w : ConfigWatcher) (s : Surroundings) :
    (Call.load.answer w s).2 ≠ .ok none := by
  intro quiet
  cases given : (w.load s).2 with
  | error e => simp [Call.answer, given, Except.map] at quiet
  | ok c => simp [Call.answer, given, Except.map] at quiet

structure Answer where
  seen : Option (String × StoredFile)
  given : Except Config.Error (Option Config)

def Answer.snapshot? (a : Answer) : Option (Option (String × StoredFile) × Config) :=
  match a.given with
  | .ok (some c) => some (a.seen, c)
  | _ => none

def lastSnapshot? (answers : List Answer) : Option (Option (String × StoredFile) × Config) :=
  (answers.filterMap Answer.snapshot?).getLast?

theorem last_snapshot_append (answers : List Answer) (a : Answer) :
    lastSnapshot? (answers ++ [a]) = a.snapshot?.or (lastSnapshot? answers) := by
  cases given : a.snapshot? with
  | none => simp [lastSnapshot?, given]
  | some taken => simp [lastSnapshot?, given]

inductive Step where
  | write (path : String) (file : StoredFile)
  | remove (path : String)
  | call (c : Call)
deriving DecidableEq

def Step.call? : Step → Option Call
  | .call c => some c
  | _ => none

def Step.stamp? (path : String) : Step → Option Int
  | .write p file => if path = p then some file.modified else none
  | _ => none

def stamps (s : Surroundings) (history : List Step) (path : String) : List Int :=
  (s.modified? path).toList ++ history.filterMap (Step.stamp? path)

structure Session where
  place : Surroundings
  watcher : ConfigWatcher
  answers : List Answer

namespace Session

def start (s : Surroundings) : Session := ⟨s, discover s, []⟩

def look (t : Session) (w : ConfigWatcher) : Option (String × StoredFile) :=
  w.path.bind fun path => (t.place.file? path).map (path, ·)

def step (t : Session) : Step → Session
  | .write path file => { t with place := t.place.write path file }
  | .remove path => { t with place := t.place.remove path }
  | .call c =>
    let (w, given) := c.answer t.watcher t.place
    { t with watcher := w, answers := t.answers ++ [⟨t.look w, given⟩] }

def run (t : Session) (history : List Step) : Session := history.foldl step t

-- What a file holds is behind the last snapshot, or it was refused and that has been told.
def Heeded (t : Session) (path : String) (file : StoredFile) : Prop :=
  (∃ c, Config.ofText path file.text = .ok c ∧ lastSnapshot? t.answers = some (some (path, file), c)) ∨
    ∃ e, Config.ofText path file.text = .error e ∧ ⟨some (path, file), .error e⟩ ∈ t.answers

theorem run_append (t : Session) (history : List Step) (st : Step) :
    t.run (history ++ [st]) = (t.run history).step st := by
  simp only [run, List.foldl_append, List.foldl_cons, List.foldl_nil]

theorem stamps_append (s : Surroundings) (history : List Step) (st : Step) (path : String) :
    stamps s (history ++ [st]) path = stamps s history path ++ (st.stamp? path).toList := by
  cases given : st.stamp? path with
  | none => simp [stamps, given]
  | some m => simp [stamps, given]

theorem stamps_unwritten (s : Surroundings) (history : List Step) (st : Step)
    (unwritten : ∀ path, st.stamp? path = none) : stamps s (history ++ [st]) = stamps s history := by
  funext path
  rw [stamps_append, unwritten, Option.toList_none, List.append_nil]

theorem step_idle (t : Session) (st : Step) (idle : t.watcher.Idle) : (t.step st).watcher.Idle := by
  cases st with
  | write path file => exact idle
  | remove path => exact idle
  | call c =>
      have outcome := call_outcome t.watcher t.place c idle
      rw [step]
      generalize c.answer t.watcher t.place = answer at outcome ⊢
      cases outcome with
      | quiet current => exact idle
      | defaults => exact fun _ => rfl
      | unread u e path tracked same => exact fun untracked => nomatch tracked.symm.trans untracked
      | read path file there => exact fun untracked => nomatch untracked

theorem run_idle (s : Surroundings) (history : List Step) : ((start s).run history).watcher.Idle := by
  induction history using List.reverseRecOn with
  | nil => exact fun _ => rfl
  | append_singleton history st ih =>
      rw [run_append]
      exact step_idle _ st ih

-- What holds of a session whose paths have had the times [stamps]: the mark of a watcher is one of
-- those times, and as long as it is the time of the present file that file has been heeded.
structure Kept (stamps : String → List Int) (t : Session) : Prop where
  stamped : ∀ path file, t.place.file? path = some file → file.modified ∈ stamps path
  marked : ∀ path m, t.watcher.path = some path → t.watcher.modified = some m → m ∈ stamps path
  heeded : ∀ path file, t.watcher.path = some path → t.place.file? path = some file →
    t.watcher.modified = some file.modified → t.Heeded path file

theorem start_kept (s : Surroundings) : Kept (stamps s []) (start s) where
  stamped := by
    intro path file there
    have there : s.file? path = some file := there
    simp [stamps, Surroundings.modified?, there]
  marked := fun _ _ _ marked => nomatch marked
  heeded := fun _ _ _ _ marked => nomatch marked

theorem write_kept (old new : String → List Int) (t : Session) (path : String) (file : StoredFile)
    (kept : Kept old t) (fresh : file.modified ∉ old path) (known : ∀ p, ∀ m ∈ old p, m ∈ new p)
    (noted : file.modified ∈ new path) : Kept new (t.step (.write path file)) where
  stamped := by
    intro p f there
    rw [step, Surroundings.file_written] at there
    by_cases same : p = path
    · rw [if_pos same] at there
      obtain rfl : file = f := Option.some.inj there
      exact same ▸ noted
    · rw [if_neg same] at there
      exact known p _ (kept.stamped p f there)
  marked := fun p m tracked marked => known p m (kept.marked p m tracked marked)
  heeded := by
    intro p f tracked there marked
    rw [step, Surroundings.file_written] at there
    by_cases same : p = path
    · rw [if_pos same] at there
      obtain rfl : file = f := Option.some.inj there
      have seen := kept.marked p file.modified tracked marked
      exact absurd (same ▸ seen) fresh
    · rw [if_neg same] at there
      exact kept.heeded p f tracked there marked

theorem remove_kept (stamps : String → List Int) (t : Session) (path : String) (kept : Kept stamps t) :
    Kept stamps (t.step (.remove path)) := by
  have still (p : String) (f : StoredFile) (there : (t.place.remove path).file? p = some f) :
      t.place.file? p = some f := by
    rw [Surroundings.file_removed] at there
    split at there
    · cases there
    · exact there
  exact {
    stamped := fun p f there => kept.stamped p f (still p f there)
    marked := kept.marked
    heeded := fun p f tracked there marked => kept.heeded p f tracked (still p f there) marked }

theorem Heeded.later {t : Session} {path : String} {file : StoredFile} (heeded : t.Heeded path file)
    (w : ConfigWatcher) (a : Answer) (none : a.snapshot? = none) :
    Heeded ⟨t.place, w, t.answers ++ [a]⟩ path file := by
  rcases heeded with ⟨c, holds, last⟩ | ⟨e, fails, told⟩
  · refine .inl ⟨c, holds, ?_⟩
    rw [last_snapshot_append, none, Option.none_or, last]
  · exact .inr ⟨e, fails, List.mem_append_left _ told⟩

theorem read_heeded (t : Session) (path : String) (file : StoredFile)
    (there : t.place.file? path = some file) :
    Heeded ⟨t.place, ⟨some path, some file.modified⟩, t.answers ++
      [⟨t.look ⟨some path, some file.modified⟩, (Config.ofText path file.text).map some⟩]⟩ path file := by
  have seen : t.look ⟨some path, some file.modified⟩ = some (path, file) := by
    simp [look, there]
  rw [seen]
  cases given : Config.ofText path file.text with
  | ok c =>
      refine .inl ⟨c, given, ?_⟩
      rw [last_snapshot_append]
      rfl
  | error e => exact .inr ⟨e, given, List.mem_append_right _ (List.mem_singleton_self _)⟩

theorem told_kept (stamps : String → List Int) (t : Session) (a : Answer) (kept : Kept stamps t)
    (none : a.snapshot? = none) : Kept stamps ⟨t.place, t.watcher, t.answers ++ [a]⟩ where
  stamped := kept.stamped
  marked := kept.marked
  heeded := fun p f tracked there marked => (kept.heeded p f tracked there marked).later _ a none

theorem unmarked_kept (stamps : String → List Int) (t : Session) (w : ConfigWatcher) (answers : List Answer)
    (kept : Kept stamps t) (unmarked : w.modified = none) : Kept stamps ⟨t.place, w, answers⟩ where
  stamped := kept.stamped
  marked := fun _ _ _ marked => nomatch unmarked.symm.trans marked
  heeded := fun _ _ _ _ marked => nomatch unmarked.symm.trans marked

theorem call_kept (stamps : String → List Int) (t : Session) (c : Call) (idle : t.watcher.Idle)
    (kept : Kept stamps t) : Kept stamps (t.step (.call c)) := by
  have outcome := call_outcome t.watcher t.place c idle
  rw [step]
  generalize c.answer t.watcher t.place = answer at outcome ⊢
  cases outcome with
  | quiet current => exact told_kept stamps t _ kept rfl
  | defaults => exact unmarked_kept stamps t _ _ kept rfl
  | unread u e path tracked same =>
      rcases same with rfl | unmarked
      · exact told_kept stamps t _ kept rfl
      · exact unmarked_kept stamps t u _ kept unmarked
  | read path file there =>
      exact {
        stamped := kept.stamped
        marked := by
          intro p m tracked marked
          obtain rfl : path = p := Option.some.inj tracked
          obtain rfl : file.modified = m := Option.some.inj marked
          exact kept.stamped path file there
        heeded := by
          intro p f tracked found marked
          obtain rfl : path = p := Option.some.inj tracked
          obtain rfl : file = f := Option.some.inj (there.symm.trans found)
          exact read_heeded t path file there }

theorem run_kept (s : Surroundings) (history : List Step) (fresh : ∀ path, (stamps s history path).Nodup) :
    Kept (stamps s history) ((start s).run history) := by
  induction history using List.reverseRecOn with
  | nil => exact start_kept s
  | append_singleton history st ih =>
      have earlier (path : String) := List.nodup_append.mp (stamps_append s history st path ▸ fresh path)
      have kept := ih fun path => (earlier path).1
      rw [run_append]
      cases st with
      | write path file =>
          have noted : Step.stamp? path (.write path file) = some file.modified := if_pos rfl
          refine write_kept _ _ _ path file kept ?_ ?_ ?_
          · intro before
            have apart := (earlier path).2.2 file.modified before file.modified
            simp [noted] at apart
          · intro p m before
            rw [stamps_append]
            exact List.mem_append_left _ before
          · rw [stamps_append, noted]
            exact List.mem_append_right _ (List.mem_singleton_self _)
      | remove path =>
          rw [stamps_unwritten s history (.remove path) fun _ => rfl]
          exact remove_kept _ _ path kept
      | call c =>
          rw [stamps_unwritten s history (.call c) fun _ => rfl]
          exact call_kept _ _ c (run_idle s history) kept

def Defaulted (t : Session) : Prop :=
  t.watcher.path = none → (lastSnapshot? t.answers).map (·.2) = some Config.default

theorem call_defaulted (t : Session) (c : Call) (idle : t.watcher.Idle)
    (before : c = .load ∨ t.Defaulted) : (t.step (.call c)).Defaulted := by
  have outcome := call_outcome t.watcher t.place c idle
  have loud : c = .load → (c.answer t.watcher t.place).2 ≠ .ok none := by
    rintro rfl
    exact load_not_quiet t.watcher t.place
  rw [step]
  generalize c.answer t.watcher t.place = answer at outcome loud ⊢
  cases outcome with
  | quiet current =>
      intro untracked
      have defaulted := before.resolve_left fun load => loud load rfl
      dsimp only
      rw [last_snapshot_append]
      exact defaulted untracked
  | defaults =>
      intro _
      dsimp only
      rw [last_snapshot_append]
      rfl
  | unread u e path tracked same => exact fun untracked => nomatch tracked.symm.trans untracked
  | read path file there => exact fun untracked => nomatch untracked

theorem run_defaulted (s : Surroundings) (history : List Step)
    (first : (history.filterMap Step.call?).head? = some .load) :
    ((start s).run history).Defaulted := by
  induction history using List.reverseRecOn with
  | nil => cases first
  | append_singleton history st ih =>
      rw [List.filterMap_append, List.head?_append] at first
      rw [run_append]
      cases st with
      | write path file => exact ih (by simpa [Step.call?] using first)
      | remove path => exact ih (by simpa [Step.call?] using first)
      | call c =>
          refine call_defaulted _ c (run_idle s history) ?_
          cases calls : (history.filterMap Step.call?).head? with
          | none => exact .inl (by simpa [calls, Step.call?] using first)
          | some d =>
              rw [calls, Option.some_or] at first
              exact .inr (ih (calls.trans first))

end Session

/-- Whatever is written and removed around the calls of a watcher, if no path has the same time twice and
the first call loads: when a reload has nothing to tell, then the watcher has no file and the last snapshot
is the default, or its file is there and what it holds is behind the last snapshot, or was refused with an
error that has been told. -/
theorem quiet_reload_current (s : Surroundings) (history : List Step) (t : Session)
    (reached : (Session.start s).run history = t)
    (first : (history.filterMap Step.call?).head? = some .load)
    (fresh : ∀ path, (stamps s history path).Nodup)
    (quiet : (t.watcher.reload t.place).2 = .ok none) :
    (t.watcher.reload t.place).1 = t.watcher ∧
      (t.watcher.path = none ∧ (lastSnapshot? t.answers).map (·.2) = some Config.default ∨
        ∃ path file, t.watcher.path = some path ∧ t.place.file? path = some file ∧
          ((∃ c, Config.ofText path file.text = .ok c ∧
              lastSnapshot? t.answers = some (some (path, file), c)) ∨
            ∃ e, Config.ofText path file.text = .error e ∧
              ⟨some (path, file), .error e⟩ ∈ t.answers)) := by
  subst reached
  have kept := Session.run_kept s history fresh
  have defaulted := Session.run_defaulted s history first
  have outcome := reload_outcome _ ((Session.start s).run history).place (Session.run_idle s history)
  rw [Call.answer] at outcome
  generalize ((Session.start s).run history).watcher.reload _ = answer at outcome quiet ⊢
  cases outcome with
  | quiet current =>
      refine ⟨rfl, ?_⟩
      cases tracked : ((Session.start s).run history).watcher.path with
      | none => exact .inl ⟨rfl, defaulted tracked⟩
      | some path =>
          obtain ⟨file, there, marked⟩ := current path tracked
          exact .inr ⟨path, file, rfl, there, kept.heeded path file tracked there marked⟩
  | defaults => cases quiet
  | unread u e path tracked same => cases quiet
  | read path file there =>
      cases given : Config.ofText path file.text with
      | ok c =>
          rw [given] at quiet
          cases quiet
      | error e =>
          rw [given] at quiet
          cases quiet

def redAdded : Surroundings := ⟨[("kubetab.yaml", ⟨"theme:\n  add: red", 1⟩)], none, none⟩

def unknownAdded : StoredFile := ⟨"theme:\n  add: redd", 2⟩

def misspelling : List Step := [.call .load, .write "kubetab.yaml" unknownAdded, .call .reload]

theorem misspelling_fresh (path : String) : (stamps redAdded misspelling path).Nodup := by
  by_cases same : path = "kubetab.yaml"
  · subst same
    decide
  · have unheld : redAdded.modified? path = none := by
      simp [Surroundings.modified?, Surroundings.file?, redAdded, List.lookup_cons, beq_false_of_ne same]
    have unwritten : misspelling.filterMap (Step.stamp? path) = [] := by
      simp [misspelling, List.filterMap_cons, Step.stamp?, same]
    rw [stamps, unheld, unwritten]
    exact List.nodup_nil

theorem misspelled_colour_told :
    ((Session.start redAdded).run misspelling).watcher.reload
        ((Session.start redAdded).run misspelling).place =
      (⟨some "kubetab.yaml", some 2⟩, .ok none) ∧
    ∃ e, Config.ofText "kubetab.yaml" unknownAdded.text = .error e ∧
      ⟨some ("kubetab.yaml", unknownAdded), .error e⟩ ∈
        ((Session.start redAdded).run misspelling).answers := by
  have watcher : ((Session.start redAdded).run misspelling).watcher = ⟨some "kubetab.yaml", some 2⟩ := by
    decide +kernel
  have found : ((Session.start redAdded).run misspelling).place.file? "kubetab.yaml" = some unknownAdded := by
    decide +kernel
  have fails : (Config.ofText "kubetab.yaml" unknownAdded.text).toOption.isNone = true := by
    decide +kernel
  generalize reached : (Session.start redAdded).run misspelling = t at watcher found ⊢
  have tracked : t.watcher.path = some "kubetab.yaml" := by rw [watcher]
  have marked : t.watcher.modified = some unknownAdded.modified := by rw [watcher, unknownAdded]
  have quiet := reload_unchanged t.watcher t.place "kubetab.yaml" unknownAdded tracked found marked
  refine ⟨by rw [quiet, watcher], ?_⟩
  obtain ⟨-, ⟨untracked, -⟩ | ⟨path, file, same, there, heeded⟩⟩ :=
    quiet_reload_current redAdded misspelling t reached rfl misspelling_fresh (by rw [quiet])
  · cases tracked.symm.trans untracked
  · obtain rfl : "kubetab.yaml" = path := Option.some.inj (tracked.symm.trans same)
    obtain rfl : unknownAdded = file := Option.some.inj (found.symm.trans there)
    refine heeded.resolve_left ?_
    rintro ⟨c, holds, -⟩
    rw [holds] at fails
    cases fails

end ConfigWatcher

end LiveTable
