import LiveTable.Proofs.Isolation
import LiveTable.Proofs.Toast

namespace LiveTable

namespace Text

theorem visible_before (s t : String) (visible : isBlankText s = false) : isBlankText (s ++ t) = false := by
  rw [isBlankText, String.toList_append, List.all_append, Bool.and_eq_false_iff]
  exact .inl visible

theorem visible_after (s t : String) (visible : isBlankText t = false) : isBlankText (s ++ t) = false := by
  rw [isBlankText, String.toList_append, List.all_append, Bool.and_eq_false_iff]
  exact .inr visible

end Text

theorem Fault.message_visible (fault : Fault) : Text.isBlankText fault.message = false := by
  cases fault with
  | containersNotReady ready total =>
      exact Text.visible_before _ _ (Text.visible_before _ _ (Text.visible_before _ _ (by decide)))
  | replicasNotReady ready desired =>
      exact Text.visible_before _ _ (Text.visible_before _ _ (Text.visible_before _ _ (by decide)))
  | claimNotBound phase => exact Text.visible_before _ _ (by decide)
  | podsFailed count => exact Text.visible_after _ _ (by decide)
  | podTerminating | nodeCordoned | nodeNotReady | namespaceNotReady | volumeFailed => decide

theorem ReadError.message_visible (error : ReadError) : Text.isBlankText error.message = false := by
  cases error with
  | otherKind expected found =>
      exact Text.visible_before _ _ (Text.visible_before _ _ (Text.visible_before _ _ (by decide)))
  | malformed kind => exact Text.visible_before _ _ (Text.visible_before _ _ (by decide))
  | noMetadata | invalidMetadata => decide

namespace Unhealthy

theorem message_visible (unhealthy : Unhealthy) : Text.isBlankText unhealthy.message = false := by
  cases unhealthy with
  | unreadable error => exact error.message_visible
  | faulty fault => exact fault.message_visible

theorem status_blank (verdict : Except Unhealthy Unit) : Text.isBlankText (status verdict) = verdict.isOk := by
  cases verdict with
  | ok _ => rfl
  | error unhealthy => exact unhealthy.message_visible

theorem judge_status (fault? : Option Fault) : status (judge fault?) = Fault.status fault? := by
  cases fault? <;> rfl

end Unhealthy

namespace Renderer

theorem checking_read {α : Type} (read : Json → Except ReadError α) (check? : α → Option (Option Fault)) (object : Json)
    (a : α) (found : read object = .ok a) : checking read check? object = (check? a).map Unhealthy.judge := by
  rw [checking, found]

-- The cell of this column holds the verdict of the check on the object.
def Shows (r : Renderer) (ns : String) (place : Nat) : Prop :=
  (r.header ns).validIndex? = some place ∧
    ∀ now object row, r.render now ns object = some (.ok row) →
      ∃ verdict, r.healthy object = some verdict ∧ row.fields[place]? = some (Unhealthy.status verdict)

def Agrees (r : Renderer) : Prop := ∀ ns, ∃ place, r.Shows ns place

theorem checked_agrees {α : Type} {r : Renderer} (read : Json → Except ReadError α) (row : Int → α → Row)
    (fault : α → Option Fault) (place : Nat)
    (renders : ∀ now ns, r.render now ns = rendering read (some ∘ row now))
    (checks : r.healthy = checking read fun a => some (fault a))
    (valid : ∀ ns, (r.header ns).validIndex? = some place)
    (cell : ∀ now a, (row now a).fields[place]? = some (Fault.status (fault a))) : r.Agrees := by
  intro ns
  refine ⟨place, valid ns, fun now object made rendered => ?_⟩
  rw [renders] at rendered
  obtain ⟨a, found, given⟩ := rendering_row read _ object made rendered
  cases given
  refine ⟨Unhealthy.judge (fault a), ?_, ?_⟩
  · rw [checks, checking_read read _ object a found, Option.map_some]
  · rw [Unhealthy.judge_status]
    exact cell now a

theorem unchecked_agrees {α : Type} {r : Renderer} (read : Json → Except ReadError α) (row : Int → String → α → Row)
    (renders : ∀ now ns, r.render now ns = rendering read (some ∘ row now ns))
    (passes : r.healthy = fun _ => some (.ok ()))
    (blank : ∀ ns, ∃ place, (r.header ns).validIndex? = some place ∧ ∀ now a, (row now ns a).fields[place]? = some "") :
    r.Agrees := by
  intro ns
  obtain ⟨place, valid, cell⟩ := blank ns
  refine ⟨place, valid, fun now object made rendered => ⟨.ok (), by rw [passes], ?_⟩⟩
  rw [renders] at rendered
  obtain ⟨a, _, given⟩ := rendering_row read _ object made rendered
  cases given
  exact cell now a

theorem pods_agree : Pod.renderer.Agrees := by
  intro ns
  refine ⟨15, rfl, fun now object made rendered => ?_⟩
  obtain ⟨p, found, given⟩ := rendering_row Pod.read _ object made rendered
  obtain ⟨restarts, summed, more⟩ := Option.bind_eq_some_iff.mp given
  obtain ⟨requested, _, further⟩ := Option.bind_eq_some_iff.mp more
  obtain ⟨limited, _, row⟩ := Option.bind_eq_some_iff.mp further
  obtain ⟨main, first, rest⟩ := Option.bind_eq_some_iff.mp summed
  obtain ⟨others, second, _⟩ := Option.bind_eq_some_iff.mp rest
  cases row
  have verdict : p.check? = some (Pod.diagnose p.phase p.readyCount p.totalCount) := by
    simp only [Pod.check?, first, second, Option.bind_eq_bind, Option.bind_some, Option.pure_def]
  refine ⟨Unhealthy.judge (Pod.diagnose p.phase p.readyCount p.totalCount), ?_, ?_⟩
  · exact (checking_read Pod.read Pod.check? object p found).trans (by rw [verdict, Option.map_some])
  · rw [Unhealthy.judge_status]
    rfl

theorem registered_agree : ∀ entry ∈ registered, entry.2.Agrees := by
  simp only [registered, List.forall_mem_cons]
  refine ⟨pods_agree, ?_, ?_, ?_, ?_, ?_, ?_, ?_, ?_, ?_, ?_, ?_, ?_, ?_, ?_, ?_, ?_, List.forall_mem_nil _⟩
  · exact unchecked_agrees Service.read (fun now _ => Service.row now) (fun _ _ => rfl) rfl fun _ =>
      ⟨8, rfl, fun _ _ => rfl⟩
  · exact checked_agrees Node.read Node.row (fun n => Node.diagnose n.statuses) 13 (fun _ _ => rfl) rfl (fun _ => rfl)
      fun _ _ => rfl
  · exact checked_agrees Namespace.read Namespace.row (fun n => Namespace.diagnose n.phase) 3 (fun _ _ => rfl) rfl
      (fun _ => rfl) fun _ _ => rfl
  · exact unchecked_agrees ConfigMap.read (fun now _ => ConfigMap.row now) (fun _ _ => rfl) rfl fun _ =>
      ⟨4, rfl, fun _ _ => rfl⟩
  · exact unchecked_agrees Secret.read (fun now _ => Secret.row now) (fun _ _ => rfl) rfl fun _ =>
      ⟨5, rfl, fun _ _ => rfl⟩
  · exact unchecked_agrees ServiceAccount.read (fun now _ => ServiceAccount.row now) (fun _ _ => rfl) rfl fun _ =>
      ⟨4, rfl, fun _ _ => rfl⟩
  · exact checked_agrees Volume.read Volume.row (fun v => Volume.diagnose v.shownPhase) 10 (fun _ _ => rfl) rfl
      (fun _ => rfl) fun _ _ => rfl
  · exact checked_agrees VolumeClaim.read VolumeClaim.row (fun c => VolumeClaim.diagnose c.shownPhase) 8
      (fun _ _ => rfl) rfl (fun _ => rfl) fun _ _ => rfl
  · exact unchecked_agrees ClusterEvent.read (fun now _ => ClusterEvent.row now) (fun _ _ => rfl) rfl fun _ =>
      ⟨10, rfl, fun _ _ => rfl⟩
  · exact checked_agrees Deployment.read Deployment.row (fun w => replicaFault w.ready w.desired) 8 (fun _ _ => rfl) rfl
      (fun _ => rfl) fun _ _ => rfl
  · exact checked_agrees StatefulSet.read StatefulSet.row (fun w => replicaFault w.ready w.desired) 8 (fun _ _ => rfl)
      rfl (fun _ => rfl) fun _ _ => rfl
  · exact checked_agrees DaemonSet.read DaemonSet.row (fun w => replicaFault (DaemonSet.ready w) (DaemonSet.scheduled w))
      9 (fun _ _ => rfl) rfl (fun _ => rfl) fun _ _ => rfl
  · exact checked_agrees ReplicaSet.read ReplicaSet.row (fun w => replicaFault w.ready w.desired) 6 (fun _ _ => rfl) rfl
      (fun _ => rfl) fun _ _ => rfl
  · exact checked_agrees Job.read Job.row (fun j => Job.diagnose j.spec j.status) 7 (fun _ _ => rfl) rfl (fun _ => rfl)
      fun _ _ => rfl
  · exact unchecked_agrees CronJob.read (fun now _ => CronJob.row now) (fun _ _ => rfl) rfl fun _ =>
      ⟨10, rfl, fun _ _ => rfl⟩
  · exact unchecked_agrees Ingress.read (fun now _ => Ingress.row now) (fun _ _ => rfl) rfl fun _ =>
      ⟨7, rfl, fun _ _ => rfl⟩

theorem plain_agrees : plain.Agrees := by
  refine unchecked_agrees readMetadata plainRow (fun _ _ => rfl) rfl fun ns => ?_
  simp only [plain, plainHeader, plainRow]
  split
  · exact ⟨2, rfl, fun _ _ => rfl⟩
  · exact ⟨3, rfl, fun _ _ => rfl⟩

theorem of_key_agrees (key : String) : (ofKey key).Agrees := by
  rcases of_key_cases key with member | others
  · exact registered_agree _ member
  · exact others ▸ plain_agrees

theorem pods_stop_iff (now : Int) (ns : String) (object : Json) :
    Pod.renderer.render now ns object = none ↔ ∃ p, Pod.read object = .ok p ∧ p.row? now = none := by
  change rendering Pod.read (Pod.row? now) object = none ↔ _
  unfold rendering
  cases Pod.read object <;> simp

theorem of_key_stops_iff (key : String) (now : Int) (ns : String) (object : Json) :
    (ofKey key).render now ns object = none ↔
      key = "v1/pods" ∧ ∃ p, Pod.read object = .ok p ∧ p.row? now = none := by
  by_cases pods : key = "v1/pods"
  · subst pods
    rw [eq_self, true_and]
    exact pods_stop_iff now ns object
  · have total := (of_key_total key).resolve_left fun found => pods found.1
    exact iff_of_false (total.completes now ns object) fun found => pods found.1

def fails (r : Renderer) (object : Json) : Bool := (r.healthy object).any fun verdict => !verdict.isOk

theorem row_unwell (r : Renderer) (now : Int) (ns : String) (place : Nat) (shows : r.Shows ns place) (object : Json)
    (row : Row) (given : r.row? now ns object = some row) :
    (RowEvent.plain .added row).unwell place = r.fails object := by
  obtain ⟨verdict, checked, cell⟩ := shows.2 now object row (r.row_rendered now ns object row given)
  rw [RowEvent.unwell, RowEvent.plain, cell, fails, checked, Option.any_some, Option.any_some, Unhealthy.status_blank]

theorem unwell_rows (r : Renderer) (now : Int) (ns : String) (place : Nat) (shows : r.Shows ns place)
    (objects : List Json) :
    (objects.filterMap (r.row? now ns)).filter (fun row => (RowEvent.plain .added row).unwell place) =
      (objects.filter r.fails).filterMap (r.row? now ns) := by
  rw [List.filterMap_filter, ← List.filterMap_eq_filter, List.filterMap_filterMap]
  refine List.filterMap_congr fun object _ => ?_
  cases given : r.row? now ns object with
  | none => simp
  | some row => simp [← r.row_unwell now ns place shows object row given, Option.guard]

end Renderer

namespace Table

theorem relayout_new_header (ns : String) (h : Header) : ((new ns).relayout h).header = h := by
  unfold relayout
  split
  · rename_i same
    cases h with
    | nil => rfl
    | cons c rest => cases same
  · rfl

theorem row_of_plain (now : Int) (r : Renderer) (ns : String) : rowOf? now r [] ns = r.row? now ns := by
  funext object
  exact Option.map_id_apply

theorem reconcile_new (now : Int) (ns : String) (r : Renderer) (objects : List Json) (columns : r.header ns ≠ [])
    (renders : ∀ object ∈ objects, r.render now ns object ≠ none)
    (distinct : ((objects.filterMap (r.row? now ns)).map Row.id).Nodup) :
    ∃ t, (new ns).reconcile? now r [] objects = some (t, .ok ()) ∧ t.header = r.header ns ∧
      t.events.toList = (objects.filterMap (r.row? now ns)).map (.plain .added) := by
  refine ⟨((new ns).relayout (r.header ns)).update (objects.filterMap (r.row? now ns)), ?_, ?_, ?_⟩
  · rw [reconcile_completes now (new ns) r [] objects renders, row_of_plain]
    exact if_neg columns
  · exact relayout_new_header ns (r.header ns)
  · exact update_new _ _ (relayout_new ns _) distinct

/-- Whatever the kind of resource, a new table takes over every snapshot whose rows are told apart, unless the sums of a
pod stop the program. It then has the rows of the accepted objects in their order, each with the text of the check on its
object as health cell, and toasting keeps exactly the rows of those objects that fail the check, in the same order. -/
theorem toast_keeps_failing (key ns : String) (now : Int) (objects : List Json)
    (distinct : ((objects.filterMap ((Renderer.ofKey key).row? now ns)).map Row.id).Nodup) :
    ((new ns).reconcile? now (Renderer.ofKey key) [] objects = none ↔
        key = "v1/pods" ∧ ∃ object ∈ objects, ∃ p, Pod.read object = .ok p ∧ p.row? now = none) ∧
      ((new ns).reconcile? now (Renderer.ofKey key) [] objects ≠ none →
        ∃ t place, (new ns).reconcile? now (Renderer.ofKey key) [] objects = some (t, .ok ()) ∧
          t.header.validIndex? = some place ∧
          t.events.toList = (objects.filterMap ((Renderer.ofKey key).row? now ns)).map (.plain .added) ∧
          (∀ object row, (Renderer.ofKey key).row? now ns object = some row →
            ∃ verdict, (Renderer.ofKey key).healthy object = some verdict ∧
              row.fields[place]? = some (Unhealthy.status verdict)) ∧
          (t.filter ⟨true, ""⟩).events.toList =
            ((objects.filter (Renderer.ofKey key).fails).filterMap ((Renderer.ofKey key).row? now ns)).map
              (.plain .added)) := by
  refine ⟨?_, fun completes => ?_⟩
  · simp only [reconcile_stops_iff, Renderer.of_key_stops_iff, and_left_comm, exists_and_left]
  · have renders := reconcile_renders now (new ns) (Renderer.ofKey key) [] objects completes
    obtain ⟨place, shows⟩ := Renderer.of_key_agrees key ns
    generalize Renderer.ofKey key = r at *
    have columns : r.header ns ≠ [] := by
      intro missing
      have valid := shows.1
      rw [missing] at valid
      cases valid
    obtain ⟨t, taken, header, events⟩ := reconcile_new now ns r objects columns renders distinct
    have valid : t.header.validIndex? = some place := by
      rw [header]
      exact shows.1
    refine ⟨t, place, taken, valid, events, fun object row given => ?_, ?_⟩
    · exact shows.2 now object row (r.row_rendered now ns object row given)
    · have toasted : t.filter ⟨true, ""⟩ = t.keep (RowEvent.unwell place) := toast_keeps t _ valid
      rw [toasted, keep, RowEvents.filter_list, events, List.filter_map, ← r.unwell_rows now ns place shows objects]
      rfl

def claimIn (name phase : String) : Json :=
  .object [("apiVersion", .string "v1"), ("kind", .string "PersistentVolumeClaim"),
    ("metadata", .object [("name", .string name), ("namespace", .string "x")]),
    ("status", .object [("phase", .string phase)])]

def twoClaims : List Json := [claimIn "a" "Bound", .null, claimIn "b" "Pending"]

def claims : Renderer := Renderer.ofKey "v1/persistentvolumeclaims"

theorem pending_claim_kept :
    ((twoClaims.filterMap (claims.row? 0 "")).map Row.id) = ["x/a", "x/b"] ∧
      ∃ t place, (new "").reconcile? 0 claims [] twoClaims = some (t, .ok ()) ∧
        t.header.validIndex? = some place ∧
        t.events.toList.map (·.row.fields[place]?) = [some "", some "claim is Pending"] ∧
        (t.filter ⟨true, ""⟩).events.ids = ["x/b"] := by
  have named : ((twoClaims.filterMap (claims.row? 0 "")).map Row.id) = ["x/a", "x/b"] := by decide +kernel
  have distinct : ((twoClaims.filterMap (claims.row? 0 "")).map Row.id).Nodup := by
    rw [named]
    decide
  obtain ⟨stops, kept⟩ := toast_keeps_failing "v1/persistentvolumeclaims" "" 0 twoClaims distinct
  obtain ⟨t, place, taken, valid, events, _, toasted⟩ := kept fun failed => absurd (stops.mp failed).1 (by decide)
  have eighth : ((new "").reconcile? 0 claims [] twoClaims).bind (·.1.header.validIndex?) = some 8 := by decide +kernel
  obtain rfl : place = 8 := by
    rw [show (new "").reconcile? 0 claims [] twoClaims = _ from taken, Option.bind_some, valid] at eighth
    exact Option.some.inj eighth
  refine ⟨named, t, 8, taken, valid, ?_, ?_⟩
  · rw [events]
    decide +kernel
  · rw [RowEvents.ids, toasted]
    decide +kernel

end Table

end LiveTable
