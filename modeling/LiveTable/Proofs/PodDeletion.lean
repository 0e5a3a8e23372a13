import LiveTable.Proofs.HealthCells
import LiveTable.Proofs.PodTotals

namespace LiveTable

namespace Pod

-- A container that starts first and is done with it: it has ended well, or it runs on beside the others and is ready.
def Done (sidecar : Bool) (s : ContainerStatus) : Prop :=
  (∃ t, s.state.terminated = some t ∧ t.exitCode = 0) ∨
    s.state.terminated = none ∧ sidecar = true ∧ s.started = true ∧ s.ready = true

theorem init_phase_cases (count place : Nat) (sidecar : Bool) (s : ContainerStatus) :
    Done sidecar s ∧ initPhase? count place sidecar s = none ∨
      ¬Done sidecar s ∧ ∃ rest, initPhase? count place sidecar s = some ("Init:" ++ rest) := by
  unfold Done initPhase?
  cases s.state.terminated with
  | some t =>
      by_cases well : t.exitCode = 0
      · exact .inl ⟨.inl ⟨t, rfl, well⟩, if_pos well⟩
      · exact .inr ⟨by simp [well], describeEnd t, if_neg well⟩
  | none =>
      by_cases runs : (sidecar && s.started) = true
      · have both := Bool.and_eq_true_iff.mp runs
        cases s.ready with
        | true => exact .inl ⟨.inr ⟨rfl, both.1, both.2, rfl⟩, by simp [runs]⟩
        | false => exact .inr ⟨by simp, toString place ++ "/" ++ toString count, by simp [runs, String.append_assoc]⟩
      · refine .inr ⟨fun done => ?_, ?_⟩
        · obtain ⟨t, ended, _⟩ | ⟨_, beside, started, _⟩ := done
          · cases ended
          · exact runs (by rw [beside, started]; rfl)
        · dsimp only
          rw [if_neg runs]
          split
          · exact ⟨s.state.waiting, rfl⟩
          · exact ⟨toString place ++ "/" ++ toString count, by simp [String.append_assoc]⟩

theorem init_phase_none_iff (count place : Nat) (sidecar : Bool) (s : ContainerStatus) :
    initPhase? count place sidecar s = none ↔ Done sidecar s := by
  rcases init_phase_cases count place sidecar s with ⟨done, silent⟩ | ⟨waits, rest, said⟩
  · exact iff_of_true silent done
  · exact iff_of_false (by simp [said]) waits

theorem init_phase_text (count place : Nat) (sidecar : Bool) (s : ContainerStatus) (phase : String)
    (said : initPhase? count place sidecar s = some phase) : ∃ rest, phase = "Init:" ++ rest := by
  rcases init_phase_cases count place sidecar s with ⟨_, silent⟩ | ⟨_, rest, given⟩
  · rw [silent] at said
    cases said
  · rw [given] at said
    exact ⟨rest, (Option.some.inj said).symm⟩

instance (sidecar : Bool) (s : ContainerStatus) : Decidable (Done sidecar s) :=
  decidable_of_iff _ (init_phase_none_iff 0 0 sidecar s)

theorem init_phases_none_iff (p : Pod) :
    p.initPhases = [] ↔ ∀ s ∈ p.status.initContainers, Done (p.spec.isSidecar s) s := by
  rw [initPhases, List.filterMap_eq_nil_iff]
  refine ⟨fun silent s member => ?_, fun done ⟨s, place⟩ member => ?_⟩
  · obtain ⟨place, read⟩ := List.mem_iff_getElem?.mp member
    exact (init_phase_none_iff _ place _ s).mp (silent (s, place) (List.mk_mem_zipIdx_iff_getElem?.mpr read))
  · exact (init_phase_none_iff _ place _ s).mpr (done s (List.fst_mem_of_mem_zipIdx member))

theorem init_phases_text (p : Pod) (phase : String) (member : phase ∈ p.initPhases) :
    ∃ rest, phase = "Init:" ++ rest := by
  obtain ⟨⟨s, place⟩, _, said⟩ := List.mem_filterMap.mp member
  exact init_phase_text _ place _ s phase said

theorem init_text_other (rest : String) : "Init:" ++ rest ≠ completed ∧ "Init:" ++ rest ≠ terminating := by
  constructor <;> exact fun same => by simpa [completed, terminating] using congrArg String.toList same

theorem deleted_phase (p : Pod) (deleted : p.isDeleted = true) :
    p.phase = if p.status.reason = "NodeLost" then "Unknown" else p.initPhases.head?.getD terminating := by
  rw [phase, mainPhase, deleted]
  simp

theorem deleted_phase_other (p : Pod) (deleted : p.isDeleted = true) :
    p.phase ≠ completed ∧ (p.phase ≠ terminating ↔
      p.status.reason = "NodeLost" ∨ ∃ s ∈ p.status.initContainers, ¬Done (p.spec.isSidecar s) s) := by
  have waiting : (∃ s ∈ p.status.initContainers, ¬Done (p.spec.isSidecar s) s) ↔ p.initPhases ≠ [] := by
    simp only [Ne, init_phases_none_iff, not_forall, exists_prop]
  rw [deleted_phase p deleted, waiting]
  by_cases lost : p.status.reason = "NodeLost"
  · rw [if_pos lost]
    exact ⟨by decide, iff_of_true (by decide) (.inl lost)⟩
  · rw [if_neg lost, or_iff_right lost]
    cases said : p.initPhases with
    | nil => exact ⟨by decide, iff_of_false (fun other => other rfl) (fun other => other rfl)⟩
    | cons phase rest =>
        obtain ⟨text, rfl⟩ := init_phases_text p phase (said ▸ List.mem_cons_self)
        exact ⟨(init_text_other text).1, iff_of_true (init_text_other text).2 (List.cons_ne_nil _ _)⟩

theorem diagnose_none_iff (phase : String) (ready total : Nat) :
    diagnose phase ready total = none ↔ phase = completed ∨ ready = total ∧ total ≠ 0 ∧ phase ≠ terminating := by
  unfold diagnose
  by_cases complete : phase = completed
  · simp [complete]
  · by_cases allReady : ready = total ∧ total ≠ 0
    · by_cases stops : phase = terminating <;> simp [complete, allReady, stops]
    · have lacking : (ready != total || total == 0) = true := by
        simp only [bne_iff_ne, Bool.or_eq_true, beq_iff_eq]
        omega
      simp [complete, lacking]
      omega

theorem deleted_verdict_iff (p : Pod) (deleted : p.isDeleted = true) :
    diagnose p.phase p.readyCount p.totalCount = none ↔ p.readyCount = p.totalCount ∧ p.totalCount ≠ 0 ∧
      (p.status.reason = "NodeLost" ∨ ∃ s ∈ p.status.initContainers, ¬Done (p.spec.isSidecar s) s) := by
  obtain ⟨incomplete, other⟩ := deleted_phase_other p deleted
  rw [diagnose_none_iff, or_iff_right incomplete, other]

theorem check_completes_iff (p : Pod) : p.check? ≠ none ↔ p.CountsAddUp := by
  rw [CountsAddUp, ← sum_restarts_completes_iff, ← sum_restarts_completes_iff, check?]
  cases sumRestarts? p.status.containers <;> cases sumRestarts? p.sidecars <;> simp

theorem check_exact (p : Pod) (verdict : Option Fault) (given : p.check? = some verdict) :
    verdict = diagnose p.phase p.readyCount p.totalCount := by
  obtain ⟨_, _, more⟩ := Option.bind_eq_some_iff.mp given
  obtain ⟨_, _, same⟩ := Option.bind_eq_some_iff.mp more
  exact (Option.some.inj same).symm

/-- The check on a pod returns unless an addition of its restarts leaves the range. If the pod is being deleted, it
passes exactly when all its containers are ready, of which there must be some, and its node is lost or a container that
starts first is not done. In all other cases the check fails. The health cell of its row is blank exactly when the check
passes. -/
theorem deleted_pod_well_iff (now : Int) (ns : String) (object : Json) (p : Pod) (accepted : read object = .ok p)
    (deleted : p.isDeleted = true) :
    (renderer.healthy object ≠ none ↔ p.CountsAddUp) ∧
      (p.CountsAddUp → (renderer.healthy object = some (.ok ()) ↔ p.readyCount = p.totalCount ∧ p.totalCount ≠ 0 ∧
        (p.status.reason = "NodeLost" ∨ ∃ s ∈ p.status.initContainers, ¬Done (p.spec.isSidecar s) s))) ∧
      (p.AddsUp → ∃ row place cell, renderer.render now ns object = some (.ok row) ∧
        (renderer.header ns).validIndex? = some place ∧ row.fields[place]? = some cell ∧
        (Text.isBlankText cell = true ↔ renderer.healthy object = some (.ok ()))) := by
  have checked : renderer.healthy object = p.check?.map Unhealthy.judge :=
    Renderer.checking_read read check? object p accepted
  refine ⟨?_, fun adds => ?_, fun adds => ?_⟩
  · rw [checked, ← p.check_completes_iff, Ne, Ne, Option.map_eq_none_iff]
  · obtain ⟨verdict, given⟩ := Option.ne_none_iff_exists'.mp (p.check_completes_iff.mpr adds)
    rw [checked, given, Option.map_some, ← deleted_verdict_iff p deleted, ← p.check_exact verdict given]
    cases verdict <;> simp [Unhealthy.judge]
  · obtain ⟨place, shows⟩ := Renderer.pods_agree ns
    obtain ⟨row, given⟩ := Option.ne_none_iff_exists'.mp ((p.row_completes_iff now).mpr adds)
    have rendered : renderer.render now ns object = some (.ok row) := by
      rw [render_accepted now ns object p accepted, given, Option.map_some]
    obtain ⟨verdict, judged, cell⟩ := shows.2 now object row rendered
    refine ⟨row, place, _, rendered, shows.1, cell, ?_⟩
    rw [judged, Unhealthy.status_blank]
    cases verdict <;> simp [Except.isOk, Except.toBool]

def deletedPod (reason : String) : Json :=
  .object [("kind", .string "Pod"),
    ("metadata", .object [("deletionTimestamp", .string "2024-06-01T11:30:00Z"), ("name", .string "a")]),
    ("spec", .object [("containers", .array [.object [("name", .string "web")]])]),
    ("status", .object [
      ("containerStatuses", .array [.object [("name", .string "web"), ("ready", .bool true)]]),
      ("reason", .string reason)])]

def deleted (reason : String) : Pod := (read (deletedPod reason)).toOption.getD (default : Pod)

theorem evicted_pod_unwell :
    read (deletedPod "Evicted") = .ok (deleted "Evicted") ∧ (deleted "Evicted").isDeleted = true ∧
      renderer.healthy (deletedPod "Evicted") ≠ some (.ok ()) ∧
      ∃ row place cell, renderer.render 0 "" (deletedPod "Evicted") = some (.ok row) ∧
        (renderer.header "").validIndex? = some place ∧ row.fields[place]? = some cell ∧
        Text.isBlankText cell ≠ true := by
  have accepted : read (deletedPod "Evicted") = .ok (deleted "Evicted") := rfl
  have adds : (deleted "Evicted").AddsUp := ((deleted "Evicted").row_completes_iff 0).mp (by decide +kernel)
  obtain ⟨_, well, shown⟩ :=
    deleted_pod_well_iff 0 "" (deletedPod "Evicted") (deleted "Evicted") accepted (by decide +kernel)
  have unwell : renderer.healthy (deletedPod "Evicted") ≠ some (.ok ()) := by
    rw [Ne, well adds.restarts.1]
    decide +kernel
  obtain ⟨row, place, cell, rendered, valid, held, blank⟩ := shown adds
  exact ⟨accepted, by decide +kernel, unwell, row, place, cell, rendered, valid, held, fun empty =>
    unwell (blank.mp empty)⟩

theorem lost_pod_passes :
    read (deletedPod "NodeLost") = .ok (deleted "NodeLost") ∧ (deleted "NodeLost").isDeleted = true ∧
      renderer.healthy (deletedPod "NodeLost") = some (.ok ()) ∧
      ∃ row place, renderer.render 0 "" (deletedPod "NodeLost") = some (.ok row) ∧
        (renderer.header "").validIndex? = some place ∧ row.fields[place]? = some "" := by
  have shown : ((deleted "NodeLost").row? 0).bind (·.fields[15]?) = some "" := by decide +kernel
  obtain ⟨row, given, cell⟩ := Option.bind_eq_some_iff.mp shown
  refine ⟨rfl, by decide +kernel, by decide +kernel, row, 15, ?_, rfl, cell⟩
  rw [render_accepted 0 "" (deletedPod "NodeLost") (deleted "NodeLost") rfl, given, Option.map_some]

end Pod

end LiveTable
