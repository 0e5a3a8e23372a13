import LiveTable.Proofs.Layout
import LiveTable.Resource.Pod
import Mathlib

namespace LiveTable

theorem Binary64.round_at_most (lo hi : Int) (x : Float) (natural : 0 ≤ hi) (ordered : lo ≤ hi) :
    round lo hi x ≤ hi := by
  have clamped : ∀ n : Int, clamp lo hi n ≤ hi := by
    intro n
    simp only [clamp]
    omega
  unfold round
  split
  · exact natural
  · split
    · split <;> omega
    · exact clamped _

theorem Quantity.millicores_at_most (s : String) (n : Nat) (read : millicores? s = some n) : n ≤ Width.uint64Max := by
  unfold millicores? at read
  dsimp only at read
  split at read
  · cases read
  · split at read
    · cases read
    · rename_i x _
      split at read
      · rename_i rounded
        have bounded := Binary64.round_at_most (-1) Width.uint64Max
          (x * (splitCores (Text.trimChars s.toList)).2) (by decide) (by decide)
        rw [Option.some.injEq] at read
        omega
      · cases read

-- No sum on the way, from none of the terms to all of them, leaves the bounds.
def AddsWithin (lo hi start : Int) (terms : List Int) : Prop :=
  ∀ n, lo ≤ start + (terms.take n).sum ∧ start + (terms.take n).sum ≤ hi

theorem adds_within_cons (lo hi start x : Int) (terms : List Int) :
    AddsWithin lo hi start (x :: terms) ↔ (lo ≤ start ∧ start ≤ hi) ∧ AddsWithin lo hi (start + x) terms := by
  refine ⟨fun within => ⟨by simpa using within 0, fun n => by simpa [Int.add_assoc] using within (n + 1)⟩, ?_⟩
  rintro ⟨bounds, within⟩ n
  cases n with
  | zero => simpa using bounds
  | succ n => simpa [Int.add_assoc] using within n

-- An addition that is exact within the bounds and stops beyond them.
structure Checked {α : Type} (value : α → Int) (add? : α → α → Option α) (lo hi : Int) : Prop where
  range (a : α) : lo ≤ value a ∧ value a ≤ hi
  exact (a b c : α) : add? a b = some c → value c = value a + value b
  stops (a b : α) : add? a b = none ↔ ¬(lo ≤ value a + value b ∧ value a + value b ≤ hi)

namespace Checked

variable {α : Type} {value : α → Int} {add? : α → α → Option α} {lo hi : Int} (checked : Checked value add? lo hi)

include checked

theorem sum_exact (terms : List α) (start sum : α) (given : terms.foldlM add? start = some sum) :
    value sum = value start + (terms.map value).sum := by
  induction terms generalizing start with
  | nil =>
      cases given
      simp
  | cons x rest ih =>
      obtain ⟨next, first, more⟩ := Option.bind_eq_some_iff.mp given
      rw [ih next more, checked.exact start x next first, List.map_cons, List.sum_cons, Int.add_assoc]

theorem sum_completes_iff (terms : List α) (start : α) :
    terms.foldlM add? start ≠ none ↔ AddsWithin lo hi (value start) (terms.map value) := by
  induction terms generalizing start with
  | nil => exact iff_of_true nofun fun n => by simpa using checked.range start
  | cons x rest ih =>
      rw [List.map_cons, adds_within_cons, and_iff_right (checked.range start), List.foldlM_cons]
      cases first : add? start x with
      | none =>
          have outside := (checked.stops start x).mp first
          exact iff_of_false (fun completes => completes rfl) fun within => outside (by simpa using within 0)
      | some next => rw [Option.bind_eq_bind, Option.bind_some, ih, checked.exact start x next first]

end Checked

theorem Width.add32_checked : Checked Int32.toInt add32? int32Min int32Max where
  range a := ⟨a.minValue_le_toInt, a.toInt_le⟩
  exact a b c added := by
    unfold add32? at added
    split at added
    · rename_i within
      cases added
      rw [Int32.toInt_add, Int.bmod_eq_iff (by decide)]
      simp only [int32Min, int32Max] at within
      omega
    · cases added
  stops a b := by
    unfold add32?
    split <;> simp_all

theorem Width.add_unsigned64_checked : Checked (fun a : UInt64 => (a.toNat : Int)) addUnsigned64? 0 uint64Max where
  range a := ⟨Int.natCast_nonneg _, by have := a.toNat_lt; simp only [uint64Max]; omega⟩
  exact a b c added := by
    unfold addUnsigned64? at added
    split at added
    · rename_i within
      cases added
      simp only [uint64Max] at within
      rw [UInt64.toNat_add, Nat.mod_eq_of_lt (by omega), Nat.cast_add]
    · cases added
  stops a b := by
    have same : (0 ≤ (a.toNat : Int) + b.toNat ∧ (a.toNat : Int) + b.toNat ≤ uint64Max) ↔
        a.toNat + b.toNat ≤ uint64Max := by omega
    rw [same, addUnsigned64?]
    split <;> simp_all

namespace Pod

def restartSum (p : Pod) : Int := ((p.status.containers ++ p.sidecars).map fun s => s.restarts.toInt).sum

def CountsAddUp (p : Pod) : Prop :=
  AddsWithin Width.int32Min Width.int32Max 0 (p.status.containers.map fun s => s.restarts.toInt) ∧
    AddsWithin Width.int32Min Width.int32Max 0 (p.sidecars.map fun s => s.restarts.toInt)

def RestartsAddUp (p : Pod) : Prop :=
  p.CountsAddUp ∧ Width.int32Min ≤ p.restartSum ∧ p.restartSum ≤ Width.int32Max

theorem sum_restarts_map (statuses : List ContainerStatus) :
    sumRestarts? statuses = (statuses.map (·.restarts)).foldlM Width.add32? 0 :=
  List.foldlM_map.symm

theorem sum_restarts_exact (statuses : List ContainerStatus) (sum : Int32) (given : sumRestarts? statuses = some sum) :
    sum.toInt = (statuses.map fun s => s.restarts.toInt).sum := by
  rw [sum_restarts_map] at given
  simpa [Function.comp_def] using Width.add32_checked.sum_exact _ _ _ given

theorem sum_restarts_completes_iff (statuses : List ContainerStatus) :
    sumRestarts? statuses ≠ none ↔
      AddsWithin Width.int32Min Width.int32Max 0 (statuses.map fun s => s.restarts.toInt) := by
  rw [sum_restarts_map, Width.add32_checked.sum_completes_iff, List.map_map]
  rfl

theorem restarts_exact (p : Pod) (restarts : Int32) (given : p.restarts? = some restarts) :
    restarts.toInt = p.restartSum := by
  obtain ⟨main, first, more⟩ := Option.bind_eq_some_iff.mp given
  obtain ⟨beside, second, added⟩ := Option.bind_eq_some_iff.mp more
  rw [Width.add32_checked.exact main beside restarts added, sum_restarts_exact _ main first,
    sum_restarts_exact _ beside second, restartSum, List.map_append, List.sum_append]

theorem restarts_completes_iff (p : Pod) : p.restarts? ≠ none ↔ p.RestartsAddUp := by
  rw [RestartsAddUp, CountsAddUp, ← sum_restarts_completes_iff, ← sum_restarts_completes_iff]
  unfold restarts?
  cases first : sumRestarts? p.status.containers with
  | none => simp
  | some main =>
      cases second : sumRestarts? p.sidecars with
      | none => simp
      | some beside =>
          have both : p.restartSum = main.toInt + beside.toInt := by
            rw [sum_restarts_exact _ main first, sum_restarts_exact _ beside second, restartSum, List.map_append,
              List.sum_append]
          have added := Width.add32_checked.stops main beside
          simp [both, added]

-- The amounts of one container as they are read, and none where nothing is named or it cannot be read.
def parsedProcessor (quantities : List (String × String)) : Nat :=
  ((quantities.lookup "cpu").bind Quantity.millicores?).getD 0

def parsedMemory (quantities : List (String × String)) : Nat :=
  (((quantities.lookup "memory").bind Quantity.parse?).map fun x =>
    (Binary64.round 0 Width.uint64Max x).toNat).getD 0

theorem processor_parsed (quantities : List (String × String)) :
    (amountsOf quantities).processor.toNat = parsedProcessor quantities := by
  have bounded : parsedProcessor quantities ≤ Width.uint64Max := by
    unfold parsedProcessor
    cases read : (quantities.lookup "cpu").bind Quantity.millicores? with
    | none => exact Nat.zero_le _
    | some n =>
        obtain ⟨text, _, parsed⟩ := Option.bind_eq_some_iff.mp read
        exact Quantity.millicores_at_most text n parsed
  exact UInt64.toNat_ofNat_of_lt' (Nat.lt_succ_of_le bounded)

theorem memory_parsed (quantities : List (String × String)) :
    (amountsOf quantities).memory.toNat = parsedMemory quantities := by
  unfold amountsOf parsedMemory
  cases quantities.lookup "memory" with
  | none => rfl
  | some text =>
      dsimp only [Option.map_some, Option.getD_some, Option.bind_some, bytesOf]
      cases Quantity.parse? text with
      | none => rfl
      | some x =>
          have bounded := Binary64.round_at_most 0 Width.uint64Max x (by decide) (by decide)
          refine UInt64.toNat_ofNat_of_lt' ?_
          simp only [Width.uint64Max, UInt64.size] at bounded ⊢
          omega

def terms (parsed : List (String × String) → Nat) (quantities : Container → List (String × String)) (p : Pod) :
    List Int :=
  p.spec.containers.map fun c => (parsed (quantities c) : Int)

def total? (part : Amounts → UInt64) (quantities : Container → List (String × String)) (p : Pod) : Option UInt64 :=
  (p.spec.containers.map fun c => part (amountsOf (quantities c))).foldlM Width.addUnsigned64? 0

theorem sum_amounts_parts (amounts : List Amounts) (start : Amounts) :
    amounts.foldlM Amounts.add? start = (do
      let processor ← (amounts.map Amounts.processor).foldlM Width.addUnsigned64? start.processor
      let memory ← (amounts.map Amounts.memory).foldlM Width.addUnsigned64? start.memory
      return ⟨processor, memory⟩) := by
  induction amounts generalizing start with
  | nil => rfl
  | cons a rest ih =>
      simp only [List.foldlM_cons, List.map_cons, Amounts.add?]
      cases Width.addUnsigned64? start.processor a.processor with
      | none => rfl
      | some processor =>
          cases Width.addUnsigned64? start.memory a.memory with
          | none => simp
          | some memory => exact ih ⟨processor, memory⟩

theorem sum_totals (quantities : Container → List (String × String)) (p : Pod) :
    sumAmounts? (p.spec.containers.map fun c => amountsOf (quantities c)) = (do
      let processor ← p.total? Amounts.processor quantities
      let memory ← p.total? Amounts.memory quantities
      return ⟨processor, memory⟩) := by
  rw [sumAmounts?, sum_amounts_parts, List.map_map, List.map_map]
  rfl

section

variable (part : Amounts → UInt64) (parsed : List (String × String) → Nat)
  (read : ∀ listed, (part (amountsOf listed)).toNat = parsed listed)
  (quantities : Container → List (String × String)) (p : Pod)

include read

theorem total_terms :
    (p.spec.containers.map fun c => part (amountsOf (quantities c))).map (fun a => (a.toNat : Int)) =
      p.terms parsed quantities := by
  rw [List.map_map]
  exact List.map_congr_left fun c _ => congrArg Int.ofNat (read (quantities c))

theorem total_exact (total : UInt64) (given : p.total? part quantities = some total) :
    (total.toNat : Int) = (p.terms parsed quantities).sum := by
  rw [Width.add_unsigned64_checked.sum_exact _ _ _ given, total_terms part parsed read]
  simp

theorem total_completes_iff :
    p.total? part quantities ≠ none ↔ AddsWithin 0 Width.uint64Max 0 (p.terms parsed quantities) := by
  rw [total?, Width.add_unsigned64_checked.sum_completes_iff, total_terms part parsed read]
  rfl

end

structure AddsUp (p : Pod) : Prop where
  restarts : p.RestartsAddUp
  requestedProcessor : AddsWithin 0 Width.uint64Max 0 (p.terms parsedProcessor Container.requests)
  requestedMemory : AddsWithin 0 Width.uint64Max 0 (p.terms parsedMemory Container.requests)
  limitedProcessor : AddsWithin 0 Width.uint64Max 0 (p.terms parsedProcessor Container.limits)
  limitedMemory : AddsWithin 0 Width.uint64Max 0 (p.terms parsedMemory Container.limits)

theorem totals_complete_iff (quantities : Container → List (String × String)) (p : Pod) :
    sumAmounts? (p.spec.containers.map fun c => amountsOf (quantities c)) ≠ none ↔
      AddsWithin 0 Width.uint64Max 0 (p.terms parsedProcessor quantities) ∧
        AddsWithin 0 Width.uint64Max 0 (p.terms parsedMemory quantities) := by
  rw [← total_completes_iff Amounts.processor parsedProcessor processor_parsed,
    ← total_completes_iff Amounts.memory parsedMemory memory_parsed, sum_totals]
  cases p.total? Amounts.processor quantities <;> cases p.total? Amounts.memory quantities <;> simp

theorem totals_exact (quantities : Container → List (String × String)) (p : Pod) (total : Amounts)
    (given : sumAmounts? (p.spec.containers.map fun c => amountsOf (quantities c)) = some total) :
    (total.processor.toNat : Int) = (p.terms parsedProcessor quantities).sum ∧
      (total.memory.toNat : Int) = (p.terms parsedMemory quantities).sum := by
  rw [sum_totals] at given
  obtain ⟨processor, first, more⟩ := Option.bind_eq_some_iff.mp given
  obtain ⟨memory, second, same⟩ := Option.bind_eq_some_iff.mp more
  cases same
  exact ⟨total_exact _ _ processor_parsed quantities p processor first,
    total_exact _ _ memory_parsed quantities p memory second⟩

theorem row_completes_iff (now : Int) (p : Pod) : p.row? now ≠ none ↔ p.AddsUp := by
  have parts : p.row? now ≠ none ↔ p.restarts? ≠ none ∧ p.requested? ≠ none ∧ p.limited? ≠ none := by
    unfold row?
    cases p.restarts? <;> cases p.requested? <;> cases p.limited? <;> simp
  rw [parts, restarts_completes_iff, requested?, limited?, totals_complete_iff Container.requests,
    totals_complete_iff Container.limits]
  exact ⟨fun ⟨restarts, ⟨processor, memory⟩, limitedProcessor, limitedMemory⟩ =>
    ⟨restarts, processor, memory, limitedProcessor, limitedMemory⟩, fun adds =>
    ⟨adds.restarts, ⟨adds.requestedProcessor, adds.requestedMemory⟩, adds.limitedProcessor, adds.limitedMemory⟩⟩

def cellUnder (name : String) (row : Row) : Option String :=
  (header.indexOf? name true).bind (row.fields[·]?)

theorem render_accepted (now : Int) (ns : String) (object : Json) (p : Pod) (accepted : read object = .ok p) :
    renderer.render now ns object = (p.row? now).map .ok := by
  change Renderer.rendering read (row? now) object = _
  rw [Renderer.rendering, accepted]

/-- A pod has a row exactly when no addition for it leaves its range: of restarts the 32 bits, of amounts the 64 bits.
Else the program stops. In the row stand the exact sum of the restarts of all containers that count, and of the requests
and limits the exact sums of the amounts as they are read. -/
theorem pod_totals_exact_iff (now : Int) (ns : String) (object : Json) (p : Pod) (accepted : read object = .ok p) :
    (renderer.render now ns object ≠ none ↔ p.AddsUp) ∧
      (p.AddsUp → ∃ (row : Row) (requested limited : Amounts), renderer.render now ns object = some (.ok row) ∧
        cellUnder "RESTARTS" row = some (toString p.restartSum) ∧
        cellUnder "CPU/RL" row = some (showProcessor requested.processor ++ ":" ++ showProcessor limited.processor) ∧
        cellUnder "MEM/RL" row = some (showMemory requested.memory ++ ":" ++ showMemory limited.memory) ∧
        (requested.processor.toNat : Int) = (p.terms parsedProcessor Container.requests).sum ∧
        (limited.processor.toNat : Int) = (p.terms parsedProcessor Container.limits).sum ∧
        (requested.memory.toNat : Int) = (p.terms parsedMemory Container.requests).sum ∧
        (limited.memory.toNat : Int) = (p.terms parsedMemory Container.limits).sum) := by
  have rendered := render_accepted now ns object p accepted
  refine ⟨by rw [rendered, ← p.row_completes_iff now, Ne, Ne, Option.map_eq_none_iff], fun adds => ?_⟩
  obtain ⟨row, given⟩ := Option.ne_none_iff_exists'.mp ((p.row_completes_iff now).mpr adds)
  rw [rendered, given]
  obtain ⟨restarts, summed, more⟩ := Option.bind_eq_some_iff.mp given
  obtain ⟨requested, first, further⟩ := Option.bind_eq_some_iff.mp more
  obtain ⟨limited, second, same⟩ := Option.bind_eq_some_iff.mp further
  obtain ⟨requestedProcessor, requestedMemory⟩ := p.totals_exact Container.requests requested first
  obtain ⟨limitedProcessor, limitedMemory⟩ := p.totals_exact Container.limits limited second
  have shown : toString restarts = toString p.restartSum := congrArg Int.repr (p.restarts_exact restarts summed)
  cases same
  exact ⟨_, requested, limited, rfl, congrArg some shown, rfl, rfl, requestedProcessor, limitedProcessor,
    requestedMemory, limitedMemory⟩

def restarted (name : String) (count : Int) : Json :=
  .object [("name", .string name), ("ready", .bool true), ("restartCount", .number (.int count))]

def podWith (spec status : List (String × Json)) : Json :=
  .object [("kind", .string "Pod"), ("metadata", .object [("name", .string "a")]), ("spec", .object spec),
    ("status", .object status)]

def containerAsking (name cpu memory : String) : Json :=
  .object [("name", .string name),
    ("resources", .object [("requests", .object [("cpu", .string cpu), ("memory", .string memory)])])]

def busyPod : Json :=
  podWith
    [("containers", .array [containerAsking "web" "1500m" "64Mi", containerAsking "log" "0.5" "1Gi"]),
      ("initContainers", .array [.object [("name", .string "mesh"), ("restartPolicy", .string "Always")]])]
    [("containerStatuses", .array [restarted "web" 3, restarted "log" 0]),
      ("initContainerStatuses", .array [restarted "mesh" 2])]

def busy : Pod := (read busyPod).toOption.getD (default : Pod)

theorem busy_pod_totals :
    read busyPod = .ok busy ∧
      ∃ (row : Row) (requested : Amounts), renderer.render 0 "" busyPod = some (.ok row) ∧
        cellUnder "RESTARTS" row = some "5" ∧ (requested.processor.toNat : Int) = 1500 + 500 ∧
        (requested.memory.toNat : Int) = 67108864 + 1073741824 := by
  have accepted : read busyPod = .ok busy := rfl
  obtain ⟨completes, exact⟩ := pod_totals_exact_iff 0 "" busyPod busy accepted
  obtain ⟨row, requested, _, rendered, restarts, _, _, processor, _, memory, _⟩ :=
    exact (completes.mp (by decide +kernel))
  have sum : toString busy.restartSum = "5" := by decide +kernel
  have cores : busy.terms parsedProcessor Container.requests = [1500, 500] := by decide +kernel
  have bytes : busy.terms parsedMemory Container.requests = [67108864, 1073741824] := by decide +kernel
  exact ⟨accepted, row, requested, rendered, sum ▸ restarts, by rw [processor, cores]; rfl, by rw [memory, bytes]; rfl⟩

def restlessPod : Json :=
  podWith [("containers", .array [.object [("name", .string "web")], .object [("name", .string "log")]])]
    [("containerStatuses", .array [restarted "web" 2147483647, restarted "log" 1])]

def restless : Pod := (read restlessPod).toOption.getD (default : Pod)

theorem restarts_run_over :
    read restlessPod = .ok restless ∧ restless.restartSum = 2147483648 ∧
      renderer.render 0 "" restlessPod = none := by
  exact ⟨rfl, by decide +kernel, by decide +kernel⟩

end Pod

end LiveTable
