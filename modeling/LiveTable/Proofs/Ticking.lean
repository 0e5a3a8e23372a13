import LiveTable.Proofs.Notification
import LiveTable.Proofs.Provenance
import LiveTable.Proofs.Settling
import LiveTable.Resource.ClusterEvent

namespace LiveTable

theorem fields_alike (left right : List String) (skip : Option Nat) :
    fieldsDiffer left right skip = false ↔
      left.length = right.length ∧ ∀ i, some i ≠ skip → left[i]? = right[i]? := by
  simp only [fieldsDiffer, Bool.or_eq_false_iff, bne_eq_false_iff_eq, List.any_eq_false, List.mem_range,
    Bool.and_eq_true, bne_iff_ne, ne_eq, not_and, not_not]
  refine and_congr_right fun size => ⟨fun alike i counted => ?_, fun alike i _ counted => alike i counted⟩
  by_cases inside : i < left.length
  · exact alike i inside counted
  · have beyond := Nat.le_of_not_lt inside
    rw [List.getElem?_eq_none beyond, List.getElem?_eq_none (size ▸ beyond)]

theorem fields_alike_self (cells : List String) (skip : Option Nat) : fieldsDiffer cells cells skip = false :=
  (fields_alike cells cells skip).mpr ⟨rfl, fun _ _ => rfl⟩

theorem map_eq_keyed {α β : Type} (key : α → String) (f : α → β) (as bs : List α)
    (aligned : as.map key = bs.map key) (distinct : (bs.map key).Nodup) :
    as.map f = bs.map f ↔ ∀ a ∈ as, ∀ b ∈ bs, key a = key b → f a = f b := by
  induction as generalizing bs with
  | nil =>
      rw [List.map_nil, eq_comm, List.map_eq_nil_iff] at aligned
      simp [aligned]
  | cons a as ih =>
      cases bs with
      | nil => simp at aligned
      | cons b bs =>
          simp only [List.map_cons, List.cons.injEq, List.nodup_cons] at aligned distinct ⊢
          obtain ⟨head, tail⟩ := aligned
          obtain ⟨fresh, distinct⟩ := distinct
          rw [ih bs tail distinct]
          constructor
          · rintro ⟨first, rest⟩ x inLeft y inRight same
            rcases List.mem_cons.mp inLeft with rfl | inLeft
            · rcases List.mem_cons.mp inRight with rfl | inRight
              · exact first
              · exact absurd (head ▸ same ▸ List.mem_map_of_mem inRight) fresh
            · rcases List.mem_cons.mp inRight with rfl | inRight
              · exact absurd (same ▸ tail ▸ List.mem_map_of_mem inLeft) fresh
              · exact rest x inLeft y inRight same
          · intro alike
            refine ⟨alike a (by simp) b (by simp) head, fun x inLeft y inRight => ?_⟩
            exact alike x (List.mem_cons_of_mem a inLeft) y (List.mem_cons_of_mem b inRight)

theorem RowEvent.plain_differs (change : Change) (row other : Row) (age : Option Nat) :
    (plain change row).differs (plain change other) age = row.differs other age := by
  by_cases size : row.fields.length = other.fields.length
  · have blank : (plain change row).delta.differs (plain change other).delta age = false := by
      simp only [plain, Delta.differs, size, fields_alike_self]
    rw [differs, blank]
    simp [plain]
  · simp [differs, Row.differs, fieldsDiffer, size, plain]

namespace Table

theorem differs_keyed (t u : Table) (indexed : t.events.Indexed) (ns : u.ns = t.ns) (header : u.header = t.header)
    (ids : u.events.ids = t.events.ids) :
    u.differs t = false ↔ ∀ e ∈ u.events.toList, ∀ old ∈ t.events.toList, e.id = old.id →
      e.differs old t.header.ageIndex? = false := by
  have alike : t.header.same t.header = true := (Header.same_looks _ _).mpr rfl
  simp only [differs, ns, header, alike, bne_self_eq_false, Bool.not_true, Bool.false_or]
  rw [RowEvents.differs_ageless, map_eq_keyed RowEvent.id _ _ _ ids indexed.distinct]
  simp only [RowEvent.differs_ageless]

def OnlyAged (t : Table) (rows : List Row) : Prop :=
  ∀ old ∈ t.events.toList, ∀ row ∈ rows, old.id = row.id →
    ∀ i, t.header.isTime i = true → t.header.ageIndex? ≠ some i → old.row.fields[i]? = row.fields[i]?

instance (t : Table) (rows : List Row) : Decidable (t.OnlyAged rows) :=
  decidable_of_iff
    (∀ old ∈ t.events.toList, ∀ row ∈ rows, old.id = row.id → ∀ i ∈ List.range t.header.length,
      t.header.isTime i = true → t.header.ageIndex? ≠ some i → old.row.fields[i]? = row.fields[i]?) <| by
    refine forall₂_congr fun old _ => forall₃_congr fun row _ _ => forall_congr' fun i => ?_
    refine ⟨fun inside time => inside (List.mem_range.mpr ?_) time, fun all _ => all⟩
    by_contra beyond
    simp [Header.isTime, List.getElem?_eq_none (Nat.le_of_not_lt beyond)] at time

theorem ticked_row_differs (t : Table) (rows : List Row) (ticked : t.Ticked rows) (old : RowEvent) (row : Row)
    (member : old ∈ t.events.toList) (given : row ∈ rows) (same : old.id = row.id)
    (sized : old.row.fields.length = row.fields.length) :
    row.differs old.row t.header.ageIndex? = false ↔
      ∀ i, t.header.isTime i = true → t.header.ageIndex? ≠ some i → old.row.fields[i]? = row.fields[i]? := by
  have named : (row.id != old.row.id) = false := bne_eq_false_iff_eq.mpr same.symm
  rw [Row.differs, named, Bool.false_or, fields_alike]
  constructor
  · rintro ⟨_, alike⟩ i _ counted
    exact (alike i (Ne.symm counted)).symm
  · intro alike
    refine ⟨sized.symm, fun i counted => ?_⟩
    by_cases time : t.header.isTime i = true
    · exact (alike i time (Ne.symm counted)).symm
    · by_contra other
      exact ticked.kept old member row given same ⟨i, by simpa using time, Ne.symm other⟩

theorem update_differs_ticked (t : Table) (rows : List Row) (indexed : t.events.Indexed)
    (quiet : ∀ e ∈ t.events.toList, e = .plain .unchanged e.row) (ticked : t.Ticked rows)
    (sized : ∀ old ∈ t.events.toList, ∀ row ∈ rows, old.id = row.id → old.row.fields.length = row.fields.length) :
    (t.update rows).differs t = false ↔ t.OnlyAged rows := by
  rw [differs_keyed t (t.update rows) indexed rfl rfl (update_ids_ticked t rows indexed ticked)]
  simp only [mem_update_ticked t rows indexed ticked]
  have compared (old : RowEvent) (member : old ∈ t.events.toList) (row : Row) (given : row ∈ rows)
      (same : old.id = row.id) : (RowEvent.plain .unchanged row).differs old t.header.ageIndex? = false ↔
        ∀ i, t.header.isTime i = true → t.header.ageIndex? ≠ some i → old.row.fields[i]? = row.fields[i]? := by
    rw [quiet old member, RowEvent.plain_differs]
    exact ticked_row_differs t rows ticked old row member given same (sized old member row given same)
  constructor
  · intro alike old member row given same
    exact (compared old member row given same).mp (alike _ ⟨row, given, rfl⟩ old member same.symm)
  · rintro aged _ ⟨row, given, rfl⟩ old member same
    exact (compared old member row given same.symm).mpr (aged old member row given same.symm)

end Table

theorem WatchedView.refresh_silent (v : WatchedView) (now : Int) (t next : Table) (objects : List Json)
    (completed : t.reconcile? now v.renderer v.columns objects = some (next, .ok ())) :
    ∃ told, v.refresh? now t (.objects objects) = some (next, told) ∧ (told = [] ↔ next.differs t = false) := by
  refine ⟨_, Option.bind_eq_some_iff.mpr ⟨_, completed, rfl⟩, ?_⟩
  split <;> simp_all

namespace Table

theorem ticking_differs (t : Table) (rows : List Row) (reachable : t.Reachable)
    (quiet : ∀ e ∈ t.events.toList, e.change = .unchanged) (ticked : t.Ticked rows)
    (sized : ∀ old ∈ t.events.toList, ∀ row ∈ rows, old.id = row.id → old.row.fields.length = row.fields.length) :
    ((t.update rows).differs t = false ↔ t.OnlyAged rows) ∧
      ∀ (v : WatchedView) (now : Int) (objects : List Json),
        t.reconcile? now v.renderer v.columns objects = some (t.update rows, .ok ()) →
          ∃ told, v.refresh? now t (.objects objects) = some (t.update rows, told) ∧
            (told = [] ↔ t.OnlyAged rows) := by
  have indexed := reachable_indexed t reachable
  have plain : ∀ e ∈ t.events.toList, e = .plain .unchanged e.row := fun e member =>
    arrived_unchanged e (reachable_arrived t reachable e member) (quiet e member)
  have differs := update_differs_ticked t rows indexed plain ticked sized
  refine ⟨differs, fun v now objects completed => ?_⟩
  obtain ⟨told, refreshed, silent⟩ := v.refresh_silent now t _ objects completed
  exact ⟨told, refreshed, silent.trans differs⟩

def quietPods : Table :=
  ((({ new "all" with header := agedPods.header } : Table).update [⟨"a", ["a", "1m"]⟩]).update [⟨"a", ["a", "1m"]⟩])

theorem aged_pod_silent :
    (quietPods.update [⟨"a", ["a", "2m"]⟩]).differs quietPods = false ∧
      WatchedView.podView.refresh? 2 quietPods (.objects [.null]) =
        some (quietPods.update [⟨"a", ["a", "2m"]⟩], []) := by
  have aged : quietPods.OnlyAged [⟨"a", ["a", "2m"]⟩] := by decide
  have reachable : quietPods.Reachable :=
    ⟨"all", [.setHeader agedPods.header, .update [⟨"a", ["a", "1m"]⟩], .update [⟨"a", ["a", "1m"]⟩]], rfl⟩
  have silent := ticking_differs quietPods [⟨"a", ["a", "2m"]⟩] reachable (by decide) (by decide) (by decide)
  obtain ⟨told, refreshed, quiet⟩ := silent.2 WatchedView.podView 2 [.null] rfl
  rw [quiet.mpr aged] at refreshed
  exact ⟨silent.1.mpr aged, refreshed⟩

def backOff : Json :=
  .object [("apiVersion", .string "v1"), ("kind", .string "Event"), ("lastTimestamp", .string "2024-06-01T11:59:00Z"),
    ("metadata", .object [("creationTimestamp", .string "2024-06-01T11:00:00Z"), ("name", .string "a")])]

def eventsView : WatchedView := ⟨⟨"", "v1", "Event", "events", true⟩, .all, ClusterEvent.renderer, []⟩

def listEvents (now : Int) : Operation := .reconcile now eventsView.renderer [] [backOff]

def quietEvents? : Option Table := [listEvents 1717243200, listEvents 1717243260].foldlM perform? (new "all")

def eventsLater : List Row := ((eventsView.renderer.hydrate? 1717243320 "all" [backOff]).getD []).map (·.2)

theorem last_seen_differs :
    ∃ t ∈ quietEvents?, t.Reachable ∧ (∀ e ∈ t.events.toList, e.change = .unchanged) ∧ t.Ticked eventsLater ∧
      (∀ old ∈ t.events.toList, ∀ row ∈ eventsLater, old.id = row.id →
        old.row.fields.length = row.fields.length) ∧
      (t.update eventsLater).differs t = true ∧
      (eventsView.refresh? 1717243320 t (.objects [backOff])).map (·.2) = some [.updated "v1/events"] := by
  have quiet : quietEvents?.all (fun t => decide (∀ e ∈ t.events.toList, e.change = .unchanged)) = true := by
    decide +kernel
  have ticked : quietEvents?.all (fun t => decide (t.Ticked eventsLater ∧ (∀ old ∈ t.events.toList,
      ∀ row ∈ eventsLater, old.id = row.id → old.row.fields.length = row.fields.length) ∧
      (t.update eventsLater).differs t = true)) = true := by decide +kernel
  have told : quietEvents?.map (fun t => (eventsView.refresh? 1717243320 t (.objects [backOff])).map (·.2)) =
      some (some [.updated "v1/events"]) := by decide +kernel
  obtain ⟨t, made, given⟩ := Option.map_eq_some_iff.mp told
  rw [made, Option.all_some, decide_eq_true_iff] at quiet ticked
  exact ⟨t, made, ⟨"all", _, made⟩, quiet, ticked.1, ticked.2.1, ticked.2.2, given⟩

end Table

end LiveTable
