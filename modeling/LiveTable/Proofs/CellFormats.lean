import LiveTable.Proofs.CellCharacters
import LiveTable.Proofs.Realization

namespace LiveTable

namespace Query

def plainText : Json → String
  | .null => Cell.missing
  | value => (value.string?).getD value.render

theorem format_flags (now : Int) (c d : Column) (value : Json) (time : c.time = d.time)
    (capacity : c.capacity = d.capacity) : formatValue now c value = formatValue now d value := by
  cases value <;> simp only [formatValue, time, capacity]

theorem format_cases (now : Int) (c : Column) (value : Json) :
    formatValue now c value = plainText value ∨
      ',' ∉ (formatValue now c value).toList ∧ ',' ∉ (plainText value).toList := by
  cases value with
  | null => exact .inl rfl
  | _ =>
      simp only [formatValue, plainText]
      generalize (Json.string? _).getD (Json.render _) = raw
      cases amount : if c.capacity then Quantity.parse? raw else none with
      | some x =>
          right
          refine ⟨Quantity.show_bytes_no_comma _, Quantity.parse_comma raw x ?_⟩
          exact (Option.ite_none_right_eq_some.mp amount).2
      | none =>
          cases age : if c.time then Cell.ageOf? now raw else none with
          | none => exact .inl rfl
          | some text =>
              have free := Cell.age_of_comma now raw text (Option.ite_none_right_eq_some.mp age).2
              exact .inr ⟨free.2, free.1⟩

theorem formats_apart (now : Int) (c d : Column) (value : Json)
    (apart : formatValue now c value ≠ formatValue now d value) :
    ',' ∉ (formatValue now c value).toList ∧ ',' ∉ (formatValue now d value).toList := by
  rcases format_cases now c value with plain | ⟨first, raw⟩
  · rcases format_cases now d value with same | ⟨second, raw⟩
    · exact absurd (plain.trans same.symm) apart
    · rw [plain]
      exact ⟨raw, second⟩
  · rcases format_cases now d value with plain | ⟨second, _⟩
    · rw [plain]
      exact ⟨first, raw⟩
    · exact ⟨first, second⟩

theorem split_at_comma (s t first second : List Char) (sFree : ',' ∉ s) (tFree : ',' ∉ t)
    (same : s ++ ',' :: first = t ++ ',' :: second) : s = t ∧ first = second := by
  induction s generalizing t with
  | nil =>
      cases t with
      | nil => simpa using same
      | cons d t =>
          rw [List.nil_append, List.cons_append, List.cons.injEq] at same
          exact absurd (same.1 ▸ List.mem_cons_self) tFree
  | cons c s ih =>
      cases t with
      | nil =>
          rw [List.nil_append, List.cons_append, List.cons.injEq] at same
          exact absurd (same.1 ▸ List.mem_cons_self) sFree
      | cons d t =>
          rw [List.cons_append, List.cons_append, List.cons.injEq] at same
          obtain ⟨rfl, rest⟩ := same
          obtain ⟨rfl, tails⟩ := ih t (fun c => sFree (.tail _ c)) (fun c => tFree (.tail _ c)) rest
          exact ⟨rfl, tails⟩

theorem joined_cons (now : Int) (c d : Column) (value : Json) (s t : String) :
    formatValue now c value ++ "," ++ s = formatValue now d value ++ "," ++ t ↔
      formatValue now c value = formatValue now d value ∧ s = t := by
  constructor
  · intro same
    by_cases alike : formatValue now c value = formatValue now d value
    · rw [alike, String.append_right_inj] at same
      exact ⟨alike, same⟩
    · obtain ⟨first, second⟩ := formats_apart now c d value alike
      have texts : (formatValue now c value).toList ++ ',' :: s.toList =
          (formatValue now d value).toList ++ ',' :: t.toList := by
        simpa using congrArg String.toList same
      obtain ⟨values, rests⟩ := split_at_comma _ _ _ _ first second texts
      exact ⟨String.toList_inj.mp values, String.toList_inj.mp rests⟩
  · rintro ⟨values, rests⟩
    rw [values, rests]

theorem joined_same (now : Int) (c d : Column) (values : List Json) :
    ",".intercalate (values.map (formatValue now c)) = ",".intercalate (values.map (formatValue now d)) ↔
      ∀ value ∈ values, formatValue now c value = formatValue now d value := by
  induction values with
  | nil => simp
  | cons value rest ih =>
      cases rest with
      | nil => simp
      | cons next rest =>
          rw [List.forall_mem_cons, ← ih, List.map_cons, List.map_cons, List.map_cons, List.map_cons,
            String.intercalate_cons_cons, String.intercalate_cons_cons, joined_cons]

theorem render_same (now : Int) (q : Query) (object : Json) (values : List Json) (c d : Column)
    (evaluated : q.evaluate object = .ok values) :
    q.render now object c = q.render now object d ↔
      ∀ value ∈ values, formatValue now c value = formatValue now d value := by
  have nulls : (∀ value ∈ values.filter fun v => !(q.isFilter && v.isNull),
      formatValue now c value = formatValue now d value) ↔
        ∀ value ∈ values, formatValue now c value = formatValue now d value := by
    refine ⟨fun shown value member => ?_, fun all value member => all value (List.mem_filter.mp member).1⟩
    cases value with
    | null => rfl
    | _ => exact shown _ (List.mem_filter.mpr ⟨member, by simp [Json.isNull]⟩)
  rw [render, render, evaluated, Except.map, Except.map, Except.ok.injEq, formatAll, formatAll, ← nulls]
  generalize values.filter (fun v => !(q.isFilter && v.isNull)) = shown
  cases shown with
  | nil => simp
  | cons value rest => exact joined_same now c d (value :: rest)

end Query

namespace ColumnSpecs

theorem answered_cell (now : Int) (object : Json) (builtin : Header) (row : Row) (spec : ColumnSpec) (q : Query)
    (text : String) (queried : spec.query = some q) (answered : q.render now object spec.column = .ok text) :
    cell now object builtin row spec = text := by
  simp only [cell, queried, answered]

/-- A cell that a query fills is written by the flags of its declaration, while the column shown over it has those
of the built-in columns of its name as well. The cell is what the query gives in the column shown exactly when each
value found has one text in both, so always where the built-in columns add neither times nor capacities. -/
theorem cells_written_as_shown (now : Int) (specs : ColumnSpecs) (columns : List String) (object : Json)
    (builtin : Header) (row : Row) (j : Nat) (spec : ColumnSpec) (q : Query) (values : List Json)
    (parsed : parse columns = .ok specs) (listed : specs[j]? = some spec) (queried : spec.query = some q)
    (evaluated : q.evaluate object = .ok values) :
    ∃ shown text, (specs.header builtin)[j]? = some shown ∧
      shown.time = (spec.column.time || builtin.any fun c => c.name == spec.name && c.time) ∧
      shown.capacity = (spec.column.capacity || builtin.any fun c => c.name == spec.name && c.capacity) ∧
      (specs.realize now object builtin row).fields[j]? = some text ∧
      q.render now object spec.column = .ok text ∧
      (q.render now object shown = .ok text ↔
        ∀ value ∈ values, Query.formatValue now shown value = Query.formatValue now spec.column value) ∧
      ((∀ c ∈ builtin, c.name = spec.name →
          (c.time = true → spec.column.time = true) ∧ (c.capacity = true → spec.column.capacity = true)) →
        q.render now object shown = .ok text) := by
  have shown := declared_column specs builtin (parse_distinct specs columns parsed) j spec listed
  have time := spec.column.taking_time builtin
  have capacity := spec.column.taking_capacity builtin
  generalize spec.column.taking builtin = c at shown time capacity
  have answered : q.render now object spec.column = .ok (q.formatAll now spec.column values) := by
    rw [Query.render, evaluated]
    rfl
  have same : q.render now object c = .ok _ ↔ _ :=
    answered ▸ Query.render_same now q object values c spec.column evaluated
  refine ⟨c, q.formatAll now spec.column values, shown, time, capacity, ?_, answered, same, fun unflagged => ?_⟩
  · rw [declared_cell now specs object builtin row j spec listed,
      answered_cell now object builtin row spec q _ queried answered]
  · have noTime := Column.unadded_mark (·.time) spec.column.time spec.column.name builtin
      fun d member named => (unflagged d member named).1
    have noCapacity := Column.unadded_mark (·.capacity) spec.column.capacity spec.column.name builtin
      fun d member named => (unflagged d member named).2
    exact same.mpr fun value _ => Query.format_flags now c spec.column value (time.trans noTime)
      (capacity.trans noCapacity)

def createdPod : Json :=
  .object [("metadata", .object [("creationTimestamp", .string "2024-06-01T11:00:00Z")])]

def creation : Query := .path ⟨[.child "metadata", .child "creationTimestamp"]⟩

def agedHeader : Header := [Column.named nameName, { name := ageName, time := true }]

def agedRow : Row := ⟨"a", ["a", "60m"]⟩

def noon : Int := 1717243200

def flaggedAge : ColumnSpec := ⟨{ name := ageName, time := true }, ".metadata.creationTimestamp", some creation⟩

theorem flagged_age_written :
    flaggedAge.query = some creation ∧
      ∃ shown, (header [flaggedAge] agedHeader)[0]? = some shown ∧ shown.time = true ∧
        (realize noon [flaggedAge] createdPod agedHeader agedRow).fields[0]? = some "60m" ∧
        creation.render noon createdPod shown = .ok "60m" := by
  have parsed : parse ["AGE:.metadata.creationTimestamp|T"] = .ok [flaggedAge] := rfl
  have written := cells_written_as_shown noon [flaggedAge] _ createdPod agedHeader agedRow 0 flaggedAge creation
    [.string "2024-06-01T11:00:00Z"] parsed rfl rfl rfl
  obtain ⟨shown, text, published, time, _, cell, _, _, unadded⟩ := written
  have own : (realize noon [flaggedAge] createdPod agedHeader agedRow).fields[0]? = some "60m" := by decide +kernel
  rw [own, Option.some.injEq] at cell
  subst cell
  exact ⟨rfl, shown, published, time, own, unadded (by simp [agedHeader, flaggedAge, Column.named])⟩

def plainAge : ColumnSpec := ⟨{ name := ageName }, ".metadata.creationTimestamp", some creation⟩

theorem inherited_age_unwritten :
    parse ["AGE:.metadata.creationTimestamp"] = .ok [plainAge] ∧
      ∃ shown, (header [plainAge] agedHeader)[0]? = some shown ∧ shown.time = true ∧
        (realize noon [plainAge] createdPod agedHeader agedRow).fields[0]? = some "2024-06-01T11:00:00Z" ∧
        (creation.render noon createdPod shown).toOption = some "60m" :=
  ⟨rfl, _, rfl, rfl, by decide +kernel, by decide +kernel⟩

end ColumnSpecs

end LiveTable
