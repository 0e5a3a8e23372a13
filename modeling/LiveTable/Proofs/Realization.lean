import LiveTable.Proofs.Declaration
import LiveTable.Proofs.Layout
import LiveTable.Proofs.Projection

namespace LiveTable

theorem chosen_beside {α β : Type} (xs : List α) (ys : List β) (p : α → Bool) (other : β)
    (sized : ys.length = xs.length) :
    (((List.range xs.length).filter fun i => xs[i]?.any p).map fun i => ys[i]?.getD other) =
      ((xs.zip ys).filter fun (x, _) => p x).map Prod.snd := by
  have paired : (List.range xs.length).map (fun i => (xs[i]?, ys[i]?)) =
      (xs.zip ys).map fun (x, y) => (some x, some y) := by
    refine List.ext_getElem (by simp [sized]) fun i _ inside => ?_
    simp only [List.length_map, List.length_zip, Nat.lt_min] at inside
    simp [inside.1, inside.2]
  calc (((List.range xs.length).filter fun i => xs[i]?.any p).map fun i => ys[i]?.getD other)
      = (((List.range xs.length).map fun i => (xs[i]?, ys[i]?)).filter fun (x, _) => x.any p).map
          fun (_, y) => y.getD other := by
          rw [List.filter_map, List.map_map]
          rfl
    _ = (((xs.zip ys).map fun (x, y) => (some x, some y)).filter fun (x, _) => x.any p).map
          fun (_, y) => y.getD other := by rw [paired]
    _ = ((xs.zip ys).filter fun (x, _) => p x).map Prod.snd := by
          rw [List.filter_map, List.map_map]
          rfl

namespace ColumnSpec

section

variable (spec : ColumnSpec) (now : Int) (object : Json) (builtin : Header) (row : Row)

def Unanswered : Prop :=
  ∀ q text, spec.query = some q → q.render now object spec.column ≠ .ok text

-- What a declared column has to show: what its query finds, else what stands under the built-in column of its
-- name, else that there is nothing.
inductive Shows : String → Prop where
  | found (q : Query) (text : String) (queried : spec.query = some q)
      (answered : q.render now object spec.column = .ok text) : Shows text
  | builtin (place : Nat) (c : Column) (text : String) (unanswered : spec.Unanswered now object)
      (there : builtin[place]? = some c) (named : c.name = spec.name)
      (read : row.fields[place]? = some text) : Shows text
  | missing (unanswered : spec.Unanswered now object) (absent : ∀ c ∈ builtin, c.name ≠ spec.name) :
      Shows Cell.notApplicable

theorem shows_one (distinct : builtin.Distinct) (a b : String) (first : spec.Shows now object builtin row a)
    (second : spec.Shows now object builtin row b) : a = b := by
  cases first with
  | found q a queried answered =>
      cases second with
      | found r b again answers =>
          rw [queried, Option.some.injEq] at again
          subst again
          exact Except.ok.inj (answered.symm.trans answers)
      | builtin _ _ _ unanswered | missing unanswered => exact absurd answered (unanswered q a queried)
  | builtin i c a unanswered there named read =>
      cases second with
      | found q b queried answered => exact absurd answered (unanswered q b queried)
      | builtin j d b _ found same found' =>
          have place : i = j := Header.Distinct.one_place builtin distinct c d i j there found (named.trans same.symm)
          subst place
          exact Option.some.inj (read.symm.trans found')
      | missing _ absent => exact absurd named (absent c (List.mem_of_getElem? there))
  | missing unanswered absent =>
      cases second with
      | found q b queried answered => exact absurd answered (unanswered q b queried)
      | builtin j d b _ found same => exact absurd same (absent d (List.mem_of_getElem? found))
      | missing => rfl

theorem fallback_shows (unanswered : spec.Unanswered now object) (fits : row.fields.length = builtin.length) :
    spec.Shows now object builtin row
      ((ColumnSpecs.builtinField? builtin row spec.name).getD Cell.notApplicable) := by
  unfold ColumnSpecs.builtinField?
  cases found : builtin.indexOf? spec.name true with
  | none =>
      refine .missing unanswered fun c member named => ?_
      simpa [named] using List.findIdx?_eq_none_iff.mp found c member
  | some place =>
      obtain ⟨c, there, named⟩ := builtin.index_of_some spec.name place found
      have inside : place < row.fields.length := by
        rw [fits]
        exact (List.getElem?_eq_some_iff.mp there).1
      have read : row.fields[place]? = some row.fields[place] := List.getElem?_eq_getElem inside
      rw [Option.bind_some, read]
      exact .builtin place c _ unanswered there named read

theorem cell_shows (fits : row.fields.length = builtin.length) :
    spec.Shows now object builtin row (ColumnSpecs.cell now object builtin row spec) := by
  unfold ColumnSpecs.cell
  cases queried : spec.query with
  | none =>
      refine fallback_shows spec now object builtin row (fun q text asked => ?_) fits
      rw [queried] at asked
      cases asked
  | some q =>
      cases answered : q.render now object spec.column with
      | ok text =>
          simp only [answered]
          exact .found q text queried answered
      | error fault =>
          simp only [answered]
          refine fallback_shows spec now object builtin row (fun r text asked => ?_) fits
          rw [queried, Option.some.injEq] at asked
          subst asked
          simp [answered]

end

end ColumnSpec

namespace ColumnSpecs

theorem realize_fields (now : Int) (specs : ColumnSpecs) (object : Json) (builtin : Header) (row : Row)
    (fits : row.fields.length = builtin.length) :
    (specs.realize now object builtin row).fields = specs.map (cell now object builtin row) ++
      ((builtin.zip row.fields).filter fun (c, _) => !specs.declares c).map Prod.snd := by
  rw [realize, ← chosen_beside builtin row.fields (fun c => !specs.declares c) Cell.notApplicable fits]

theorem others_beside (specs : ColumnSpecs) (builtin : Header) (row : Row) (fits : row.fields.length = builtin.length) :
    specs.others builtin = ((builtin.zip row.fields).filter fun (c, _) => !specs.declares c).map Prod.fst := by
  have whole : (builtin.zip row.fields).map Prod.fst = builtin := List.map_fst_zip (by omega)
  rw [others]
  conv_lhs => rw [← whole]
  rw [List.filter_map]
  rfl

theorem declared_column (specs : ColumnSpecs) (builtin : Header) (declared : (specs.map (·.name)).Nodup)
    (j : Nat) (spec : ColumnSpec) (listed : specs[j]? = some spec) :
    (specs.header builtin)[j]? = some (spec.column.taking builtin) := by
  have inside : j < specs.length := (List.getElem?_eq_some_iff.mp listed).1
  rw [header_columns specs builtin declared, List.getElem?_append_left (by simpa using inside), List.getElem?_map,
    listed]
  rfl

theorem declared_cell (now : Int) (specs : ColumnSpecs) (object : Json) (builtin : Header) (row : Row) (j : Nat)
    (spec : ColumnSpec) (listed : specs[j]? = some spec) :
    (specs.realize now object builtin row).fields[j]? = some (cell now object builtin row spec) := by
  have inside : j < specs.length := (List.getElem?_eq_some_iff.mp listed).1
  rw [realize, List.getElem?_append_left (by simpa using inside), List.getElem?_map, listed]
  rfl

-- Both parts of a row are as long as those of the header, so the rest of the one stands under the rest of the other.
theorem rest_under_rest (now : Int) (specs : ColumnSpecs) (object : Json) (builtin : Header) (row : Row)
    (declared : (specs.map (·.name)).Nodup) (fits : row.fields.length = builtin.length) :
    ((specs.header builtin).zip (specs.realize now object builtin row).fields).drop specs.length =
      ((builtin.zip row.fields).filter fun (c, _) => !specs.declares c).map fun (c, text) => (c.widened, text) := by
  rw [header_columns specs builtin declared, realize_fields now specs object builtin row fits,
    others_beside specs builtin row fits, List.zip_append (by simp), List.drop_left' (by simp), List.map_map,
    List.zip_map']
  rfl

/-- Under declared columns a row has a cell for every column of the header, and every built-in name stands there
once. The column of each declaration is its own, merged with the built-in one of its name, and stands over what the
declaration shows. Behind them come the built-in columns that are not declared, as wide ones, in their order and
over their own cells. -/
theorem columns_over_cells (now : Int) (specs : ColumnSpecs) (columns : List String) (object : Json)
    (builtin : Header) (row : Row) (parsed : parse columns = .ok specs) (distinct : builtin.Distinct)
    (fits : row.fields.length = builtin.length) :
    (specs.realize now object builtin row).fields.length = (specs.header builtin).length ∧
      (∀ c ∈ builtin, ((specs.header builtin).map (·.name)).count c.name = 1) ∧
      (∀ (j : Nat) (spec : ColumnSpec), specs[j]? = some spec →
        (∀ c ∈ builtin, c.name = spec.name → (specs.header builtin)[j]? = some (spec.column.merge c)) ∧
        ((∀ c ∈ builtin, c.name ≠ spec.name) → (specs.header builtin)[j]? = some spec.column) ∧
        ∀ text, (specs.realize now object builtin row).fields[j]? = some text ↔
          spec.Shows now object builtin row text) ∧
      ((specs.header builtin).zip (specs.realize now object builtin row).fields).drop specs.length =
        ((builtin.zip row.fields).filter fun (c, _) => !specs.declares c).map
          fun (c, text) => (c.widened, text) := by
  have declared := parse_distinct specs columns parsed
  refine ⟨realize_length now specs object builtin row, fun c member => ?_, fun j spec listed => ⟨?_, ?_, ?_⟩,
    rest_under_rest now specs object builtin row declared fits⟩
  · apply List.count_eq_one_of_mem (header_distinct specs builtin declared distinct)
    rw [header_names specs builtin declared, List.mem_append]
    by_cases listed : specs.declares c = true
    · obtain ⟨spec, inside, named⟩ := List.any_eq_true.mp listed
      exact .inl (List.mem_map.mpr ⟨spec, inside, beq_iff_eq.mp named⟩)
    · exact .inr (List.mem_map.mpr ⟨c, List.mem_filter.mpr ⟨member, by simpa using listed⟩, rfl⟩)
  · intro c member named
    rw [declared_column specs builtin declared j spec listed,
      spec.column.taking_present c builtin distinct member named]
  · intro absent
    rw [declared_column specs builtin declared j spec listed, spec.column.taking_absent builtin absent]
  · intro text
    have shown := spec.cell_shows now object builtin row fits
    rw [declared_cell now specs object builtin row j spec listed, Option.some.injEq]
    constructor
    · rintro rfl
      exact shown
    · exact spec.shows_one now object builtin row distinct _ text shown

def podColumns : List String := ["ZONE", "NAME:(.metadata.name + 1)", "IP:.status.podIP|R", "AGE"]

def podSpecs : ColumnSpecs := (parse podColumns).toOption.getD []

def podHeader : Header := [Column.named namespaceName, Column.named nameName, { name := ageName, time := true }]

def namedPod : Json := .object [("metadata", .object [("name", .string "db")])]

def namedPodRow : Row := ⟨"ns1/db", ["ns1", "db", "5m"]⟩

theorem pod_columns_over_cells :
    (podSpecs.realize 0 namedPod podHeader namedPodRow).fields = ["n/a", "db", "<none>", "5m", "ns1"] ∧
      ((podSpecs.header podHeader).map (·.name)).count nameName = 1 ∧
      (∃ spec, podSpecs[1]? = some spec ∧ spec.Shows 0 namedPod podHeader namedPodRow "db") ∧
      (((podSpecs.header podHeader).zip (podSpecs.realize 0 namedPod podHeader namedPodRow).fields).drop 4).map
        (fun (c, text) => (c.name, c.wide, text)) = [("NAMESPACE", true, "ns1")] := by
  have fields : (podSpecs.realize 0 namedPod podHeader namedPodRow).fields = ["n/a", "db", "<none>", "5m", "ns1"] := by
    decide +kernel
  have agree := columns_over_cells 0 podSpecs podColumns namedPod podHeader namedPodRow
    (parse_accepted podColumns (by decide +kernel)) (by unfold Header.Distinct; decide) rfl
  obtain ⟨_, once, shown, rest⟩ := agree
  have four : podSpecs.length = 4 := by decide +kernel
  have second : podSpecs[1]? = some podSpecs[1] := List.getElem?_eq_getElem (by omega)
  refine ⟨fields, once (Column.named nameName) (by simp [podHeader]), ⟨_, second, ?_⟩, ?_⟩
  · exact ((shown 1 _ second).2.2 "db").mp (by rw [fields]; rfl)
  · rw [← four, rest]
    decide +kernel

end ColumnSpecs

end LiveTable
