import LiveTable.Proofs.AccessText
import LiveTable.Proofs.Piping
import LiveTable.Query.Basic
import Mathlib.Data.List.Basic
import Mathlib.Data.List.Induction

namespace LiveTable

inductive Json.NullFree : Json → Prop
  | bool (b : Bool) : NullFree (.bool b)
  | number (n : Number) : NullFree (.number n)
  | string (s : String) : NullFree (.string s)
  | array {items : List Json} (inside : ∀ v ∈ items, NullFree v) : NullFree (.array items)
  | object {members : List (String × Json)} (inside : ∀ m ∈ members, NullFree m.2) : NullFree (.object members)

theorem Json.NullFree.not_null {v : Json} (free : v.NullFree) : v.isNull = false := by
  cases free <;> rfl

theorem Json.NullFree.member {v w : Json} (free : v.NullFree) {name : String} (found : v.get? name = some w) :
    w.NullFree := by
  cases free with
  | object inside =>
      obtain ⟨m, member, rfl⟩ := Option.map_eq_some_iff.mp found
      exact inside m (List.mem_of_find?_eq_some member)
  | _ => cases found

theorem Json.NullFree.children {v : Json} (free : v.NullFree) :
    ∀ w ∈ Path.Step.children.select v, w.NullFree := by
  cases free with
  | array inside => rwa [Path.Step.select]
  | object inside =>
      rw [Path.Step.select]
      exact List.forall_mem_map.mpr inside
  | _ => simp [Path.Step.select]

theorem Path.select_from_append (before behind : List Path.Step) (values : List Json) :
    Path.selectFrom (before ++ behind) values = Path.selectFrom behind (Path.selectFrom before values) := by
  induction before generalizing values with
  | nil => rw [List.nil_append, Path.selectFrom]
  | cons s more ih => rw [List.cons_append, Path.selectFrom, Path.selectFrom, ih]

theorem Filter.Outcome.each_outputs (run : Json → Outcome) (vs : List Json)
    (finished : (each run vs).fault = none) : (each run vs).outputs = vs.flatMap fun v => (run v).outputs := by
  induction vs with
  | nil => rfl
  | cons v rest ih =>
      obtain ⟨first, others⟩ := List.forall_mem_cons.mp ((each_fault run _).mp finished)
      have remaining := ih ((each_fault run rest).mpr others)
      simp only [each, andThen, first, remaining, List.flatMap_cons]

namespace Access

open LiveTable.Filter LiveTable.Filter.Outcome

-- What a filter makes of one value in a step.
def reach : Access → Json → Outcome
  | key name, v => single (valueAt v (.string name))
  | all, v => .ofExcept (Filter.children v)

theorem run_extend (base : Filter) (a : Access) (input : Json) :
    run (extend base a) input = (run base input).complete (each a.reach) := by
  cases a <;> rw [extend, run] <;> rfl

def nonNull (values : List Json) : List Json := values.filter fun v => !v.isNull

theorem non_null_free {values : List Json} (free : ∀ v ∈ values, v.NullFree) : nonNull values = values :=
  List.filter_eq_self.mpr fun v member => by simp [(free v member).not_null]

theorem non_null_each (values : List Json) (select : Json → List Json) :
    (nonNull values).flatMap select = values.flatMap fun v => if v.isNull then [] else select v := by
  induction values with
  | nil => rfl
  | cons v rest ih =>
      rw [List.flatMap_cons, ← ih, nonNull, List.filter_cons]
      cases v.isNull <;> rfl

-- What a filter passes on from step to step: nulls, and values in which there are none.
def Sparse (v : Json) : Prop := v = .null ∨ v.NullFree

section

variable {v : Json}

theorem reach_null (a : Access) (finished : (a.reach .null).fault = none) : (a.reach .null).outputs = [.null] := by
  cases a with
  | key name => rfl
  | all => cases finished

theorem reach_key (name : String) (free : v.NullFree) (finished : ((key name).reach v).fault = none) :
    ((key name).reach v).outputs = [(v.get? name).getD .null] := by
  cases free with
  | object => rfl
  | _ => cases finished

theorem reach_all (free : v.NullFree) (finished : (all.reach v).fault = none) :
    (all.reach v).outputs = Path.Step.children.select v := by
  cases free with
  | array => rw [Path.Step.select]; rfl
  | object => rw [Path.Step.select]; rfl
  | _ => cases finished

theorem reach_free (a : Access) (free : v.NullFree) (finished : (a.reach v).fault = none) :
    (∀ w ∈ (a.reach v).outputs, Sparse w) ∧ nonNull (a.reach v).outputs = a.step.select v := by
  cases a with
  | key name =>
      have selected : (key name).step.select v = (v.get? name).toList := by rw [step, Path.Step.select]
      rw [reach_key name free finished, selected]
      cases found : v.get? name with
      | none => simp [Sparse, nonNull, Json.isNull]
      | some w =>
          have inside := free.member found
          simp [Sparse, nonNull, inside, inside.not_null]
  | all =>
      rw [reach_all free finished]
      exact ⟨fun w member => .inr (free.children w member), non_null_free free.children⟩

theorem reach_sparse (a : Access) (sparse : Sparse v) (finished : (a.reach v).fault = none) :
    (∀ w ∈ (a.reach v).outputs, Sparse w) ∧
      nonNull (a.reach v).outputs = if v.isNull then [] else a.step.select v := by
  rcases sparse with rfl | free
  · rw [reach_null a finished]
    simp [Sparse, nonNull, Json.isNull]
  · have reached := reach_free a free finished
    rwa [free.not_null]

end

structure Agree (selected outputs : List Json) : Prop where
  same : selected = nonNull outputs
  sparse : ∀ v ∈ outputs, Sparse v

theorem agree_step (a : Access) {selected outputs : List Json} (agree : Agree selected outputs)
    (finished : (each a.reach outputs).fault = none) :
    Agree (selected.flatMap a.step.select) (each a.reach outputs).outputs := by
  have runs := (each_fault a.reach outputs).mp finished
  have reached v (member : v ∈ outputs) := reach_sparse a (agree.sparse v member) (runs v member)
  rw [each_outputs a.reach outputs finished]
  constructor
  · calc selected.flatMap a.step.select
      _ = outputs.flatMap fun v => if v.isNull then [] else a.step.select v := by
          rw [agree.same, non_null_each]
      _ = outputs.flatMap fun v => nonNull (a.reach v).outputs :=
          List.flatMap_congr fun v member => (reached v member).2.symm
      _ = nonNull (outputs.flatMap fun v => (a.reach v).outputs) := List.filter_flatMap.symm
  · intro w member
    obtain ⟨v, member, inside⟩ := List.mem_flatMap.mp member
    exact (reached v member).1 w inside

theorem run_before {base : Filter} {a : Access} {input : Json}
    (finished : (run (extend base a) input).fault = none) :
    (run base input).fault = none ∧
      run (extend base a) input = each a.reach (run base input).outputs := by
  rw [run_extend] at finished ⊢
  cases stopped : (run base input).fault with
  | none => exact ⟨rfl, complete_finished _ _ stopped⟩
  | some fault =>
      rw [complete_stopped _ _ fault stopped] at finished
      cases finished

-- By induction from the last step on: a filter that runs to its end does so before it.
theorem agree_steps (accesses : List Access) {object : Json} (free : object.NullFree)
    (finished : (run (filter accesses) object).fault = none) :
    Agree (Path.selectFrom (accesses.map step) [object]) (run (filter accesses) object).outputs := by
  induction accesses using List.reverseRecOn with
  | nil =>
      refine ⟨?_, fun v member => .inr (List.mem_singleton.mp member ▸ free)⟩
      rw [List.map_nil, Path.selectFrom]
      exact (non_null_free fun v member => List.mem_singleton.mp member ▸ free).symm
  | append_singleton before a ih =>
      have last : filter (before ++ [a]) = extend (filter before) a := List.foldl_append
      rw [last] at finished ⊢
      obtain ⟨earlier, whole⟩ := run_before finished
      rw [whole] at finished ⊢
      rw [List.map_append, Path.select_from_append, List.map_singleton, Path.selectFrom, Path.selectFrom]
      exact agree_step a (ih earlier) finished

theorem evaluated {f : Filter} {object : Json} {values : List Json} (found : f.evaluate object = .ok values) :
    (run f object).fault = none ∧ (run f object).outputs = values := by
  unfold Filter.evaluate toExcept at found
  split at found
  · rename_i finished
    exact ⟨finished, Except.ok.inj found⟩
  · cases found

theorem format_agreed (now : Int) (column : Column) (p : Path) (f : Filter) {selected outputs : List Json}
    (agree : Agree selected outputs) :
    Query.formatAll now column (.filter f) outputs = Query.formatAll now column (.path p) selected := by
  have whole : selected.filter (fun v => !((Query.path p).isFilter && v.isNull)) = selected :=
    List.filter_eq_self.mpr fun _ _ => rfl
  have shown : outputs.filter (fun v => !((Query.filter f).isFilter && v.isNull)) = selected := agree.same.symm
  simp only [Query.formatAll, whole, shown]

/-- Steps, if there are any, are read from both of their texts, as a path and as a filter. Wherever the filter
finds its values without a fault, in an object without nulls, both fill a cell with the same text. -/
theorem same_text {accesses : List Access} (some : accesses ≠ []) :
    Path.parse (pathText accesses) = .ok (path accesses) ∧
      Filter.parse (filterText accesses) = .ok (filter accesses) ∧
      ∀ now object column values, object.NullFree → (filter accesses).evaluate object = .ok values →
        ∃ text, Query.render now (.path (path accesses)) object column = .ok text ∧
          Query.render now (.filter (filter accesses)) object column = .ok text := by
  refine ⟨parse_path_text some, parse_filter_text some, fun now object column values free found => ?_⟩
  obtain ⟨finished, rfl⟩ := evaluated found
  refine ⟨_, rfl, ?_⟩
  rw [Query.render, Query.evaluate, found]
  exact congrArg Except.ok (format_agreed now column _ _ (agree_steps accesses free finished))

def quotedSteps : List Access := [.key "it's \"\\", .all]

def quotedObject : Json := .object [("it's \"\\", .array [.bool true, .string "b"])]

theorem quoted_steps_same_text :
    quotedSteps ≠ [] ∧ quotedObject.NullFree ∧
      (filter quotedSteps).evaluate quotedObject = .ok [.bool true, .string "b"] ∧
      ∃ text, Query.render 0 (.path (path quotedSteps)) quotedObject (.named "A") = .ok text ∧
        Query.render 0 (.filter (filter quotedSteps)) quotedObject (.named "A") = .ok text := by
  have some : quotedSteps ≠ [] := List.cons_ne_nil _ _
  have items : (Json.array [.bool true, .string "b"]).NullFree := .array <| by
    simp only [List.forall_mem_cons]
    exact ⟨.bool true, .string "b", List.forall_mem_nil _⟩
  have free : quotedObject.NullFree := .object (List.forall_mem_singleton.mpr items)
  have found : (filter quotedSteps).evaluate quotedObject = .ok [.bool true, .string "b"] := rfl
  exact ⟨some, free, found, (same_text some).2.2 0 quotedObject (.named "A") _ free found⟩

end Access

end LiveTable
