import LiveTable.Query.Filter.Eval
import Mathlib.Data.List.TakeWhile

namespace LiveTable.Filter

namespace Outcome

theorem and_then_nothing (o : Outcome) : o.andThen (ok []) = o := by
  obtain ⟨outputs, fault⟩ := o
  cases fault <;> simp [andThen, ok]

theorem and_then_fault (o : Outcome) (fault : Option Fault) :
    (o.andThen ⟨[], fault⟩).outputs = o.outputs ∧ (o.andThen ⟨[], fault⟩).fault = o.fault.or fault := by
  obtain ⟨outputs, stopped⟩ := o
  cases stopped <;> simp [andThen]

theorem and_then_assoc (first second third : Outcome) :
    (first.andThen second).andThen third = first.andThen (second.andThen third) := by
  obtain ⟨outputs, fault⟩ := first
  cases fault with
  | some fault => rfl
  | none =>
      obtain ⟨more, fault⟩ := second
      cases fault <;> simp [andThen]

theorem recovered_outputs (o : Outcome) : o.recovered.outputs = o.outputs := by
  unfold recovered
  split <;> rfl

theorem complete_finished (o : Outcome) (next : List Json → Outcome) (finished : o.fault = none) :
    o.complete next = next o.outputs := by
  rw [complete, finished]

theorem complete_stopped (o : Outcome) (next : List Json → Outcome) (fault : Fault)
    (stopped : o.fault = some fault) : o.complete next = fail fault := by
  rw [complete, stopped]

theorem each_single (run : Json → Outcome) (v : Json) : each run [v] = run v :=
  and_then_nothing (run v)

theorem each_append (run : Json → Outcome) (vs ws : List Json) :
    each run (vs ++ ws) = (each run vs).andThen (each run ws) := by
  induction vs with
  | nil => rfl
  | cons v rest ih => rw [List.cons_append, each, each, ih, and_then_assoc]

theorem each_itself (vs : List Json) : each (fun v => ok [v]) vs = ok vs := by
  induction vs with
  | nil => rfl
  | cons v rest ih =>
      rw [each, ih]
      rfl

-- The values before the first at which a run stops.
def unstopped (run : Json → Outcome) (vs : List Json) : List Json :=
  vs.takeWhile fun v => (run v).fault.isNone

theorem each_fault (run : Json → Outcome) (vs : List Json) :
    (each run vs).fault = none ↔ ∀ v ∈ vs, (run v).fault = none := by
  induction vs with
  | nil => simp [each, ok]
  | cons v rest ih =>
      rw [each, List.forall_mem_cons, ← ih]
      cases stopped : (run v).fault <;> simp [andThen, stopped]

theorem unstopped_all (run : Json → Outcome) (vs : List Json) (finished : (each run vs).fault = none) :
    unstopped run vs = vs := by
  refine List.takeWhile_eq_self_iff.mpr fun v member => ?_
  rw [(each_fault run vs).mp finished v member]
  rfl

theorem each_complete (first second : Json → Outcome) (vs : List Json) :
    each (fun v => (first v).complete (each second)) vs =
      (each second (each first (unstopped first vs)).outputs).andThen ⟨[], (each first vs).fault⟩ := by
  induction vs with
  | nil => rfl
  | cons v rest ih =>
      cases stopped : (first v).fault with
      | some fault =>
          have none : unstopped first (v :: rest) = [] := by simp [unstopped, stopped]
          rw [each, none]
          simp only [complete, each, andThen, stopped, fail, ok, List.nil_append]
      | none =>
          have more : unstopped first (v :: rest) = v :: unstopped first rest := by
            simp [unstopped, stopped]
          have yields : (each first (v :: unstopped first rest)).outputs =
              (first v).outputs ++ (each first (unstopped first rest)).outputs := by
            simp only [each, andThen, stopped]
          have stops : (each first (v :: rest)).fault = (each first rest).fault := by
            simp only [each, andThen, stopped]
          rw [each, ih, more, yields, stops, each_append, and_then_assoc]
          simp only [complete, stopped]

end Outcome

open Outcome

def kept (f : Filter) (input : Json) : List Json := (run (.attempt f) input).outputs

theorem kept_outputs (f : Filter) (input : Json) : kept f input = (run f input).outputs := by
  rw [kept, run]
  exact recovered_outputs _

section

variable (a b c : Filter) (input : Json)

theorem run_pipe : run (.binary .pipe a b) input = (run a input).complete (each (run b)) := by
  rw [run, operate]

theorem run_identity_pipe : run (.binary .pipe .identity a) input = run a input := by
  rw [run_pipe, run]
  exact each_single (run a) input

theorem run_pipe_identity : run (.binary .pipe a .identity) input = (run a input).complete ok := by
  have passes : each (run .identity) = ok := funext fun vs => each_itself vs
  rw [run_pipe, passes]

theorem pipe_fault (finished : (run (.binary .pipe a b) input).fault = none) : (run a input).fault = none := by
  cases stopped : (run a input).fault with
  | none => rfl
  | some fault =>
      rw [run_pipe, complete_stopped _ _ fault stopped] at finished
      cases finished

def through : Outcome :=
  each (run c) (each (run b) (unstopped (run b) (run a input).outputs)).outputs

theorem run_left (finished : (run (.binary .pipe a b) input).fault = none) :
    run (.binary .pipe (.binary .pipe a b) c) input = through a b c input := by
  have before := pipe_fault a b input finished
  rw [run_pipe _ c, complete_finished _ _ finished]
  rw [run_pipe, complete_finished _ _ before] at finished ⊢
  rw [through, unstopped_all (run b) _ finished]

theorem run_right (finished : (run a input).fault = none) :
    run (.binary .pipe a (.binary .pipe b c)) input =
      (through a b c input).andThen ⟨[], (run (.binary .pipe a b) input).fault⟩ := by
  have composed : run (.binary .pipe b c) = fun v => (run b v).complete (each (run c)) :=
    funext fun v => run_pipe b c v
  rw [run_pipe a, run_pipe a, composed, complete_finished _ _ finished, complete_finished _ _ finished,
    each_complete, through]

theorem kept_left : kept (.binary .pipe (.binary .pipe a b) c) input =
    if (run (.binary .pipe a b) input).fault = none then (through a b c input).outputs else [] := by
  rw [kept_outputs]
  split
  · rename_i finished
    rw [run_left a b c input finished]
  · rename_i stopped
    obtain ⟨fault, stopped⟩ := Option.ne_none_iff_exists'.mp stopped
    rw [run_pipe _ c, complete_stopped _ _ fault stopped]
    rfl

theorem kept_right : kept (.binary .pipe a (.binary .pipe b c)) input =
    if (run a input).fault = none then (through a b c input).outputs else [] := by
  rw [kept_outputs]
  split
  · rename_i finished
    rw [run_right a b c input finished]
    exact (and_then_fault _ _).1
  · rename_i stopped
    obtain ⟨fault, stopped⟩ := Option.ne_none_iff_exists'.mp stopped
    rw [run_pipe a, complete_stopped _ _ fault stopped]
    rfl

theorem evaluate_pipe_identity : evaluate (.binary .pipe a .identity) input = evaluate a input := by
  rw [evaluate, evaluate, run_pipe_identity]
  cases stopped : (run a input).fault with
  | some fault =>
      rw [complete_stopped _ _ fault stopped]
      simp only [toExcept, fail, stopped]
  | none =>
      rw [complete_finished _ _ stopped]
      simp only [toExcept, ok, stopped]

theorem evaluate_stopped (f : Filter) (stopped : (run f input).fault ≠ none) :
    (evaluate f input).toOption = none := by
  obtain ⟨fault, stopped⟩ := Option.ne_none_iff_exists'.mp stopped
  simp only [evaluate, toExcept, stopped, Except.toOption]

theorem evaluate_regrouped :
    (evaluate (.binary .pipe (.binary .pipe a b) c) input).toOption =
      (evaluate (.binary .pipe a (.binary .pipe b c)) input).toOption := by
  by_cases finished : (run (.binary .pipe a b) input).fault = none
  · have before := pipe_fault a b input finished
    rw [evaluate, evaluate, run_left a b c input finished, run_right a b c input before, finished]
    exact congrArg (fun o => o.toExcept.toOption) (and_then_nothing _).symm
  · have left : (run (.binary .pipe (.binary .pipe a b) c) input).fault ≠ none :=
      fun none => finished (pipe_fault _ c input none)
    have right : (run (.binary .pipe a (.binary .pipe b c)) input).fault ≠ none := by
      intro none
      have before := pipe_fault a _ input none
      rw [run_right a b c input before, (and_then_fault _ _).2] at none
      exact finished (Option.or_eq_none_iff.mp none).2
    rw [evaluate_stopped input _ left, evaluate_stopped input _ right]

end

/-- Under `?`, `. | a` leaves what `a` leaves. `a | .` leaves the same exactly if `a` runs to its end or
yields nothing before it stops, and `(a | b) | c` leaves what `a | (b | c)` leaves exactly if `a` stops, if
`a | b` runs to its end, or if nothing comes through all three before `b` stops. Without `?` both sides of
each law give the same outputs, or both a fault. -/
theorem pipe_laws_kept (a b c : Filter) (input : Json) :
    kept (.binary .pipe .identity a) input = kept a input ∧
      (kept (.binary .pipe a .identity) input = kept a input ↔
        (run a input).fault = none ∨ (run a input).outputs = []) ∧
      (kept (.binary .pipe (.binary .pipe a b) c) input = kept (.binary .pipe a (.binary .pipe b c)) input ↔
        (run a input).fault ≠ none ∨ (run (.binary .pipe a b) input).fault = none ∨
          (through a b c input).outputs = []) ∧
      evaluate (.binary .pipe a .identity) input = evaluate a input ∧
      (evaluate (.binary .pipe (.binary .pipe a b) c) input).toOption =
        (evaluate (.binary .pipe a (.binary .pipe b c)) input).toOption := by
  refine ⟨?_, ?_, ?_, evaluate_pipe_identity a input, evaluate_regrouped a b c input⟩
  · rw [kept_outputs, run_identity_pipe, kept_outputs]
  · rw [kept_outputs, run_pipe_identity, kept_outputs]
    cases stopped : (run a input).fault with
    | none =>
        rw [complete_finished _ _ stopped]
        exact iff_of_true rfl (.inl rfl)
    | some fault =>
        rw [complete_stopped _ _ fault stopped]
        simp [fail]
  · rw [kept_left, kept_right]
    by_cases finished : (run (.binary .pipe a b) input).fault = none
    · simp [finished, pipe_fault a b input finished]
    · by_cases before : (run a input).fault = none <;> simp [finished, before]

def selfThenItems : Filter := .binary .comma .identity (.iterate .identity)

def everyItem : Filter := .iterate .identity

def listAndMore : Json := .array [.array [.bool true], .bool true]

theorem pipe_loses_outputs :
    kept selfThenItems (.bool true) = [.bool true] ∧
      kept (.binary .pipe selfThenItems .identity) (.bool true) = [] ∧
      kept (.binary .pipe everyItem (.binary .pipe everyItem .identity)) listAndMore = [.bool true] ∧
      kept (.binary .pipe (.binary .pipe everyItem everyItem) .identity) listAndMore = [] := by
  refine ⟨rfl, rfl, rfl, rfl⟩

end LiveTable.Filter
