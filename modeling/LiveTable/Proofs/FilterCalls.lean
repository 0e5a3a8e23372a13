import LiveTable.Proofs.FilterReading
import LiveTable.Query.Filter.Eval

namespace LiveTable.Filter

inductive Inside (part : Filter) : Filter → Prop
  | here : Inside part part
  | field {base : Filter} (name : String) (below : Inside part base) : Inside part (.field base name)
  | base {base : Filter} (position : Filter) (below : Inside part base) : Inside part (.index base position)
  | position (base : Filter) {position : Filter} (inside : Inside part position) : Inside part (.index base position)
  | iterate {base : Filter} (below : Inside part base) : Inside part (.iterate base)
  | attempt {inner : Filter} (below : Inside part inner) : Inside part (.attempt inner)
  | collect {inner : Filter} (inside : Inside part inner) : Inside part (.collect inner)
  | before (op : Operator) {left : Filter} (right : Filter) (before : Inside part left) :
      Inside part (.binary op left right)
  | behind (op : Operator) (left : Filter) {right : Filter} (behind : Inside part right) :
      Inside part (.binary op left right)
  | argument (f : Builtin) {args : List Filter} {arg : Filter} (given : arg ∈ args) (inside : Inside part arg) :
      Inside part (.call f args)

theorem readable_inside {part f : Filter} (inside : Inside part f) (readable : Readable f) : Readable part := by
  induction inside with
  | here => exact readable
  | field _ _ ih => cases readable with | field _ below => exact ih below
  | base _ _ ih => cases readable with | index below _ => exact ih below
  | position _ _ ih => cases readable with | index _ inside => exact ih inside
  | iterate _ ih => cases readable with | iterate below => exact ih below
  | attempt _ ih => cases readable with | attempt below => exact ih below
  | collect _ ih => cases readable with | collect inside => exact ih inside
  | before _ _ _ ih => cases readable with | binary _ before _ => exact ih before
  | behind _ _ _ ih => cases readable with | binary _ _ behind => exact ih behind
  | argument _ given _ ih => cases readable with | call _ inside => exact ih (inside _ given)

def oneArgument : List Builtin := [.select, .map, .join, .has, .split, .contains, .test, .startswith, .endswith]

def maybeArgument : List Builtin := [.first, .last]

structure Fits (f : Builtin) (arguments : Nat) : Prop where
  one : f ∈ oneArgument → arguments = 1
  maybe : f ∈ maybeArgument → arguments ≤ 1
  none : f ∉ oneArgument → f ∉ maybeArgument → arguments = 0

theorem takes_fits {f : Builtin} {n : Nat} (taken : f.takes n = true) : Fits f n := by
  constructor <;> cases f <;> simp_all [Builtin.takes, oneArgument, maybeArgument]

def Caught {α : Type} (result : Except Fault α) : Prop := ∀ fault, result = .error fault → fault.stops = false

section

variable {α : Type}

theorem caught_ok (a : α) : Caught (.ok a : Except Fault α) := by
  rintro fault ⟨⟩

theorem caught_error (fault : Fault) (caught : fault.stops = false) : Caught (.error fault : Except Fault α) := by
  rintro _ ⟨⟩
  exact caught

theorem caught_bind {β : Type} (first : Except Fault α) (next : α → Except Fault β) (caught : Caught first)
    (others : ∀ a, Caught (next a)) : Caught (first >>= next) := by
  cases first with
  | ok a => exact others a
  | error fault => exact caught_error fault (caught fault rfl)

end

theorem value_at_caught (value key : Json) : Caught (valueAt value key) := by
  unfold valueAt
  split
  all_goals first | exact caught_ok _ | exact caught_error _ rfl

theorem children_caught (v : Json) : Caught (children v) := by
  unfold children
  split
  all_goals first | exact caught_ok _ | exact caught_error _ rfl

theorem sum_caught (left right : Json) : Caught (sum left right) := by
  unfold sum
  split
  all_goals first | exact caught_ok _ | exact caught_error _ rfl

theorem difference_caught (left right : Json) : Caught (difference left right) := by
  unfold difference
  split
  all_goals first | exact caught_ok _ | exact caught_error _ rfl

theorem sum_of_caught (items : List Json) (start : Json) : Caught (items.foldlM sum start) := by
  induction items generalizing start with
  | nil => exact caught_ok start
  | cons v rest ih => exact caught_bind _ _ (sum_caught start v) ih

theorem read_number_caught (text : String) : Caught (readNumber text) := by
  unfold readNumber
  split
  all_goals first | exact caught_ok _ | exact caught_error _ rfl

theorem join_parts_caught (items : List Json) : Caught (items.mapM joinPart) := by
  have part (v : Json) : Caught (joinPart v) := by
    unfold joinPart
    split
    all_goals first | exact caught_ok _ | exact caught_error _ rfl
  induction items with
  | nil => exact caught_ok []
  | cons v rest ih =>
      rw [List.mapM_cons]
      exact caught_bind _ _ (part v) fun _ => caught_bind _ _ ih fun _ => caught_ok _

theorem apply_plain_caught (f : Builtin) (input : Json) : Caught (applyPlain f input) := by
  unfold applyPlain
  split
  all_goals first
    | with_reducible exact caught_ok _
    | with_reducible exact read_number_caught _
    | exact sum_of_caught _ _
    | exact caught_error _ rfl

theorem test_pattern_caught (text pattern : String) : Caught (testPattern text pattern) := by
  unfold testPattern
  split
  all_goals first | exact caught_ok _ | exact caught_error _ rfl

theorem apply_to_caught (f : Builtin) (input arg : Json) : Caught (applyTo f input arg) := by
  unfold applyTo
  split
  all_goals first
    | exact caught_ok _
    | exact test_pattern_caught _ _
    | exact caught_error _ rfl
    | skip
  rename_i items separator
  have parts := join_parts_caught items
  cases joined : items.mapM joinPart with
  | ok texts => exact caught_ok _
  | error fault => exact caught_error _ (parts fault joined)

namespace Outcome

section

variable (o : Outcome)

theorem complete_runs (next : List Json → Outcome) (runs : o.stops = false)
    (others : ∀ vs, (next vs).stops = false) : (o.complete next).stops = false := by
  obtain ⟨outputs, fault⟩ := o
  cases fault with
  | none => exact others outputs
  | some fault => exact runs

theorem and_then_runs (second : Outcome) (runs : o.stops = false) (other : second.stops = false) :
    (o.andThen second).stops = false := by
  obtain ⟨outputs, fault⟩ := o
  cases fault with
  | none => exact other
  | some fault => exact runs

theorem recovered_runs (runs : o.stops = false) : o.recovered.stops = false := by
  rw [recovered, if_neg (by simp [runs])]
  rfl

end

theorem each_runs (run : Json → Outcome) (vs : List Json) (runs : ∀ v, (run v).stops = false) :
    (each run vs).stops = false := by
  induction vs with
  | nil => rfl
  | cons v rest ih => exact and_then_runs (run v) _ (runs v) ih

theorem single_runs (result : Except Fault Json) (caught : Caught result) : (single result).stops = false := by
  cases result with
  | ok v => rfl
  | error fault => exact caught fault rfl

theorem of_except_runs (result : Except Fault (List Json)) (caught : Caught result) :
    (ofExcept result).stops = false := by
  cases result with
  | ok vs => rfl
  | error fault => exact caught fault rfl

end Outcome

open Outcome

section

variable (f : Builtin) (op : Operator) (left right : Json → Outcome) (input : Json)
  (before : ∀ v, (left v).stops = false) (behind : ∀ v, (right v).stops = false)

theorem pairwise_runs (combine : Json → Json → Except Fault Json) (lefts rights : List Json)
    (caught : ∀ l r, Caught (combine l r)) : (pairwise combine lefts rights).stops = false :=
  each_runs _ lefts fun l => each_runs _ rights fun r => single_runs _ (caught l r)

theorem paired_runs (combine : Json → Json → Except Fault Json) (l r : Outcome) (first : l.stops = false)
    (second : r.stops = false) (caught : ∀ l r, Caught (combine l r)) :
    (r.complete fun rights => l.complete fun lefts => pairwise combine lefts rights).stops = false :=
  complete_runs r _ second fun rights => complete_runs l _ first fun lefts => pairwise_runs combine lefts rights caught

theorem decide_by_runs (decided : Bool) (o : Outcome) (v : Json) (runs : o.stops = false) :
    (decideBy decided o v).stops = false := by
  unfold decideBy
  split
  · rfl
  · exact complete_runs o _ runs fun _ => rfl

include before

theorem apply_call_runs : (applyCall f left input).stops = false := by
  unfold applyCall
  split
  · exact complete_runs _ _ (before _) fun _ => rfl
  · exact complete_runs _ _ (each_runs left _ before) fun _ => rfl
  · rfl
  · exact complete_runs _ _ (before _) fun _ => rfl
  · exact complete_runs _ _ (before _) fun _ => rfl
  · refine complete_runs _ _ (before _) fun vs => complete_runs _ _ (each_runs _ vs fun a => ?_) fun _ => rfl
    exact single_runs _ (apply_to_caught _ _ a)

include behind

theorem operate_runs : (operate op left right input).stops = false := by
  cases op with
  | pipe => exact complete_runs _ _ (before input) fun vs => each_runs right vs behind
  | comma => exact and_then_runs _ _ (before input) (behind input)
  | alternative =>
      simp only [operate, before input, Bool.false_eq_true, if_false]
      generalize (if (left input).fault.isSome then [] else (left input).outputs.filter Json.truthy) = kept
      cases kept with
      | nil => exact behind input
      | cons v rest => rfl
  | and =>
      exact complete_runs _ _ (before input) fun vs =>
        each_runs _ vs fun v => decide_by_runs false _ v (behind input)
  | or =>
      exact complete_runs _ _ (before input) fun vs =>
        each_runs _ vs fun v => decide_by_runs true _ v (behind input)
  | compare c => exact paired_runs _ _ _ (before input) (behind input) fun _ _ => caught_ok _
  | add => exact paired_runs _ _ _ (before input) (behind input) sum_caught
  | subtract => exact paired_runs _ _ _ (before input) (behind input) difference_caught

end

theorem stop_uncaught (f g : Filter) (input : Json) (stop : (run f input).stops = true) :
    run (.attempt f) input = run f input ∧ run (.binary .alternative f g) input = run f input := by
  constructor
  · rw [run]
    exact if_pos stop
  · simp only [run, operate, stop, if_true]

theorem alone_runs {f : Builtin} (taken : f.takes 0 = true) (input : Json) : (run (.call f []) input).stops = false := by
  have plain : (single (applyPlain f input)).stops = false := single_runs _ (apply_plain_caught f input)
  rw [run]
  unfold applyAlone
  split
  case h_1 => rfl
  case h_11 => exact plain
  all_goals cases taken

theorem readable_runs {f : Filter} (readable : Readable f) : ∀ input, (run f input).stops = false := by
  induction readable with
  | identity | recurse | null | bool | text | number | emptyArray =>
      intro input
      rw [run]
      rfl
  | field name _ ih =>
      intro input
      rw [run]
      exact complete_runs _ _ (ih input) fun vs => each_runs _ vs fun v => single_runs _ (value_at_caught v _)
  | index _ _ base position =>
      intro input
      rw [run]
      exact paired_runs _ _ _ (base input) (position input) value_at_caught
  | iterate _ ih =>
      intro input
      rw [run]
      exact complete_runs _ _ (ih input) fun vs => each_runs _ vs fun v => of_except_runs _ (children_caught v)
  | attempt _ ih =>
      intro input
      rw [run]
      exact recovered_runs _ (ih input)
  | collect _ ih =>
      intro input
      rw [run]
      exact complete_runs _ _ (ih input) fun _ => rfl
  | binary op _ _ before behind =>
      intro input
      rw [run]
      exact operate_runs op _ _ input before behind
  | @call f args taken inside ih =>
      intro input
      cases args with
      | nil => exact alone_runs taken input
      | cons arg rest =>
          rw [run]
          exact apply_call_runs f _ input (ih arg List.mem_cons_self)

theorem runs_argued (o : Outcome) (runs : o.stops = false) (f : Builtin) : o.fault ≠ some (.missingArgument f) := by
  intro missing
  rw [stops, missing] at runs
  cases runs

/-- In a filter that was read every call, at any depth, has as many arguments as its function takes, and no run of the
filter comes to a function without the argument that it needs, which nothing would catch. -/
theorem parsed_calls_fit {expr : String} {f : Filter} (read : parse expr = .ok f) :
    (∀ g args, Inside (.call g args) f → Fits g args.length) ∧
      (∀ input g, (run f input).fault ≠ some (.missingArgument g)) ∧
      ∀ g h input, (run g input).stops = true →
        run (.attempt g) input = run g input ∧ run (.binary .alternative g h) input = run g input := by
  have readable := parse_readable read
  refine ⟨fun g args inside => ?_, fun input => runs_argued _ (readable_runs readable input), stop_uncaught⟩
  cases readable_inside inside readable with
  | call taken _ => exact takes_fits taken

def selectedFirst : Filter :=
  .call .map [.binary .pipe (.call .select [.call .has [.literal (.string "a")]]) (.call .first [])]

theorem selected_first_fits : parse "map(select(has(\"a\"))|first)" = .ok selectedFirst ∧
    Fits .map 1 ∧ Fits .has 1 ∧ Fits .first 0 ∧
      ∀ input g, (run selectedFirst input).fault ≠ some (.missingArgument g) := by
  have scanned : (Token.tokens 0 "map(select(has(\"a\"))|first)".toList).toOption = some [(0, .ident "map"),
      (3, .leftParen), (4, .ident "select"), (10, .leftParen), (11, .ident "has"), (14, .leftParen), (15, .str "a"),
      (18, .rightParen), (19, .rightParen), (20, .pipe), (21, .ident "first"), (26, .rightParen)] := by
    decide +kernel
  have read : parse "map(select(has(\"a\"))|first)" = .ok selectedFirst := by
    cases found : Token.tokens 0 "map(select(has(\"a\"))|first)".toList with
    | error e =>
        rw [found] at scanned
        cases scanned
    | ok ts =>
        rw [found] at scanned
        cases scanned
        rw [parse, found]
        rfl
  obtain ⟨fits, runs, _⟩ := parsed_calls_fit read
  have selected : Inside (.call .has [.literal (.string "a")]) (.call .select [.call .has [.literal (.string "a")]]) :=
    .argument .select List.mem_cons_self .here
  exact ⟨read, fits _ _ .here, fits _ _ (.argument .map List.mem_cons_self (.before .pipe _ selected)),
    fits _ _ (.argument .map List.mem_cons_self (.behind .pipe _ .here)), runs⟩

end LiveTable.Filter
