import LiveTable.Query.Filter.Parser

namespace LiveTable

theorem bind_ok {ε α β : Type} {first : Except ε α} {next : α → Except ε β} {b : β} :
    first >>= next = .ok b ↔ ∃ a, first = .ok a ∧ next a = .ok b := by
  cases first with
  | error e => simp [bind, Except.bind]
  | ok a => simp [bind, Except.bind]

theorem Builtin.takes_of_lookup {name : String} {arity : Nat} {f : Builtin}
    (found : Builtin.lookup? name arity = some f) : f.takes arity = true := by
  have named := List.find?_some found
  simp only [Bool.and_eq_true] at named
  exact named.2

namespace Filter

open LiveTable.Filter.Parser

inductive Readable : Filter → Prop
  | identity : Readable .identity
  | recurse : Readable .recurse
  | null : Readable (.literal .null)
  | bool (b : Bool) : Readable (.literal (.bool b))
  | text (s : String) : Readable (.literal (.string s))
  | number (x : Float) : Readable (.literal (Json.ofFloat x))
  | field {base : Filter} (name : String) (below : Readable base) : Readable (.field base name)
  | index {base position : Filter} (below : Readable base) (inside : Readable position) :
      Readable (.index base position)
  | iterate {base : Filter} (below : Readable base) : Readable (.iterate base)
  | attempt {inner : Filter} (below : Readable inner) : Readable (.attempt inner)
  | emptyArray : Readable .emptyArray
  | collect {inner : Filter} (inside : Readable inner) : Readable (.collect inner)
  | binary (op : Operator) {left right : Filter} (before : Readable left) (behind : Readable right) :
      Readable (.binary op left right)
  | call {f : Builtin} {args : List Filter} (taken : f.takes args.length = true)
      (inside : ∀ arg ∈ args, Readable arg) : Readable (.call f args)

-- All that is read with so much fuel, behind readable filters, is readable.
structure ReadsReadable (stop fuel : Nat) : Prop where
  expression : ∀ {level ts f rest}, expression stop fuel level ts = .ok (f, rest) → Readable f
  operators : ∀ {level left ts f rest}, Readable left →
    operators stop fuel level left ts = .ok (f, rest) → Readable f
  suffixes : ∀ {base ts f rest}, Readable base → suffixes stop fuel base ts = .ok (f, rest) → Readable f
  bracket : ∀ {base ts f rest}, Readable base → bracket stop fuel base ts = .ok (f, rest) → Readable f
  operand : ∀ {ts f rest}, operand stop fuel ts = .ok (f, rest) → Readable f
  arguments : ∀ {acc ts args rest}, (∀ arg ∈ acc, Readable arg) →
    arguments stop fuel acc ts = .ok (args, rest) → ∀ arg ∈ args, Readable arg

section

variable {stop fuel level : Nat} {ts rest : Tokens} {f : Filter}

theorem readable_call {name : String} {args : List Filter} (inside : ∀ arg ∈ args, Readable arg)
    (read : callOf stop name args ts = .ok (f, rest)) : Readable f := by
  unfold callOf at read
  split at read
  · rename_i found
    cases read
    exact .call (Builtin.takes_of_lookup found) inside
  · cases read

theorem readable_word {name : String} {v : Json} (found : literalOfWord? name = some v) :
    Readable (.literal v) := by
  unfold literalOfWord? at found
  split at found <;> cases found
  · exact .null
  · exact .bool true
  · exact .bool false

theorem readable_expression (ih : ReadsReadable stop fuel)
    (read : expression stop (fuel + 1) level ts = .ok (f, rest)) : Readable f := by
  rw [expression] at read
  split at read
  · obtain ⟨⟨left, more⟩, first, read⟩ := bind_ok.mp read
    exact ih.operators (ih.expression first) read
  · obtain ⟨⟨base, more⟩, first, read⟩ := bind_ok.mp read
    exact ih.suffixes (ih.operand first) read

theorem readable_operators (ih : ReadsReadable stop fuel) {left : Filter} (before : Readable left)
    (read : operators stop (fuel + 1) level left ts = .ok (f, rest)) : Readable f := by
  rw [operators.eq_def] at read
  dsimp only at read
  split at read
  · cases read
    exact before
  · split at read
    · cases read
      exact before
    · rename_i op _
      split at read
      · split at read <;> obtain ⟨⟨right, more⟩, second, read⟩ := bind_ok.mp read
        · cases read
          exact .binary op before (ih.expression second)
        · cases read
          exact .binary op before (ih.expression second)
        · exact ih.operators (.binary op before (ih.expression second)) read
      · cases read
        exact before

theorem readable_suffixes (ih : ReadsReadable stop fuel) {base : Filter} (below : Readable base)
    (read : suffixes stop (fuel + 1) base ts = .ok (f, rest)) : Readable f := by
  rw [suffixes.eq_def] at read
  dsimp only at read
  split at read
  · exact ih.suffixes (.field _ below) read
  · exact ih.suffixes (.attempt below) read
  · obtain ⟨⟨indexed, more⟩, first, read⟩ := bind_ok.mp read
    exact ih.suffixes (ih.bracket below first) read
  · obtain ⟨⟨indexed, more⟩, first, read⟩ := bind_ok.mp read
    exact ih.suffixes (ih.bracket below first) read
  · cases read
    exact below

theorem readable_bracket (ih : ReadsReadable stop fuel) {base : Filter} (below : Readable base)
    (read : bracket stop (fuel + 1) base ts = .ok (f, rest)) : Readable f := by
  rw [bracket.eq_def] at read
  dsimp only at read
  split at read
  · cases read
    exact .iterate below
  · obtain ⟨⟨position, more⟩, first, read⟩ := bind_ok.mp read
    obtain ⟨more, _, read⟩ := bind_ok.mp read
    cases read
    exact .index below (ih.expression first)

theorem readable_operand (ih : ReadsReadable stop fuel) (read : operand stop (fuel + 1) ts = .ok (f, rest)) :
    Readable f := by
  rw [operand.eq_def] at read
  dsimp only at read
  split at read
  case h_1 => cases read
  case h_2 => exact ih.bracket .identity read
  case h_3 =>
    cases read
    exact .identity
  case h_4 =>
    cases read
    exact .recurse
  case h_5 =>
    cases read
    exact .field _ .identity
  case h_6 =>
    cases read
    exact .text _
  case h_7 =>
    cases read
    exact .number _
  case h_8 =>
    cases read
    exact .number _
  case h_9 => cases read
  case h_10 =>
    obtain ⟨⟨inner, more⟩, first, read⟩ := bind_ok.mp read
    obtain ⟨more, _, read⟩ := bind_ok.mp read
    cases read
    exact ih.expression first
  case h_11 =>
    cases read
    exact .emptyArray
  case h_12 =>
    obtain ⟨⟨inner, more⟩, first, read⟩ := bind_ok.mp read
    obtain ⟨more, _, read⟩ := bind_ok.mp read
    cases read
    exact .collect (ih.expression first)
  case h_13 =>
    split at read
    · rename_i found
      cases read
      exact readable_word found
    · split at read
      · obtain ⟨⟨args, more⟩, first, read⟩ := bind_ok.mp read
        exact readable_call (ih.arguments (by simp) first) read
      · exact readable_call (by simp) read
  case h_14 => cases read

theorem readable_arguments (ih : ReadsReadable stop fuel) {acc args : List Filter}
    (before : ∀ arg ∈ acc, Readable arg) (read : arguments stop (fuel + 1) acc ts = .ok (args, rest)) :
    ∀ arg ∈ args, Readable arg := by
  rw [arguments] at read
  obtain ⟨⟨arg, more⟩, first, read⟩ := bind_ok.mp read
  have all : ∀ a ∈ arg :: acc, Readable a := List.forall_mem_cons.mpr ⟨ih.expression first, before⟩
  dsimp only at read
  split at read
  · exact ih.arguments all read
  · obtain ⟨more, _, read⟩ := bind_ok.mp read
    cases read
    exact fun a member => all a (List.mem_reverse.mp member)

theorem reads_readable (stop fuel : Nat) : ReadsReadable stop fuel := by
  induction fuel with
  | zero => constructor <;> intros <;> contradiction
  | succ fuel ih =>
      exact ⟨readable_expression ih, readable_operators ih, readable_suffixes ih, readable_bracket ih,
        readable_operand ih, readable_arguments ih⟩

end

theorem of_tokens_readable {stop : Nat} {ts : Tokens} {f : Filter} (read : ofTokens stop ts = .ok f) :
    Readable f := by
  obtain ⟨⟨g, rest⟩, first, read⟩ := bind_ok.mp read
  cases rest with
  | nil =>
      cases read
      exact (reads_readable _ _).expression first
  | cons => cases read

theorem parse_readable {expr : String} {f : Filter} (read : parse expr = .ok f) : Readable f := by
  obtain ⟨ts, _, read⟩ := bind_ok.mp read
  exact of_tokens_readable read

end Filter

end LiveTable
