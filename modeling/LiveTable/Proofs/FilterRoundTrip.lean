import LiveTable.Proofs.FilterGrammar

namespace LiveTable.Filter

open LiveTable.Filter.Parser

-- What can follow a filter at a level and is no part of it.
inductive Ends (level : Nat) : Tokens → Prop
  | nothing : Ends level []
  | paren (i : Nat) (ts : Tokens) : Ends level ((i, .rightParen) :: ts)
  | bracket (i : Nat) (ts : Tokens) : Ends level ((i, .rightBracket) :: ts)
  | operator (i : Nat) {op : Operator} (ts : Tokens) (loose : op.level < level) : Ends level ((i, op.token) :: ts)

-- What can follow a first operand at a level: also an operator of this level, if it groups to the left, or a
-- suffix behind an operand. Behind `.` a bracket belongs to the operand itself.
inductive Follows : Nat → Filter → Tokens → Prop
  | ends {level : Nat} {f : Filter} {ts : Tokens} (ends : Ends level ts) : Follows level f ts
  | operator {level : Nat} {f : Filter} (i : Nat) {op : Operator} (ts : Tokens) (same : op.level = level)
      (left : op.associativity = .left) : Follows level f ((i, op.token) :: ts)
  | field {f : Filter} (i : Nat) (name : String) (ts : Tokens) : Follows operandLevel f ((i, .field name) :: ts)
  | question {f : Filter} (i : Nat) (ts : Tokens) : Follows operandLevel f ((i, .question) :: ts)
  | point {f : Filter} (i j : Nat) (ts : Tokens) :
      Follows operandLevel f ((i, .dot) :: (j, .leftBracket) :: ts)
  | bracket {f : Filter} (i : Nat) (ts : Tokens) (other : f ≠ .identity) :
      Follows operandLevel f ((i, .leftBracket) :: ts)

def continuation (stop fuel level : Nat) (f : Filter) (ts : Tokens) : Parsed :=
  if level < operandLevel then operators stop fuel level f ts else suffixes stop fuel f ts

theorem Ends.above {level : Nat} {ts : Tokens} (ends : Ends level ts) : Ends (level + 1) ts := by
  cases ends with
  | nothing => exact .nothing
  | paren => exact .paren _ _
  | bracket => exact .bracket _ _
  | operator i ts loose => exact .operator i ts (Nat.lt_succ_of_lt loose)

theorem Follows.ends_above {level : Nat} {f : Filter} {ts : Tokens} (follows : Follows level f ts)
    (low : level < operandLevel) : Ends (level + 1) ts := by
  cases follows with
  | ends ends => exact ends.above
  | operator i ts same _ => exact .operator i ts (same ▸ Nat.lt_succ_self _)
  | field | question | point | bracket => exact absurd low (Nat.lt_irrefl _)

theorem Follows.ends_at {level : Nat} {op : Operator} {f : Filter} {ts : Tokens} (follows : Follows level f ts)
    (same : level = op.level) (grouping : op.associativity ≠ .left) : Ends level ts := by
  cases follows with
  | ends ends => exact ends
  | operator i ts own left =>
      exact absurd (Operator.same_level_associativity (own.trans same) ▸ left) grouping
  | field | question | point | bracket => exact absurd (same ▸ op.level_below_operand) (Nat.lt_irrefl _)

section

variable {stop fuel level : Nat} {f : Filter} {ts rest : Tokens}

theorem operators_end (ends : Ends level ts) : operators stop (fuel + 1) level f ts = .ok (f, ts) := by
  cases ends with
  | nothing | paren | bracket => rw [operators] <;> rfl
  | operator i ts loose =>
      rw [operators]
      simp [Operator.token_operator, Nat.ne_of_lt loose]

theorem suffixes_end (ends : Ends level ts) : suffixes stop (fuel + 1) f ts = .ok (f, ts) := by
  cases ends with
  | nothing | paren | bracket => simp [suffixes]
  | @operator i op ts _ => cases op <;> simp [suffixes, Operator.token]

theorem continuation_end (ends : Ends level ts) : continuation stop (fuel + 1) level f ts = .ok (f, ts) := by
  unfold continuation
  split
  · exact operators_end ends
  · exact suffixes_end ends

theorem continuation_operand : continuation stop fuel operandLevel f ts = suffixes stop fuel f ts :=
  if_neg (Nat.lt_irrefl _)

theorem continuation_operator (op : Operator) :
    continuation stop fuel op.level f ts = operators stop fuel op.level f ts :=
  if_pos op.level_below_operand

theorem expression_below (low : level < operandLevel) : expression stop (fuel + 1) level ts =
    expression stop fuel (level + 1) ts >>= fun (left, ts) => continuation stop fuel level left ts := by
  simp only [expression, continuation, low, if_true]

theorem expression_operand : expression stop (fuel + 1) operandLevel ts =
    operand stop fuel ts >>= fun (base, ts) => continuation stop fuel operandLevel base ts := by
  simp only [expression, continuation, Nat.lt_irrefl, if_false]

theorem suffixes_opening {opening : Tokens} (opens : Opening opening) :
    suffixes stop (fuel + 1) f (opening ++ ts) =
      bracket stop fuel f ts >>= fun (e, rest) => suffixes stop fuel e rest := by
  cases opens <;> rfl

end

-- From the tokens of a filter and what follows them, reading at a level comes to the result that reading on
-- behind the filter has, with fuel for that and twelve more for each token and one for each tighter level.
def Reads (stop level : Nat) (f : Filter) (ts : Tokens) : Prop :=
  ∀ rest n result, Follows level f rest →
    (∀ fuel, n < fuel → continuation stop fuel level f rest = result) →
    ∀ fuel, n + 12 * ts.length + (operandLevel - level) < fuel →
      expression stop fuel level (ts ++ rest) = result

section

variable {stop level fuel : Nat} {f : Filter} {ts rest : Tokens}

theorem Reads.at_end (reads : Reads stop level f ts) (ends : Ends level rest)
    (enough : 12 * ts.length + (operandLevel - level) < fuel) :
    expression stop fuel level (ts ++ rest) = .ok (f, rest) := by
  refine reads rest 0 _ (.ends ends) (fun fuel positive => ?_) fuel (by omega)
  obtain ⟨fuel, rfl⟩ := Nat.exists_eq_add_of_le' positive
  exact continuation_end ends

theorem Reads.whole (reads : Reads stop 0 f ts) (ends : Ends 0 rest) (enough : 12 * (ts.length + 1) ≤ fuel) :
    expression stop fuel 0 (ts ++ rest) = .ok (f, rest) :=
  reads.at_end ends (by simp only [operandLevel]; omega)

-- At a looser level operators of that level can follow.
theorem Reads.below (reads : Reads stop (level + 1) f ts) (low : level < operandLevel) :
    Reads stop level f ts := by
  intro rest n result follows behind fuel enough
  obtain ⟨fuel, rfl⟩ : ∃ k, fuel = k + 1 := ⟨fuel - 1, by omega⟩
  rw [expression_below low, reads.at_end (follows.ends_above low) (by omega)]
  exact behind fuel (by omega)

theorem Reads.far_below {tight : Nat} (reads : Reads stop tight f ts) (bounded : tight ≤ operandLevel)
    (looser : level ≤ tight) : Reads stop level f ts := by
  induction looser with
  | refl => exact reads
  | step _ ih => exact ih (reads.below bounded) (Nat.le_of_succ_le bounded)

theorem Reads.as_operand (reads : Reads stop operandLevel f ts) (low : level ≤ operandLevel) :
    Reads stop level f ts :=
  reads.far_below (Nat.le_refl _) low

theorem Reads.of_operand (written : ts ≠ [])
    (read : ∀ rest, Follows operandLevel f rest → ∀ fuel, 12 * ts.length ≤ fuel →
      operand stop fuel (ts ++ rest) = .ok (f, rest)) : Reads stop operandLevel f ts := by
  intro rest n result follows behind fuel enough
  have some : 0 < ts.length := List.length_pos_iff.mpr written
  obtain ⟨fuel, rfl⟩ : ∃ k, fuel = k + 1 := ⟨fuel - 1, by omega⟩
  rw [expression_operand, read rest follows fuel (by omega)]
  exact behind fuel (by omega)

theorem Reads.of_token {i : Nat} {t : Token}
    (read : ∀ rest, Follows operandLevel f rest → ∀ fuel,
      operand stop (fuel + 1) ((i, t) :: rest) = .ok (f, rest)) : Reads stop operandLevel f [(i, t)] := by
  refine .of_operand (List.cons_ne_nil _ _) fun rest follows fuel enough => ?_
  obtain ⟨fuel, rfl⟩ : ∃ k, fuel = k + 1 := ⟨fuel - 1, by simp at enough; omega⟩
  exact read rest follows fuel

theorem operand_identity (i : Nat) (follows : Follows operandLevel .identity rest) :
    operand stop (fuel + 1) ((i, .dot) :: rest) = .ok (.identity, rest) := by
  cases follows with
  | ends ends =>
      cases ends with
      | nothing | paren | bracket => simp [operand]
      | @operator j op ts _ => cases op <;> simp [operand, Operator.token]
  | @operator _ _ j op ts _ _ => cases op <;> simp [operand, Operator.token]
  | field | question | point => simp [operand]
  | bracket _ _ other => exact absurd rfl other

theorem Follows.no_paren {i : Nat} {more : Tokens} (follows : Follows level f ts) :
    ts ≠ (i, .leftParen) :: more := by
  intro same
  cases follows with
  | ends ends =>
      cases ends with
      | @operator _ op _ _ => cases op <;> cases same
      | _ => cases same
  | @operator _ _ _ op _ _ _ => cases op <;> cases same
  | _ => cases same

theorem operand_word {f : Builtin} (i : Nat) (taken : f.takes 0 = true)
    (follows : Follows operandLevel (.call f []) rest) :
    operand stop (fuel + 1) ((i, .ident f.name) :: rest) = .ok (.call f [], rest) := by
  have called : callOf stop f.name [] rest = .ok (.call f [], rest) := by
    simp only [callOf, List.length_nil, Builtin.lookup_name taken]
  simp only [operand, Builtin.name_no_literal]
  split
  · exact absurd rfl follows.no_paren
  · exact called

theorem written_head (written : Written level f ts) :
    ∃ first more, ts = first :: more ∧ first.2 ≠ .rightBracket := by
  induction written with
  | field _ _ _ ih | index _ _ _ _ ih _ | iterate _ _ _ ih | attempt _ _ ih | binary _ _ _ _ ih _ =>
      obtain ⟨first, more, rfl, other⟩ := ih
      exact ⟨first, _, rfl, other⟩
  | _ => exact ⟨_, _, rfl, by simp⟩

theorem bracket_position {base position : Filter} {us : Tokens} (i : Nat) (written : Written 0 position us)
    (reads : Reads stop 0 position us) (enough : 12 * (us.length + 1) ≤ fuel + 1) :
    bracket stop (fuel + 1) base (us ++ (i, .rightBracket) :: rest) = .ok (.index base position, rest) := by
  have inside := reads.at_end (.bracket i rest) (show 12 * us.length + operandLevel < fuel by
    simp only [operandLevel]; omega)
  obtain ⟨first, more, rfl, other⟩ := written_head written
  rw [bracket, inside]
  · rfl
  · rintro j us same
    cases same
    exact other rfl

theorem Reads.parenthesized (i j : Nat) (inside : Reads stop 0 f ts) :
    Reads stop operandLevel f ((i, .leftParen) :: (ts ++ [(j, .rightParen)])) := by
  refine .of_operand (List.cons_ne_nil _ _) fun rest _ fuel enough => ?_
  simp only [List.length_cons, List.length_append, List.length_nil] at enough
  obtain ⟨fuel, rfl⟩ : ∃ k, fuel = k + 1 := ⟨fuel - 1, by omega⟩
  have read : expression stop fuel 0 (ts ++ (j, .rightParen) :: rest) = .ok (f, (j, .rightParen) :: rest) :=
    inside.whole (.paren j rest) (by omega)
  rw [List.cons_append, List.append_assoc, List.singleton_append, operand, read]
  rfl

theorem Reads.collect (i j : Nat) (written : Written 0 f ts) (inside : Reads stop 0 f ts) :
    Reads stop operandLevel (.collect f) ((i, .leftBracket) :: (ts ++ [(j, .rightBracket)])) := by
  refine .of_operand (List.cons_ne_nil _ _) fun rest _ fuel enough => ?_
  simp only [List.length_cons, List.length_append, List.length_nil] at enough
  obtain ⟨fuel, rfl⟩ : ∃ k, fuel = k + 1 := ⟨fuel - 1, by omega⟩
  have read : expression stop fuel 0 (ts ++ (j, .rightBracket) :: rest) = .ok (f, (j, .rightBracket) :: rest) :=
    inside.whole (.bracket j rest) (by omega)
  obtain ⟨first, more, rfl, other⟩ := written_head written
  rw [List.cons_append, List.append_assoc, List.singleton_append, operand, read]
  · rfl
  · rintro k us same
    cases same
    exact other rfl

theorem Reads.call {b : Builtin} (i j k : Nat) (taken : b.takes 1 = true) (inside : Reads stop 0 f ts) :
    Reads stop operandLevel (.call b [f])
      ((i, .ident b.name) :: (j, .leftParen) :: (ts ++ [(k, .rightParen)])) := by
  refine .of_operand (List.cons_ne_nil _ _) fun rest _ fuel enough => ?_
  simp only [List.length_cons, List.length_append, List.length_nil] at enough
  obtain ⟨fuel, rfl⟩ : ∃ k, fuel = k + 2 := ⟨fuel - 2, by omega⟩
  have read : expression stop fuel 0 (ts ++ (k, .rightParen) :: rest) = .ok (f, (k, .rightParen) :: rest) :=
    inside.whole (.paren k rest) (by omega)
  have listed : arguments stop (fuel + 1) [] (ts ++ (k, .rightParen) :: rest) = .ok ([f], rest) := by
    rw [arguments, read]
    rfl
  have called : callOf stop b.name [f] rest = .ok (.call b [f], rest) := by
    simp only [callOf, List.length_singleton, Builtin.lookup_name taken]
  simp only [List.cons_append, List.append_assoc, List.nil_append, operand, Builtin.name_no_literal]
  rw [listed]
  exact called

theorem Reads.suffix {e : Filter} {i : Nat} {t : Token} (reads : Reads stop operandLevel f ts)
    (follows : ∀ rest, Follows operandLevel f ((i, t) :: rest))
    (step : ∀ rest fuel, suffixes stop (fuel + 1) f ((i, t) :: rest) = suffixes stop fuel e rest) :
    Reads stop operandLevel e (ts ++ [(i, t)]) := by
  intro rest n result _ behind fuel enough
  rw [List.append_assoc, List.singleton_append]
  refine reads _ (n + 1) result (follows rest) (fun fuel more => ?_) fuel ?_
  · obtain ⟨fuel, rfl⟩ : ∃ k, fuel = k + 1 := ⟨fuel - 1, by omega⟩
    rw [continuation_operand, step, ← continuation_operand]
    exact behind fuel (by omega)
  · simp only [List.length_append, List.length_singleton] at enough
    omega

theorem Follows.of_opening {opening : Tokens} (opens : Opening opening)
    (other : f = .identity → ∀ i, opening ≠ [(i, .leftBracket)]) : Follows operandLevel f (opening ++ rest) := by
  cases opens with
  | bracket i => exact .bracket i rest fun identity => other identity i rfl
  | point i j => exact .point i j rest

theorem Reads.bracketed {e : Filter} {opening us : Tokens} (written : Written operandLevel f ts)
    (reads : Reads stop operandLevel f ts) (opens : Opening opening)
    (inside : ∀ rest fuel, 12 * us.length ≤ fuel → bracket stop fuel f (us ++ rest) = .ok (e, rest)) :
    Reads stop operandLevel e (ts ++ (opening ++ us)) := by
  by_cases own : f = .identity ∧ ∃ i, opening = [(i, .leftBracket)]
  · obtain ⟨rfl, j, rfl⟩ := own
    cases written with
    | identity i =>
        refine .of_operand (List.cons_ne_nil _ _) fun rest _ fuel enough => ?_
        simp only [List.length_cons, List.length_append, List.length_nil] at enough
        obtain ⟨fuel, rfl⟩ : ∃ k, fuel = k + 1 := ⟨fuel - 1, by omega⟩
        exact inside rest fuel (by omega)
  · intro rest n result _ behind fuel enough
    rw [List.append_assoc, List.append_assoc]
    refine reads _ (n + 12 * us.length + 1) result (.of_opening opens ?_) (fun fuel more => ?_) fuel ?_
    · rintro rfl i rfl
      exact own ⟨rfl, i, rfl⟩
    · obtain ⟨fuel, rfl⟩ : ∃ k, fuel = k + 1 := ⟨fuel - 1, by omega⟩
      rw [continuation_operand, suffixes_opening opens, inside rest fuel (by omega)]
      refine (continuation_operand).symm.trans (behind fuel (by omega))
    · have some : 0 < opening.length := by cases opens <;> simp
      simp only [List.length_append] at enough
      omega

end

section

variable {stop fuel : Nat} {op : Operator} {left right : Filter} {ts us rest : Tokens}

theorem operators_left (i : Nat) (grouping : op.associativity = .left) :
    operators stop (fuel + 1) op.level left ((i, op.token) :: ts) =
      expression stop fuel (op.level + 1) ts >>= fun (right, ts) =>
        operators stop fuel op.level (.binary op left right) ts := by
  rw [operators]
  simp only [op.token_operator, if_true, grouping]

theorem operators_right (i : Nat) (grouping : op.associativity = .right) :
    operators stop (fuel + 1) op.level left ((i, op.token) :: ts) =
      (expression stop fuel op.level ts).map fun (right, ts) => (.binary op left right, ts) := by
  rw [operators]
  simp only [op.token_operator, if_true, grouping]
  rfl

theorem operators_none (i : Nat) (grouping : op.associativity = .none) :
    operators stop (fuel + 1) op.level left ((i, op.token) :: ts) =
      (expression stop fuel (op.level + 1) ts).map fun (right, ts) => (.binary op left right, ts) := by
  rw [operators]
  simp only [op.token_operator, if_true, grouping]
  rfl

theorem Reads.binary_left (i : Nat) (grouping : op.associativity = .left) (before : Reads stop op.level left ts)
    (behind : Reads stop (op.level + 1) right us) :
    Reads stop op.level (.binary op left right) (ts ++ (i, op.token) :: us) := by
  intro rest n result follows more fuel enough
  rw [List.append_assoc, List.cons_append]
  simp only [List.length_append, List.length_cons] at enough
  have low := op.level_below_operand
  refine before _ (n + 12 * us.length + operandLevel + 1) result (.operator i _ rfl grouping)
    (fun fuel enough => ?_) fuel (by simp only [operandLevel] at enough ⊢; omega)
  obtain ⟨fuel, rfl⟩ : ∃ k, fuel = k + 1 := ⟨fuel - 1, by omega⟩
  rw [continuation_operator, operators_left i grouping, behind.at_end (follows.ends_above low) (by omega)]
  exact (continuation_operator op).symm.trans (more fuel (by omega))

theorem Reads.binary_once {level : Nat} (i : Nat) (other : op.associativity ≠ .left)
    (near : level = op.level ∨ level = op.level + 1)
    (once : ∀ fuel ts, operators stop (fuel + 1) op.level left ((i, op.token) :: ts) =
      (expression stop fuel level ts).map fun (right, ts) => (.binary op left right, ts))
    (before : Reads stop (op.level + 1) left ts) (behind : Reads stop level right us) :
    Reads stop op.level (.binary op left right) (ts ++ (i, op.token) :: us) := by
  intro rest n result follows more fuel enough
  rw [List.append_assoc, List.cons_append]
  simp only [List.length_append, List.length_cons] at enough
  have low := op.level_below_operand
  have ends := follows.ends_at rfl other
  have closes : Ends level rest := by
    rcases near with rfl | rfl
    · exact ends
    · exact ends.above
  obtain ⟨fuel, rfl⟩ : ∃ k, fuel = k + 2 := ⟨fuel - 2, by omega⟩
  rw [expression_below low, before.at_end (.operator i _ (Nat.lt_succ_self _)) (by omega)]
  change continuation stop (fuel + 1) op.level left ((i, op.token) :: (us ++ rest)) = result
  rw [continuation_operator, once, behind.at_end closes (by simp only [operandLevel] at enough ⊢; omega),
    ← more (n + 1) (Nat.lt_succ_self n), continuation_end ends]
  rfl

theorem Reads.binary (i : Nat) (before : Reads stop op.binding.before left ts)
    (behind : Reads stop op.binding.behind right us) :
    Reads stop op.binding.own (.binary op left right) (ts ++ (i, op.token) :: us) := by
  rw [op.binding_own]
  cases grouping : op.associativity with
  | left =>
      rw [(Operator.binding_left grouping).1] at before
      rw [(Operator.binding_left grouping).2] at behind
      exact .binary_left i grouping before behind
  | right =>
      rw [(Operator.binding_right grouping).1] at before
      rw [(Operator.binding_right grouping).2] at behind
      exact .binary_once i (by simp [grouping]) (.inl rfl) (fun _ _ => operators_right i grouping) before behind
  | none =>
      rw [(Operator.binding_none grouping).1] at before
      rw [(Operator.binding_none grouping).2] at behind
      exact .binary_once i (by simp [grouping]) (.inr rfl) (fun _ _ => operators_none i grouping) before behind

end

section

variable {level stop : Nat} {f : Filter} {ts : Tokens}

-- By induction on how the filter is written: all but operators are read as operands, and so at every looser
-- level; parentheses and brackets start again at the loosest.
theorem written_reads (written : Written level f ts) (low : level ≤ operandLevel) : Reads stop level f ts := by
  induction written with
  | identity i => exact Reads.as_operand (.of_token fun _ follows _ => operand_identity i follows) low
  | recurse | null | yes | no | text | number | ownField =>
      exact Reads.as_operand (.of_token fun _ _ _ => by simp [operand, literalOfWord?]) low
  | negative | emptyArray =>
      refine Reads.as_operand (.of_operand (List.cons_ne_nil _ _) fun rest _ fuel enough => ?_) low
      obtain ⟨fuel, rfl⟩ : ∃ k, fuel = k + 1 := ⟨fuel - 1, by simp at enough; omega⟩
      simp [operand]
  | field i name _ base =>
      refine Reads.as_operand ((base (Nat.le_refl _)).suffix (fun _ => .field i name _) fun _ _ => ?_) low
      rw [suffixes]
  | attempt i _ inner =>
      refine Reads.as_operand ((inner (Nat.le_refl _)).suffix (fun _ => .question i _) fun _ _ => ?_) low
      rw [suffixes]
  | @index _ _ _ _ _ us i below opens inside base position =>
      refine Reads.as_operand (.bracketed below (base (Nat.le_refl _)) opens fun rest fuel enough => ?_) low
      simp only [List.length_append, List.length_singleton] at enough
      obtain ⟨fuel, rfl⟩ : ∃ k, fuel = k + 1 := ⟨fuel - 1, by omega⟩
      rw [List.append_assoc, List.singleton_append]
      exact bracket_position i inside (position (Nat.zero_le _)) enough
  | iterate i below opens base =>
      refine Reads.as_operand (.bracketed below (base (Nat.le_refl _)) opens fun rest fuel enough => ?_) low
      obtain ⟨fuel, rfl⟩ : ∃ k, fuel = k + 1 := ⟨fuel - 1, by simp at enough; omega⟩
      rfl
  | collect i j inside inner => exact Reads.as_operand (.collect i j inside (inner (Nat.zero_le _))) low
  | word i taken => exact Reads.as_operand (.of_token fun _ follows _ => operand_word i taken follows) low
  | call i j k taken _ arg => exact Reads.as_operand (.call i j k taken (arg (Nat.zero_le _))) low
  | @binary _ op _ _ _ _ i tight _ _ left right =>
      have bounded := op.binding_bounded
      exact (Reads.binary i (left bounded.2.1) (right bounded.2.2)).far_below bounded.1 tight
  | parenthesized i j _ _ inner => exact Reads.as_operand (.parenthesized i j (inner (Nat.zero_le _))) low

theorem of_tokens_written (stop : Nat) (written : Written 0 f ts) : ofTokens stop ts = .ok f := by
  have read : expression stop (fuelFor ts) 0 (ts ++ []) = .ok (f, []) :=
    (written_reads written (Nat.zero_le _)).whole .nothing (Nat.le_refl _)
  rw [List.append_nil] at read
  rw [ofTokens, read]
  rfl

end

theorem parse_written {expr : String} {f : Filter} (read : parse expr = .ok f) :
    (∃ ts, Written 0 f ts) ∧ ∀ stop ts, Written 0 f ts → ofTokens stop ts = .ok f :=
  ⟨readable_written (parse_readable read) 0, fun stop _ written => of_tokens_written stop written⟩

def attemptedPipe : Filter := .attempt (.binary .pipe (.field .identity "a") (.field .identity "b"))

theorem attempted_pipe_written : parse "(.a|.b)?" = .ok attemptedPipe ∧
    (∃ ts, Written 0 attemptedPipe ts) ∧
      ∀ stop ts, Written 0 attemptedPipe ts → ofTokens stop ts = .ok attemptedPipe := by
  have scanned : (Token.tokens 0 "(.a|.b)?".toList).toOption = some [(0, .leftParen), (1, .field "a"),
      (3, .pipe), (4, .field "b"), (6, .rightParen), (7, .question)] := by
    decide +kernel
  have read : parse "(.a|.b)?" = .ok attemptedPipe := by
    cases found : Token.tokens 0 "(.a|.b)?".toList with
    | error e =>
        rw [found] at scanned
        cases scanned
    | ok ts =>
        rw [found] at scanned
        cases scanned
        rw [parse, found]
        rfl
  exact ⟨read, parse_written read⟩

end LiveTable.Filter
