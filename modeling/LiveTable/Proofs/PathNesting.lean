import LiveTable.Proofs.FilterSpelling
import LiveTable.Proofs.Trimming
import LiveTable.Query.ColumnSpec

namespace LiveTable

namespace ColumnSpec

open LiveTable.Text

-- Characters that leave the search as deep and as far outside of quotes as it was.
def Neutral (cs : List Char) : Prop := ∀ depth, cs.foldl Scan.push ⟨depth, none⟩ = ⟨depth, none⟩

theorem neutral_nil : Neutral [] := fun _ => rfl

theorem neutral_append {before behind : List Char} (first : Neutral before) (second : Neutral behind) :
    Neutral (before ++ behind) := by
  intro depth
  rw [List.foldl_append, first, second]

theorem neutral_chains : Chains Neutral := ⟨neutral_nil, neutral_append⟩

theorem neutral_quiet {c : Char} (quiet : isQuiet c = true) : Neutral [c] := by
  intro depth
  simp only [isQuiet, marks, List.contains_cons, List.contains_nil, Bool.not_eq_true', Bool.or_eq_false_iff,
    beq_eq_false_iff_ne] at quiet
  simp [Scan.push, quiet]

theorem neutral_plain {cs : List Char} (quiet : ∀ c ∈ cs, isQuiet c = true) : Neutral cs := by
  induction cs with
  | nil => exact neutral_nil
  | cons c rest ih =>
      rw [List.forall_mem_cons] at quiet
      exact neutral_append (neutral_quiet quiet.1) (ih quiet.2)

theorem neutral_pair {opener closer : Char} {inner : List Char}
    (pair : (opener, closer) ∈ [('(', ')'), ('[', ']'), ('\x7b', '\x7d')]) (inside : Neutral inner) :
    Neutral (opener :: (inner ++ [closer])) := by
  intro depth
  have opens : Scan.push ⟨depth, none⟩ opener = ⟨depth + 1, none⟩ := by
    simp at pair
    rcases pair with ⟨rfl, _⟩ | ⟨rfl, _⟩ | ⟨rfl, _⟩ <;> rfl
  have closes : Scan.push ⟨depth + 1, none⟩ closer = ⟨depth + 1 - 1, none⟩ := by
    simp at pair
    rcases pair with ⟨_, rfl⟩ | ⟨_, rfl⟩ | ⟨_, rfl⟩ <;> rfl
  rw [List.foldl_cons, opens, List.foldl_append, inside, List.foldl_cons, closes, List.foldl_nil,
    Int.add_sub_cancel]

theorem neutral_quoted {quote : Char} {inner : List Char} (quotes : quote = '\'' ∨ quote = '"')
    (free : quote ∉ inner) : Neutral (quote :: (inner ++ [quote])) := by
  intro depth
  have opens : Scan.push ⟨depth, none⟩ quote = ⟨depth, some quote⟩ := by
    rcases quotes with rfl | rfl <;> rfl
  have stays : inner.foldl Scan.push ⟨depth, some quote⟩ = ⟨depth, some quote⟩ := by
    clear opens
    induction inner with
    | nil => rfl
    | cons c rest ih =>
        rw [List.mem_cons, not_or] at free
        have kept : Scan.push ⟨depth, some quote⟩ c = ⟨depth, some quote⟩ := if_neg (Ne.symm free.1)
        rw [List.foldl_cons, kept, ih free.2]
  have closes : Scan.push ⟨depth, some quote⟩ quote = ⟨depth, none⟩ := if_pos rfl
  rw [List.foldl_cons, opens, List.foldl_append, stays, List.foldl_cons, closes, List.foldl_nil]

end ColumnSpec

namespace Path

open LiveTable.Text LiveTable.Path.Parser
open LiveTable.ColumnSpec (Neutral neutral_chains neutral_quiet neutral_plain neutral_append
  neutral_pair neutral_quoted)

def Literal.text? : Literal → Option String
  | text s => some s
  | _ => none

mutual

def Step.texts : Step → List String
  | .child name | .descend name => [name]
  | .matching path test => textsOf path ++ (test.bind (·.2.text?)).toList
  | .index _ | .slice _ _ | .children => []

def textsOf : List Step → List String
  | [] => []
  | step :: rest => step.texts ++ textsOf rest

end

def Unmarked (texts : List String) : Prop := ∀ s ∈ texts, ∀ c ∈ s.toList, isQuiet c = true

theorem unmarked_append {first second : List String} :
    Unmarked (first ++ second) ↔ Unmarked first ∧ Unmarked second := by
  simp only [Unmarked, List.mem_append, or_imp, forall_and]

theorem unmarked_chars {cs : List Char} : Unmarked [String.ofList cs] ↔ ∀ c ∈ cs, isQuiet c = true := by
  simp [Unmarked]

variable {stop fuel : Nat} {cs rest : List Char}

theorem map_ok {ε α β : Type} {f : α → β} {x : Except ε α} {b : β} (mapped : x.map f = .ok b) :
    ∃ a, x = .ok a ∧ f a = b := by
  cases x with
  | error e => cases mapped
  | ok a => exact ⟨a, rfl, Except.ok.inj mapped⟩

theorem takes_quiet {c : Char} (quiet : isQuiet c = true) (more : Takes Neutral cs rest) :
    Takes Neutral (c :: cs) rest :=
  .cons neutral_chains (neutral_quiet quiet) more

theorem takes_run {p : Char → Bool} (apart : marks.any p = false) (cs : List Char) :
    Takes Neutral cs (cs.dropWhile p) :=
  ⟨cs.takeWhile p, List.takeWhile_append_dropWhile.symm, neutral_plain (quiet_run apart cs)⟩

theorem takes_skip (cs : List Char) : Takes Neutral cs (skip cs) := takes_run (by decide) cs

theorem expect_read {c : Char} (read : expect stop c cs = .ok rest) : cs = c :: rest := by
  unfold expect at read
  split at read
  · split at read
    · rename_i same
      cases read
      rw [same]
    · cases read
  · cases read

theorem takes_pair {opener closer : Char} (pair : (opener, closer) ∈ [('(', ')'), ('[', ']'), ('\x7b', '\x7d')])
    (inside : Takes Neutral cs (closer :: rest)) : Takes Neutral (opener :: cs) rest := by
  obtain ⟨inner, rfl, neutral⟩ := inside
  exact ⟨opener :: (inner ++ [closer]), by simp, neutral_pair pair neutral⟩

theorem takes_name {found : List Char} (read : scanName stop cs = .ok (found, rest))
    (quiet : ∀ c ∈ found, isQuiet c = true) : Takes Neutral cs rest := by
  fun_induction scanName stop cs generalizing found rest with
  | case1 =>
      cases read
      exact .refl neutral_chains _
  | case2 c cs ih =>
      obtain ⟨⟨more, after⟩, scanned, same⟩ := map_ok read
      cases same
      rw [List.forall_mem_cons] at quiet
      exact takes_quiet (by decide) (takes_quiet quiet.1 (ih scanned quiet.2))
  | case3 => cases read
  | case4 =>
      cases read
      exact .refl neutral_chains _
  | case5 c cs _ _ _ ih =>
      obtain ⟨⟨more, after⟩, scanned, same⟩ := map_ok read
      cases same
      rw [List.forall_mem_cons] at quiet
      exact takes_quiet quiet.1 (ih scanned quiet.2)

theorem name_read {found : String} (read : name stop cs = .ok (found, rest)) (quiet : Unmarked [found]) :
    Takes Neutral cs rest := by
  obtain ⟨⟨chars, after⟩, scanned, read⟩ := bind_ok.mp read
  dsimp only at read
  split at read
  · cases read
  · cases read
    exact takes_name scanned (unmarked_chars.mp quiet)

theorem child_read {step : Step} (read : child stop cs = .ok (step, rest)) (quiet : Unmarked step.texts) :
    Takes Neutral cs rest := by
  unfold child at read
  split at read
  · cases read
    exact takes_quiet (by decide) (.refl neutral_chains _)
  · obtain ⟨⟨found, after⟩, named, same⟩ := map_ok read
    cases same
    exact name_read named (by simpa [Step.texts] using quiet)

theorem scan_quoted_ends {quote : Char} {text : List Char} (read : scanQuoted stop quote cs = .ok (text, rest))
    (plain : quote ≠ '\\') (free : quote ∉ text) : ∃ raw, cs = raw ++ quote :: rest ∧ quote ∉ raw := by
  fun_induction scanQuoted stop quote cs generalizing text rest with
  | case1 => cases read
  | case2 c cs ih =>
      obtain ⟨⟨more, after⟩, scanned, same⟩ := map_ok read
      cases same
      rw [List.mem_cons, not_or] at free
      obtain ⟨raw, rfl, behind⟩ := ih scanned free.2
      exact ⟨'\\' :: c :: raw, rfl, by simp [plain, free.1, behind]⟩
  | case3 => cases read
  | case4 =>
      cases read
      exact ⟨[], rfl, List.not_mem_nil⟩
  | case5 c cs _ _ other ih =>
      obtain ⟨⟨more, after⟩, scanned, same⟩ := map_ok read
      cases same
      rw [List.mem_cons, not_or] at free
      obtain ⟨raw, rfl, behind⟩ := ih scanned free.2
      exact ⟨c :: raw, rfl, by simp [free.1, behind]⟩

theorem quoted_read {quote : Char} {found : String} (read : quoted stop quote cs = .ok (found, rest))
    (quotes : quote = '\'' ∨ quote = '"') (quiet : Unmarked [found]) : Takes Neutral (quote :: cs) rest := by
  obtain ⟨⟨text, after⟩, scanned, same⟩ := map_ok read
  cases same
  rw [unmarked_chars] at quiet
  have free : quote ∉ text := by
    intro member
    have silent := quiet quote member
    rcases quotes with rfl | rfl <;> exact absurd silent (by decide)
  obtain ⟨raw, rfl, apart⟩ := scan_quoted_ends scanned (by rcases quotes with rfl | rfl <;> decide) free
  exact ⟨quote :: (raw ++ [quote]), by simp, neutral_quoted quotes apart⟩

theorem integer_read {i : Option Int} (read : integer stop cs = .ok (i, rest)) : Takes Neutral cs rest := by
  have digits (cs : List Char) : Takes Neutral cs (cs.dropWhile Reading.isDigit) := takes_run (by decide) cs
  unfold integer at read
  dsimp only at read
  split at read
  all_goals
    split at read
    · cases read
      first
      | exact takes_quiet (by decide) (digits _)
      | exact digits _
    · split at read
      · cases read
        first
        | exact takes_quiet (by decide) (digits _)
        | exact digits _
      · cases read

theorem index_or_slice_read {step : Step} (read : indexOrSlice stop cs = .ok (step, rest)) :
    Takes Neutral cs rest := by
  obtain ⟨⟨first, after⟩, whole, read⟩ := bind_ok.mp read
  have before := Takes.trans neutral_chains (integer_read whole) (takes_skip after)
  dsimp only at read
  split at read
  · rename_i colon
    obtain ⟨⟨last, behind⟩, second, read⟩ := bind_ok.mp read
    cases read
    rw [colon] at before
    have bound := Takes.trans neutral_chains (takes_skip _) (integer_read second)
    exact .trans neutral_chains before (takes_quiet (by decide) bound)
  · cases read
    exact before
  · cases read

theorem comparison_read {c : Comparison} (found : comparison? cs = some (c, rest)) : Takes Neutral cs rest := by
  unfold comparison? at found
  split at found <;> cases found
  iterate 4 exact takes_quiet (by decide) (takes_quiet (by decide) (.refl neutral_chains _))
  iterate 2 exact takes_quiet (by decide) (.refl neutral_chains _)

theorem literal_read {found : Literal} (read : literal stop cs = .ok (found, rest))
    (quiet : Unmarked found.text?.toList) : Takes Neutral cs rest := by
  unfold literal at read
  split at read
  · obtain ⟨⟨text, after⟩, ended, same⟩ := map_ok read
    cases same
    exact quoted_read ended (.inl rfl) quiet
  · obtain ⟨⟨text, after⟩, ended, same⟩ := map_ok read
    cases same
    exact quoted_read ended (.inr rfl) quiet
  · dsimp only at read
    split at read
    · cases read
    · split at read
      · cases read
        exact takes_run (by decide) cs
      · cases read

theorem test_read {found : Option (Comparison × Literal)} (read : test stop cs = .ok (found, rest))
    (quiet : Unmarked (found.bind (·.2.text?)).toList) : Takes Neutral cs rest := by
  unfold test at read
  split at read
  · cases read
    exact .refl neutral_chains _
  · rename_i compared
    obtain ⟨⟨against, after⟩, value, same⟩ := map_ok read
    cases same
    have behind := Takes.trans neutral_chains (takes_skip _) (literal_read value quiet)
    exact .trans neutral_chains (comparison_read compared) behind

-- All that is read with so much fuel is neutral, if the texts in it are unmarked.
structure ReadsNeutral (stop fuel : Nat) : Prop where
  bracket : ∀ {cs step rest}, bracket stop fuel cs = .ok (step, rest) → Unmarked step.texts →
    Takes Neutral cs (']' :: rest)
  bracketed : ∀ {cs step rest}, bracketed stop fuel cs = .ok (step, rest) → Unmarked step.texts →
    Takes Neutral cs rest
  conditionPath : ∀ {cs steps rest}, conditionPath stop fuel cs = .ok (steps, rest) → Unmarked (textsOf steps) →
    Takes Neutral cs rest

theorem neutral_bracket (ih : ReadsNeutral stop fuel) {step : Step}
    (read : bracket stop (fuel + 1) cs = .ok (step, rest)) (quiet : Unmarked step.texts) :
    Takes Neutral cs (']' :: rest) := by
  rw [bracket] at read
  obtain ⟨⟨inner, after⟩, inside, read⟩ := bind_ok.mp read
  obtain ⟨behind, closing, read⟩ := bind_ok.mp read
  cases read
  have up := Takes.trans neutral_chains (ih.bracketed inside quiet) (takes_skip after)
  rw [expect_read closing] at up
  exact .trans neutral_chains (takes_skip cs) up

theorem neutral_bracketed (ih : ReadsNeutral stop fuel) {step : Step}
    (read : bracketed stop (fuel + 1) cs = .ok (step, rest)) (quiet : Unmarked step.texts) :
    Takes Neutral cs rest := by
  rw [bracketed.eq_def] at read
  dsimp only at read
  split at read
  · cases read
    exact takes_quiet (by decide) (.refl neutral_chains _)
  · obtain ⟨⟨text, after⟩, ended, same⟩ := map_ok read
    cases same
    exact quoted_read ended (.inl rfl) (by simpa [Step.texts] using quiet)
  · obtain ⟨⟨text, after⟩, ended, same⟩ := map_ok read
    cases same
    exact quoted_read ended (.inr rfl) (by simpa [Step.texts] using quiet)
  · obtain ⟨inner, opening, read⟩ := bind_ok.mp read
    obtain ⟨current, here, read⟩ := bind_ok.mp read
    obtain ⟨⟨path, condition⟩, inside, read⟩ := bind_ok.mp read
    obtain ⟨⟨found, after⟩, tested, read⟩ := bind_ok.mp read
    obtain ⟨behind, closing, read⟩ := bind_ok.mp read
    cases read
    rw [Step.texts, unmarked_append] at quiet
    have start := takes_skip inner
    rw [expect_read here] at start
    have root := Takes.trans neutral_chains start (takes_quiet (by decide) (.refl neutral_chains current))
    have value := Takes.trans neutral_chains (takes_skip condition) (test_read tested quiet.2)
    have last := takes_skip after
    rw [expect_read closing] at last
    have whole := Takes.trans neutral_chains (ih.conditionPath inside quiet.1) (.trans neutral_chains value last)
    rw [expect_read opening]
    exact takes_quiet (by decide) (takes_pair (by decide) (.trans neutral_chains root whole))
  · exact index_or_slice_read read

theorem neutral_condition_path (ih : ReadsNeutral stop fuel) {steps : List Step}
    (read : conditionPath stop (fuel + 1) cs = .ok (steps, rest)) (quiet : Unmarked (textsOf steps)) :
    Takes Neutral cs rest := by
  rw [conditionPath.eq_def] at read
  dsimp only at read
  split at read
  · obtain ⟨⟨step, after⟩, first, read⟩ := bind_ok.mp read
    obtain ⟨⟨more, behind⟩, second, read⟩ := bind_ok.mp read
    cases read
    rw [textsOf, unmarked_append] at quiet
    have both := Takes.trans neutral_chains (child_read first quiet.1) (ih.conditionPath second quiet.2)
    exact takes_quiet (by decide) both
  · obtain ⟨⟨step, after⟩, first, read⟩ := bind_ok.mp read
    obtain ⟨⟨more, behind⟩, second, read⟩ := bind_ok.mp read
    cases read
    rw [textsOf, unmarked_append] at quiet
    exact .trans neutral_chains (takes_pair (by decide) (ih.bracket first quiet.1)) (ih.conditionPath second quiet.2)
  · cases read
    exact .refl neutral_chains _

theorem reads_neutral (stop fuel : Nat) : ReadsNeutral stop fuel := by
  induction fuel with
  | zero => constructor <;> intros <;> contradiction
  | succ fuel ih => exact ⟨neutral_bracket ih, neutral_bracketed ih, neutral_condition_path ih⟩

theorem neutral_steps {found : List Step} (read : Parser.steps stop fuel cs = .ok found)
    (quiet : Unmarked (textsOf found)) : Takes Neutral cs [] := by
  induction fuel generalizing cs found with
  | zero => cases read
  | succ fuel ih =>
      rw [Parser.steps.eq_def] at read
      dsimp only at read
      split at read
      · exact .refl neutral_chains _
      · obtain ⟨more, behind, same⟩ := map_ok read
        cases same
        rw [textsOf, unmarked_append] at quiet
        exact takes_quiet (by decide) (takes_quiet (by decide) (takes_quiet (by decide) (ih behind quiet.2)))
      · obtain ⟨⟨named, after⟩, first, read⟩ := bind_ok.mp read
        obtain ⟨more, second, read⟩ := bind_ok.mp read
        cases read
        rw [textsOf, unmarked_append] at quiet
        have both := Takes.trans neutral_chains (name_read first (by simpa [Step.texts] using quiet.1))
          (ih second quiet.2)
        exact takes_quiet (by decide) (takes_quiet (by decide) both)
      · exact takes_quiet (by decide) (.refl neutral_chains _)
      · exact takes_quiet (by decide) (ih read quiet)
      · obtain ⟨⟨step, after⟩, first, read⟩ := bind_ok.mp read
        obtain ⟨more, second, read⟩ := bind_ok.mp read
        cases read
        rw [textsOf, unmarked_append] at quiet
        have both := Takes.trans neutral_chains (child_read first quiet.1) (ih second quiet.2)
        exact takes_quiet (by decide) both
      · obtain ⟨⟨step, after⟩, first, read⟩ := bind_ok.mp read
        obtain ⟨more, second, read⟩ := bind_ok.mp read
        cases read
        rw [textsOf, unmarked_append] at quiet
        have inside := (reads_neutral _ _).bracket first quiet.1
        exact .trans neutral_chains (takes_pair (by decide) inside) (ih second quiet.2)
      · cases read

theorem neutral_all_steps {found : List Step} (read : allSteps cs = .ok found) (quiet : Unmarked (textsOf found)) :
    Takes Neutral cs [] := by
  unfold allSteps at read
  dsimp only at read
  split at read
  · exact neutral_steps read quiet
  · obtain ⟨⟨step, after⟩, first, read⟩ := bind_ok.mp read
    obtain ⟨more, second, read⟩ := bind_ok.mp read
    cases read
    rw [textsOf, unmarked_append] at quiet
    exact .trans neutral_chains (child_read first quiet.1) (neutral_steps second quiet.2)

theorem neutral_trimmed {cs : List Char} (trimmed : Neutral (trimChars cs)) : Neutral cs := by
  obtain ⟨before, behind, whole, first, last⟩ := trim_between cs
  have blank {cs : List Char} (all : ∀ c ∈ cs, isBlank c = true) : Neutral cs :=
    neutral_plain fun c member => quiet_blank (all c member)
  rw [whole]
  exact neutral_append (blank first) (neutral_append trimmed (blank last))

theorem body_parts (expr : String) : ∃ cs, (trimChars expr.toList = cs ∨
    ∃ inner, trimChars expr.toList = '\x7b' :: (inner ++ ['\x7d']) ∧ cs = trimChars inner) ∧
      (cs = body expr ∨ cs = '$' :: body expr) := by
  unfold body
  dsimp only
  generalize trimChars expr.toList = cs
  split <;> [refine ⟨_, ?_, .inr ‹_›⟩; refine ⟨_, ?_, .inl rfl⟩]
  all_goals
    split
    · split
      · rename_i inner braced
        obtain ⟨more, rfl⟩ := List.getLast?_eq_some_iff.mp (beq_iff_eq.mp braced)
        exact .inr ⟨more, rfl, by rw [List.dropLast_concat]⟩
      · exact .inl rfl
    · exact .inl rfl

theorem neutral_body {expr : String} (inside : Neutral (body expr)) : Neutral expr.toList := by
  obtain ⟨cs, within, rooted⟩ := body_parts expr
  have neutral : Neutral cs := by
    rcases rooted with rfl | rfl
    · exact inside
    · have root : Neutral ['$'] := neutral_quiet (by decide)
      exact neutral_append root inside
  apply neutral_trimmed
  rcases within with same | ⟨inner, braced, rfl⟩
  · rwa [same]
  · rw [braced]
    exact neutral_pair (by decide) (neutral_trimmed neutral)

theorem parse_neutral {expr : String} {path : Path} (read : Path.parse expr = .ok path)
    (quiet : Unmarked (textsOf path.steps)) : Neutral expr.toList := by
  unfold Path.parse at read
  dsimp only at read
  split at read
  · cases read
  · obtain ⟨found, inside, same⟩ := map_ok read
    cases same
    obtain ⟨part, whole, neutral⟩ := neutral_all_steps inside quiet
    rw [List.append_nil] at whole
    exact neutral_body (whole ▸ neutral)

end Path

end LiveTable
