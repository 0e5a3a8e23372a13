import LiveTable.Proofs.FilterRoundTrip
import LiveTable.Proofs.Trimming
import LiveTable.Query.Path.Parser

namespace LiveTable

inductive Access where
  | key (name : String)
  | all

namespace Access

def escaped (quote : Char) : List Char → List Char
  | [] => []
  | c :: cs => if c = quote ∨ c = '\\' then '\\' :: c :: escaped quote cs else c :: escaped quote cs

def pathChars : Access → List Char
  | key name => '[' :: '\'' :: (escaped '\'' name.toList ++ ['\'', ']'])
  | all => ['[', '*', ']']

def filterChars : Access → List Char
  | key name => '.' :: '"' :: (escaped '"' name.toList ++ ['"'])
  | all => ['.', '[', ']']

def pathText (steps : List Access) : String := String.ofList (steps.flatMap pathChars)

def filterText (steps : List Access) : String := String.ofList (steps.flatMap filterChars)

def step : Access → Path.Step
  | key name => .child name
  | all => .children

def extend (base : Filter) : Access → Filter
  | key name => .field base name
  | all => .iterate base

def path (steps : List Access) : Path := ⟨steps.map step⟩

def filter (steps : List Access) : Filter := steps.foldl extend .identity

section

open Path.Parser

variable (stop : Nat)

theorem scan_quoted_escaped {quote : Char} (other : quote ≠ '\\') (cs rest : List Char) :
    scanQuoted stop quote (escaped quote cs ++ quote :: rest) = .ok (cs, rest) := by
  induction cs with
  | nil =>
      rw [escaped, List.nil_append, scanQuoted, if_pos rfl]
      all_goals simp [other]
  | cons c cs ih =>
      rw [escaped]
      split
      · rw [List.cons_append, List.cons_append, scanQuoted, ih]
        rfl
      · rename_i plain
        obtain ⟨ordinary, unescaped⟩ := not_or.mp plain
        rw [List.cons_append, scanQuoted, if_neg ordinary, ih]
        · rfl
        all_goals simp [unescaped]

theorem skip_visible {c : Char} (visible : Text.isBlank c = false) (rest : List Char) :
    skip (c :: rest) = c :: rest := by
  simp [skip, visible]

theorem bracket_access (a : Access) (fuel : Nat) (rest : List Char) : ∃ inside,
    pathChars a = '[' :: inside ∧ bracket stop (fuel + 2) (inside ++ rest) = .ok (a.step, rest) := by
  cases a with
  | all => exact ⟨_, rfl, rfl⟩
  | key name =>
      refine ⟨_, rfl, ?_⟩
      have scanned : quoted stop '\'' (escaped '\'' name.toList ++ '\'' :: ']' :: rest) =
          .ok (name, ']' :: rest) := by
        rw [quoted, scan_quoted_escaped stop (by decide)]
        simp only [Except.map, String.ofList_toList]
      rw [List.cons_append, List.append_assoc, bracket, skip_visible (by decide), bracketed]
      simp only [List.cons_append, List.nil_append, scanned]
      rfl

theorem steps_accesses (accesses : List Access) {fuel : Nat} (enough : accesses.length + 2 < fuel) :
    steps stop fuel (accesses.flatMap pathChars) = .ok (accesses.map step) := by
  induction accesses generalizing fuel with
  | nil =>
      obtain ⟨fuel, rfl⟩ : ∃ k, fuel = k + 1 := ⟨fuel - 1, by omega⟩
      rfl
  | cons a more ih =>
      rw [List.length_cons] at enough
      obtain ⟨fuel, rfl⟩ : ∃ k, fuel = k + 3 := ⟨fuel - 3, by omega⟩
      obtain ⟨inside, opens, read⟩ := bracket_access stop a fuel (more.flatMap pathChars)
      have following : steps stop (fuel + 2) (more.flatMap pathChars) = .ok (more.map step) := ih (by omega)
      rw [List.flatMap_cons, opens, List.cons_append, steps, read]
      simp only [bind, Except.bind, following]
      rfl

end

theorem path_chars_bracketed (a : Access) : ∃ inside, pathChars a = '[' :: (inside ++ [']']) := by
  cases a with
  | key name => exact ⟨'\'' :: (escaped '\'' name.toList ++ ['\'']), by simp [pathChars]⟩
  | all => exact ⟨['*'], rfl⟩

theorem path_text_bracketed {accesses : List Access} (some : accesses ≠ []) :
    ∃ inside, accesses.flatMap pathChars = '[' :: (inside ++ [']']) := by
  induction accesses with
  | nil => exact absurd rfl some
  | cons a more ih =>
      obtain ⟨inside, bracketed⟩ := path_chars_bracketed a
      by_cases last : more = []
      · exact ⟨inside, by simp [last, bracketed]⟩
      · obtain ⟨behind, same⟩ := ih last
        exact ⟨inside ++ ']' :: '[' :: behind, by simp [bracketed, same]⟩

theorem trim_bracketed (inside : List Char) :
    Text.trimChars ('[' :: (inside ++ [']'])) = '[' :: (inside ++ [']']) :=
  Text.trim_enclosed (by decide) (by decide) inside

theorem path_chars_length (accesses : List Access) : accesses.length ≤ (accesses.flatMap pathChars).length := by
  induction accesses with
  | nil => exact Nat.zero_le _
  | cons a more ih =>
      obtain ⟨inside, bracketed⟩ := path_chars_bracketed a
      rw [List.flatMap_cons, bracketed, List.length_append, List.length_cons, List.length_cons]
      omega

open Path.Parser in
theorem parse_path_text {accesses : List Access} (some : accesses ≠ []) :
    Path.parse (pathText accesses) = .ok (path accesses) := by
  obtain ⟨inside, bracketed⟩ := path_text_bracketed some
  have whole : Path.Parser.body (pathText accesses) = accesses.flatMap pathChars := by
    simp [Path.Parser.body, pathText, bracketed, trim_bracketed]
  have length := path_chars_length accesses
  have read := steps_accesses (accesses.flatMap pathChars).length accesses
    (show accesses.length + 2 < 3 * (accesses.flatMap pathChars).length + 3 by omega)
  have opens : startsWithStep (accesses.flatMap pathChars) = true := by rw [bracketed]; rfl
  have written : (accesses.flatMap pathChars).isEmpty = false := by rw [bracketed]; rfl
  simp only [Path.parse, whole, written, allSteps, opens, read]
  rfl

section

open Filter.Token

theorem scan_string_escaped (cs rest : List Char) :
    scanString (escaped '"' cs ++ '"' :: rest) = some (cs, rest) := by
  induction cs with
  | nil => rfl
  | cons c cs ih =>
      rw [escaped]
      split
      · rename_i special
        have itself : unescape c = c := by rcases special with rfl | rfl <;> decide
        rw [List.cons_append, List.cons_append, scanString, ih, Option.map_some, itself]
      · rename_i plain
        obtain ⟨ordinary, unescaped⟩ := not_or.mp plain
        rw [List.cons_append, scanString, ih]
        · rfl
        all_goals simp [ordinary, unescaped]

theorem tokens_cons {c : Char} {t : Filter.Token} {rest after : List Char} (offset : Nat)
    (visible : Text.isBlank c = false) (scanned : scan c rest = .ok (t, after)) :
    ∃ next, tokens offset (c :: rest) = (tokens next after).map ((offset, t) :: ·) := by
  refine ⟨offset + (byteLength (c :: rest) - byteLength after), ?_⟩
  rw [tokens, if_neg (by simp [visible])]
  split
  · rename_i failed
    rw [scanned] at failed
    cases failed
  · rename_i found
    rw [scanned] at found
    cases found
    rfl

theorem tokens_key (name : String) (offset : Nat) (rest : List Char) :
    ∃ next, tokens offset (filterChars (.key name) ++ rest) =
      (tokens next rest).map ((offset, .field name) :: ·) := by
  simp only [filterChars, List.cons_append, List.append_assoc, List.nil_append]
  refine tokens_cons offset (by decide) ?_
  simp only [scan, scan_string_escaped, String.ofList_toList]

theorem tokens_all (offset : Nat) (rest : List Char) :
    ∃ i j next, tokens offset (filterChars .all ++ rest) =
      (tokens next rest).map ((offset, .dot) :: (i, .leftBracket) :: (j, .rightBracket) :: ·) := by
  have dot : scan '.' ('[' :: ']' :: rest) = .ok (.dot, '[' :: ']' :: rest) := rfl
  have opening : scan '[' (']' :: rest) = .ok (.leftBracket, ']' :: rest) := rfl
  have closing : scan ']' rest = .ok (.rightBracket, rest) := rfl
  obtain ⟨i, dot⟩ := tokens_cons offset (by decide) dot
  obtain ⟨j, opening⟩ := tokens_cons i (by decide) opening
  obtain ⟨next, closing⟩ := tokens_cons j (by decide) closing
  refine ⟨i, j, next, ?_⟩
  simp only [filterChars, List.cons_append, List.nil_append, dot, opening, closing]
  cases tokens next rest <;> rfl

theorem tokens_access (a : Access) (offset : Nat) (rest : List Char) : ∃ own next,
    tokens offset (filterChars a ++ rest) = (tokens next rest).map (own ++ ·) ∧
      (∀ level, Filter.Written level (extend .identity a) own) ∧
      ∀ base before, (∀ level, Filter.Written level base before) →
        ∀ level, Filter.Written level (extend base a) (before ++ own) := by
  cases a with
  | key name =>
      obtain ⟨next, read⟩ := tokens_key name offset rest
      exact ⟨[(offset, .field name)], next, read, fun _ => .ownField offset name,
        fun _ _ below _ => .field offset name (below Filter.operandLevel)⟩
  | all =>
      obtain ⟨i, j, next, read⟩ := tokens_all offset rest
      exact ⟨[(offset, .dot), (i, .leftBracket), (j, .rightBracket)], next, read,
        fun _ => .iterate j (.identity offset) (.bracket i),
        fun _ _ below _ => .iterate j (below Filter.operandLevel) (.point offset i)⟩

theorem tokens_extend (accesses : List Access) {base : Filter} {before : Filter.Parser.Tokens} (offset : Nat)
    (below : ∀ level, Filter.Written level base before) :
    ∃ ts, tokens offset (accesses.flatMap filterChars) = .ok ts ∧
      ∀ level, Filter.Written level (accesses.foldl extend base) (before ++ ts) := by
  induction accesses generalizing base before offset with
  | nil => exact ⟨[], by rw [List.flatMap_nil, tokens], by simpa using below⟩
  | cons a more ih =>
      obtain ⟨own, next, read, _, behind⟩ := tokens_access a offset (more.flatMap filterChars)
      obtain ⟨ts, following, all⟩ := ih next (behind base before below)
      refine ⟨own ++ ts, ?_, by simpa using all⟩
      rw [List.flatMap_cons, read, following]
      rfl

theorem parse_filter_text {accesses : List Access} (some : accesses ≠ []) :
    Filter.parse (filterText accesses) = .ok (filter accesses) := by
  cases accesses with
  | nil => exact absurd rfl some
  | cons a more =>
      obtain ⟨own, next, read, alone, _⟩ := tokens_access a 0 (more.flatMap filterChars)
      obtain ⟨ts, following, written⟩ := tokens_extend more next alone
      have scanned : tokens 0 ((a :: more).flatMap filterChars) = .ok (own ++ ts) := by
        rw [List.flatMap_cons, read, following]
        rfl
      rw [Filter.parse, filterText, String.toList_ofList, scanned]
      exact Filter.of_tokens_written _ (written 0)

end

end Access

end LiveTable
