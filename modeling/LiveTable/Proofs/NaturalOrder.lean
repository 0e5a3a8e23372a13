import LiveTable.Text.NaturalOrder
import Mathlib.Data.List.TakeWhile

namespace LiveTable.Text

open Reading (isDigit)

def significant (run : List Char) : List Char := run.dropWhile (· == '0')

theorem leading_zeros (run : List Char) :
    run = List.replicate (run.length - (significant run).length) '0' ++ significant run := by
  have split : run.takeWhile (· == '0') ++ significant run = run := List.takeWhile_append_dropWhile
  have zeros : run.takeWhile (· == '0') = List.replicate (run.takeWhile (· == '0')).length '0' :=
    List.eq_replicate_of_mem fun c member => by simpa using List.mem_takeWhile_imp member
  have size : (run.takeWhile (· == '0')).length = run.length - (significant run).length := by
    have total := congrArg List.length split
    rw [List.length_append] at total
    omega
  rw [← size, ← zeros, split]

theorem compare_runs_lex : compareRuns = compareLex (compareOn fun run => (significant run).length)
    (compareLex (compareOn significant) (compareOn List.length)) := rfl

instance : Std.TransCmp compareRuns := by
  rw [compare_runs_lex]
  infer_instance

instance : Std.LawfulEqCmp compareRuns where
  eq_of_compare {a b} same := by
    simp only [compare_runs_lex, compareLex_eq_eq, compareOn, Std.LawfulEqOrd.compare_eq_iff_eq] at same
    obtain ⟨_, digits, size⟩ := same
    rw [leading_zeros a, leading_zeros b, digits, size]

theorem compare_characters (a b : Char) : compare a b = compare a.toNat b.toNat := by
  simp only [compare, compareOfLessAndEq, Char.lt_def, UInt32.lt_iff_toNat_lt, ← Char.toNat_inj]
  rfl

theorem digit_range (c : Char) : isDigit c = true ↔ '0'.toNat ≤ c.toNat ∧ c.toNat ≤ '9'.toNat := by
  simp [isDigit, Char.le_def, UInt32.le_iff_toNat_le]

def place (c : Char) : Nat := if isDigit c then '0'.toNat else c.toNat

theorem place_less (a b : Char) (mixed : ¬ (isDigit a && isDigit b) = true) (less : a.toNat < b.toNat) :
    place a < place b := by
  simp only [Bool.and_eq_true, digit_range] at mixed
  simp only [place, digit_range]
  split <;> split <;> omega

theorem compare_places (a b : Char) (mixed : ¬ (isDigit a && isDigit b) = true) (different : a ≠ b) :
    compare (place a) (place b) = compare a b := by
  have apart : a.toNat ≠ b.toNat := mt Char.toNat_inj.mp different
  rw [compare_characters]
  rcases Nat.lt_or_gt_of_ne apart with less | more
  · rw [Nat.compare_eq_lt.mpr less, Nat.compare_eq_lt.mpr (place_less a b mixed less)]
  · rw [Bool.and_comm] at mixed
    rw [Nat.compare_eq_gt.mpr more, Nat.compare_eq_gt.mpr (place_less b a mixed more)]

def tokens : List Char → List (List Char)
  | [] => []
  | c :: cs =>
    if _h : isDigit c then (c :: cs).takeWhile isDigit :: tokens ((c :: cs).dropWhile isDigit)
    else [c] :: tokens cs
termination_by cs => cs.length
decreasing_by
  · simp only [List.dropWhile_cons, _h, if_true, List.length_cons]
    exact Nat.lt_succ_of_le (List.dropWhile_suffix _).length_le
  · simp

theorem tokens_nil : tokens [] = [] := by rw [tokens]

theorem tokens_flatten (cs : List Char) : (tokens cs).flatten = cs := by
  fun_induction tokens cs with
  | case1 => rfl
  | case2 c cs digit ih => rw [List.flatten_cons, ih, List.takeWhile_append_dropWhile]
  | case3 c cs other ih => rw [List.flatten_cons, ih, List.singleton_append]

theorem tokens_head (c : Char) (cs : List Char) :
    ∃ token rest, tokens (c :: cs) = token :: rest ∧ token.head?.map place = some (place c) := by
  rw [tokens]
  split
  · rename_i digit
    exact ⟨_, _, rfl, by rw [List.takeWhile_cons_of_pos digit]; rfl⟩
  · exact ⟨_, _, rfl, rfl⟩

def compareTokens : List Char → List Char → Ordering :=
  compareLex (compareOn fun token => token.head?.map place) compareRuns

instance : Std.TransCmp compareTokens := by
  unfold compareTokens
  infer_instance

instance : Std.LawfulEqCmp compareTokens where
  eq_of_compare same := Std.LawfulEqCmp.eq_of_compare (compareLex_eq_eq.mp same).2

theorem natural_order_tokens (as bs : List Char) :
    naturalOrderChars as bs = List.compareLex compareTokens (tokens as) (tokens bs) := by
  fun_induction naturalOrderChars as bs with
  | case1 => rw [tokens_nil, List.compareLex_nil_nil]
  | case2 b bs =>
      obtain ⟨token, rest, head, _⟩ := tokens_head b bs
      rw [head, tokens_nil, List.compareLex_nil_cons]
  | case3 a as =>
      obtain ⟨token, rest, head, _⟩ := tokens_head a as
      rw [head, tokens_nil, List.compareLex_cons_nil]
  | case4 a as b bs digits ih =>
      obtain ⟨left, right⟩ := Bool.and_eq_true_iff.mp digits
      rw [ih, tokens, dif_pos left, tokens, dif_pos right, List.compareLex_cons_cons]
      congr 1
      simp only [compareTokens, compareLex, compareOn, List.takeWhile_cons_of_pos left,
        List.takeWhile_cons_of_pos right, List.head?_cons, Option.map_some, place, if_pos left, if_pos right]
      rw [Std.compare_self, Ordering.eq_then]
  | case5 a as b bs mixed ih =>
      by_cases same : a = b
      · subst same
        have other : ¬ isDigit a = true := by simpa using mixed
        rw [ih, tokens, dif_neg other, tokens, dif_neg other, List.compareLex_cons_cons]
        have even : compareTokens [a] [a] = .eq := Std.ReflCmp.compare_self
        rw [even, Std.compare_self]
      · obtain ⟨left, _, tokensLeft, placeLeft⟩ := tokens_head a as
        obtain ⟨right, _, tokensRight, placeRight⟩ := tokens_head b bs
        have decided : compare a b ≠ .eq := mt Std.LawfulEqOrd.eq_of_compare same
        rw [tokensLeft, tokensRight, List.compareLex_cons_cons, compareTokens, compareLex, compareOn, placeLeft,
          placeRight]
        have places : compare (some (place a)) (some (place b)) = compare a b := compare_places a b mixed same
        rw [places]
        cases compared : compare a b with
        | lt => rfl
        | eq => exact absurd compared decided
        | gt => rfl

theorem natural_order_lex (s t : String) :
    naturalOrder s t = List.compareLex compareTokens (tokens s.toList) (tokens t.toList) :=
  natural_order_tokens s.toList t.toList

instance : Std.TransCmp naturalOrder where
  eq_swap {s t} := by
    rw [natural_order_lex, natural_order_lex]
    exact Std.OrientedCmp.eq_swap
  isLE_trans {s t u} := by
    rw [natural_order_lex, natural_order_lex, natural_order_lex]
    exact Std.TransCmp.isLE_trans

theorem natural_order_swap (s t : String) : naturalOrder t s = (naturalOrder s t).swap := Std.OrientedCmp.eq_swap

instance : Std.LawfulEqCmp naturalOrder where
  eq_of_compare {s t} same := by
    rw [natural_order_lex] at same
    have equal := congrArg List.flatten (Std.LawfulEqCmp.eq_of_compare same)
    rwa [tokens_flatten, tokens_flatten, String.toList_inj] at equal

end LiveTable.Text
