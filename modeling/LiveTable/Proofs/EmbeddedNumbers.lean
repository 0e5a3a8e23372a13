import LiveTable.Proofs.DecimalRuns

namespace LiveTable.Text

open Reading (isDigit natOfDigits)

theorem run_stops {cs : List Char} (some : cs ≠ []) (ends : ∀ c ∈ cs.getLast?, isDigit c = false) :
    ∃ d rest, cs.dropWhile isDigit = d :: rest ∧ isDigit d = false ∧ (d :: rest).getLast? = cs.getLast? := by
  have stops : cs.dropWhile isDigit ≠ [] := by
    intro all
    have plain := ends _ (List.getLast?_eq_some_getLast some)
    rw [List.dropWhile_eq_nil_iff.mp all _ (List.getLast_mem some)] at plain
    cases plain
  obtain ⟨d, rest, left⟩ := List.exists_cons_of_ne_nil stops
  refine ⟨d, rest, left, ?_, ?_⟩
  · simpa [left] using List.head?_dropWhile_not isDigit cs
  · rw [← left]
    conv_rhs => rw [← List.takeWhile_append_dropWhile (p := isDigit) (l := cs)]
    rw [List.getLast?_append_of_ne_nil _ stops]

theorem common_front {front : List Char} (as bs : List Char) (ends : ∀ c ∈ front.getLast?, isDigit c = false) :
    naturalOrderChars (front ++ as) (front ++ bs) = naturalOrderChars as bs := by
  fun_induction tokens front with
  | case1 => rfl
  | case2 c front digit ih =>
      obtain ⟨d, rest, left, plain, last⟩ := run_stops (List.cons_ne_nil c front) ends
      have split : c :: front = (c :: front).takeWhile isDigit ++ d :: rest := by
        rw [← left, List.takeWhile_append_dropWhile]
      have some : (c :: front).takeWhile isDigit ≠ [] := by simp [digit]
      have digits : ∀ e ∈ (c :: front).takeWhile isDigit, isDigit e = true := fun e member =>
        List.mem_takeWhile_imp member
      have stops (cs : List Char) : ∀ e ∈ (d :: rest ++ cs).head?, isDigit e = false := by
        rintro e ⟨⟩
        exact plain
      have even : compareRuns ((c :: front).takeWhile isDigit) ((c :: front).takeWhile isDigit) = .eq :=
        Std.ReflCmp.compare_self
      rw [left] at ih
      rw [split, List.append_assoc, List.append_assoc, run_order some some digits digits (stops as) (stops bs), even,
        Ordering.eq_then, ih (last ▸ ends)]
  | case3 c front other ih =>
      have below : ∀ e ∈ front.getLast?, isDigit e = false := by
        cases front with
        | nil => simp
        | cons d rest => exact ends
      rw [List.cons_append, List.cons_append, character_order (by simpa using other), Std.compare_self,
        Ordering.eq_then, ih below]

def isNumber (s : String) : Bool := !s.toList.isEmpty && s.toList.all isDigit

def value (s : String) : Nat := natOfDigits s.toList

def startsInDigit (s : String) : Bool := s.toList.head?.any isDigit

def endsInDigit (s : String) : Bool := s.toList.getLast?.any isDigit

theorem number_digits {s : String} (number : isNumber s = true) :
    s.toList ≠ [] ∧ ∀ c ∈ s.toList, isDigit c = true := by
  simpa only [isNumber, Bool.and_eq_true, Bool.not_eq_true', List.isEmpty_eq_false_iff, List.all_eq_true] using number

theorem option_plain {o : Option Char} (plain : o.any isDigit = false) : ∀ c ∈ o, isDigit c = false := by
  rintro c rfl
  exact plain

theorem embedded_order {front m n behind behind' : String} (ends : endsInDigit front = false)
    (left : isNumber m = true) (right : isNumber n = true) (stops : startsInDigit behind = false)
    (stops' : startsInDigit behind' = false) :
    naturalOrder (front ++ m ++ behind) (front ++ n ++ behind') =
      (compare (value m) (value n)).then
        ((compare m.toList.length n.toList.length).then (naturalOrder behind behind')) := by
  obtain ⟨some, digits⟩ := number_digits left
  obtain ⟨some', digits'⟩ := number_digits right
  simp only [naturalOrder, String.toList_append, List.append_assoc]
  rw [common_front _ _ (option_plain ends), run_order some some' digits digits' (option_plain stops)
    (option_plain stops'), compare_runs_value digits digits', Ordering.then_assoc]
  rfl

theorem natural_order_total :
    (∀ s t, naturalOrder s t = .eq ↔ s = t) ∧ (∀ s t, naturalOrder t s = (naturalOrder s t).swap) ∧
      (∀ s t u, (naturalOrder s t).isLE → (naturalOrder t u).isLE → (naturalOrder s u).isLE) ∧
      ∀ front m n behind behind', endsInDigit front = false → isNumber m = true → isNumber n = true →
        startsInDigit behind = false → startsInDigit behind' = false → value m ≠ value n →
        naturalOrder (front ++ m ++ behind) (front ++ n ++ behind') = compare (value m) (value n) := by
  refine ⟨fun s t => Std.LawfulEqCmp.compare_eq_iff_eq, natural_order_swap, fun s t u => Std.TransCmp.isLE_trans, ?_⟩
  intro front m n behind behind' ends left right stops stops' different
  have decided : compare (value m) (value n) ≠ .eq := mt Nat.compare_eq_eq.mp different
  rw [embedded_order ends left right stops stops']
  cases compared : compare (value m) (value n) with
  | lt => rfl
  | eq => exact absurd compared decided
  | gt => rfl

theorem padded_number_ordered :
    (endsInDigit "v1.web-" = false ∧ isNumber "007" = true ∧ isNumber "18446744073709551616" = true ∧
        startsInDigit "٣" = false ∧ startsInDigit "" = false ∧ value "007" ≠ value "18446744073709551616") ∧
      naturalOrder "v1.web-007٣" "v1.web-18446744073709551616" = .lt ∧
      (naturalOrder "v1.web-007٣" "w").isLE := by
  have read : endsInDigit "v1.web-" = false ∧ isNumber "007" = true ∧ isNumber "18446744073709551616" = true ∧
      startsInDigit "٣" = false ∧ startsInDigit "" = false ∧ value "007" ≠ value "18446744073709551616" := by
    decide +kernel
  obtain ⟨ends, left, right, stops, stops', different⟩ := read
  have ordered : naturalOrder "v1.web-007٣" "v1.web-18446744073709551616" = .lt :=
    natural_order_total.2.2.2 "v1.web-" "007" "18446744073709551616" "٣" "" ends left right stops stops' different
  have last : (naturalOrder "v1.web-18446744073709551616" "w").isLE := by decide +kernel
  refine ⟨⟨ends, left, right, stops, stops', different⟩, ordered, ?_⟩
  exact natural_order_total.2.2.1 _ _ _ (by rw [ordered]; rfl) last

end LiveTable.Text
