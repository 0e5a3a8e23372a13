import LiveTable.Proofs.NumberedCells
import LiveTable.Query.Path.Parser

namespace LiveTable.Path

open LiveTable.Path.Parser

-- Where a bound lies: negative ones count from the end. It need not be a place of the array.
def offset (size : Nat) (i : Int) : Int := if i < 0 then size + i else i

def within (size : Nat) (first last : Option Int) (place : Nat) : Bool :=
  first.all (fun i => offset size i ≤ place) && last.all fun j => place < offset size j

theorem place_offset (size : Nat) (i : Int) :
    place? size i = if offset size i < 0 then none else some (offset size i).toNat := rfl

theorem bound_le_iff (size : Nat) (i : Int) {place : Nat} (inside : place < size) :
    bound size i ≤ place ↔ offset size i ≤ place := by
  rw [bound, place_offset]
  split
  · rw [Option.getD_none]
    omega
  · rw [Option.getD_some]
    omega

theorem between_places {α : Type} (items : List α) (first last start : Nat) :
    ((items.zipIdx start).filter fun (_, k) => first ≤ k && k < last).map (·.1) =
      (items.take (last - start)).drop (first - start) := by
  induction items generalizing start with
  | nil => simp
  | cons v rest ih =>
      rw [List.zipIdx_cons, List.filter_cons]
      by_cases ended : last ≤ start
      · have none : last - start = 0 := by omega
        have none' : last - (start + 1) = 0 := by omega
        have passed : ¬ (decide (first ≤ start) && decide (start < last)) = true := by
          simp only [Bool.and_eq_true, decide_eq_true_eq]
          omega
        rw [if_neg passed, ih, none, none', List.take_zero, List.take_zero, List.drop_nil, List.drop_nil]
      · obtain ⟨more, counted⟩ : ∃ k, last - start = k + 1 := ⟨last - start - 1, by omega⟩
        have counted' : last - (start + 1) = more := by omega
        rw [counted, List.take_succ_cons]
        by_cases before : start < first
        · have passed : ¬ (decide (first ≤ start) && decide (start < last)) = true := by
            simp only [Bool.and_eq_true, decide_eq_true_eq]
            omega
          obtain ⟨gap, ahead⟩ : ∃ k, first - start = k + 1 := ⟨first - start - 1, by omega⟩
          have ahead' : first - (start + 1) = gap := by omega
          rw [if_neg passed, ih, counted', ahead, ahead', List.drop_succ_cons]
        · have taken : (decide (first ≤ start) && decide (start < last)) = true := by
            simp only [Bool.and_eq_true, decide_eq_true_eq]
            omega
          have here : first - start = 0 := by omega
          have here' : first - (start + 1) = 0 := by omega
          rw [if_pos taken, List.map_cons, ih, counted', here, here', List.drop_zero, List.drop_zero]

def itemsAt {α : Type} (p : Nat → Bool) (items : List α) : List α :=
  (items.zipIdx.filter fun (_, k) => p k).map (·.1)

theorem items_at_congr {α : Type} {items : List α} {p q : Nat → Bool} (same : ∀ k < items.length, p k = q k) :
    itemsAt p items = itemsAt q items := by
  have filters : items.zipIdx.filter (fun (_, k) => p k) = items.zipIdx.filter fun (_, k) => q k :=
    List.filter_congr fun (_, k) member => same k (List.mem_zipIdx' member).1
  rw [itemsAt, itemsAt, filters]

theorem items_between {α : Type} (items : List α) (first last : Nat) :
    itemsAt (fun k => first ≤ k && k < last) items = (items.take last).drop first := between_places items first last 0

theorem within_span (size : Nat) (first last : Option Int) {place : Nat} (inside : place < size) :
    within size first last place = (decide (spanStart size first ≤ place) && decide (place < spanStop size last)) := by
  have start : first.all (fun i => offset size i ≤ place) = decide (spanStart size first ≤ place) := by
    cases first with
    | none => simp [spanStart]
    | some i => exact decide_eq_decide.mpr (bound_le_iff size i inside).symm
  have stop : last.all (fun j => (place : Int) < offset size j) = decide (place < spanStop size last) := by
    cases last with
    | none => exact (decide_eq_true inside).symm
    | some j =>
        have above := not_congr (bound_le_iff size j inside)
        rw [Nat.not_le, Int.not_le] at above
        exact decide_eq_decide.mpr above.symm
  rw [within, start, stop]

theorem slice_inside {α : Type} (items : List α) (first last : Option Int)
    (ahead : spanStart items.length first < spanStop items.length last) :
    checkedSpan? items (spanStart items.length first) (spanStop items.length last) = some (slice items first last) := by
  rw [slice, dif_pos ahead, Option.some_get]

theorem slice_empty {α : Type} (items : List α) (first last : Option Int)
    (behind : spanStop items.length last ≤ spanStart items.length first) : slice items first last = [] :=
  dif_neg (Nat.not_lt.mpr behind)

theorem slice_items {α : Type} (items : List α) (first last : Option Int) :
    slice items first last = itemsAt (within items.length first last) items := by
  have spans : slice items first last =
      (items.take (spanStop items.length last)).drop (spanStart items.length first) := by
    rcases Nat.lt_or_ge (spanStart items.length first) (spanStop items.length last) with ahead | behind
    · have taken := slice_inside items first last ahead
      rw [checkedSpan?, if_pos ⟨Nat.le_of_lt ahead, stop_inside items.length last⟩] at taken
      exact (Option.some.inj taken).symm
    · rw [slice_empty items first last behind,
        List.drop_eq_nil_of_le (Nat.le_trans (List.length_take_le _ _) behind)]
  rw [spans, ← items_between]
  exact items_at_congr fun k inside => (within_span items.length first last inside).symm

theorem item_items {α : Type} (items : List α) (i : Int) :
    (itemAt? items i).toList = itemsAt (fun k => k = offset items.length i) items := by
  rw [itemAt?, place_offset]
  split
  · rename_i before
    have nowhere : itemsAt (fun k => k = offset items.length i) items = itemsAt (fun k => 0 ≤ k && k < 0) items :=
      items_at_congr fun k _ => by
        simp only [Nat.not_lt_zero, decide_false, Bool.and_false, decide_eq_false_iff_not]
        omega
    rw [nowhere, items_between]
    rfl
  · rename_i inside
    obtain ⟨k, place⟩ := Int.eq_ofNat_of_zero_le (Int.not_lt.mp inside)
    have single : itemsAt (fun j => j = offset items.length i) items = itemsAt (fun j => k ≤ j && j < k + 1) items :=
      items_at_congr fun j _ => by
        rw [← Bool.decide_and]
        exact decide_eq_decide.mpr (by omega)
    rw [single, items_between, place, List.drop_take, Nat.add_sub_cancel_left, List.take_one, List.head?_drop]
    rfl

theorem natural_written (n : Nat) : (toString (n : Int)).toList = Nat.toDigits 10 n := by
  rw [Int.toString_eq_repr, Int.repr_eq_if, if_pos (Int.natCast_nonneg n), Int.toNat_natCast, Nat.toList_repr]

theorem negative_written (n : Nat) : (toString (Int.negSucc n)).toList = '-' :: Nat.toDigits 10 (n + 1) := by
  rw [Int.toString_eq_repr, Int.repr_eq_if, if_neg (Int.not_le.mpr (Int.negSucc_lt_zero n)), Int.neg_negSucc,
    String.toList_append, Int.toNat_natCast, Nat.toList_repr]
  rfl

theorem natural_read {n : Nat} {lo hi : Int} (above : lo ≤ n) (below : n ≤ hi) :
    Reading.intOfChars? lo hi (Nat.toDigits 10 n) = some (n : Int) := by
  have all : (Nat.toDigits 10 n).all Reading.isDigit = true := List.all_eq_true.mpr (Reading.written_digits n)
  simp [Reading.intOfChars?, Elapsed.numeric_sign _ (Elapsed.written_numeric n), all, Nat.toDigits_ne_nil,
    Reading.nat_of_written, above, below]

theorem negative_read {n : Nat} {lo hi : Int} (above : lo ≤ -(n : Int)) (below : -(n : Int) ≤ hi) :
    Reading.intOfChars? lo hi ('-' :: Nat.toDigits 10 n) = some (-(n : Int)) := by
  have all : (Nat.toDigits 10 n).all Reading.isDigit = true := List.all_eq_true.mpr (Reading.written_digits n)
  simp [Reading.intOfChars?, Reading.sign, all, Nat.toDigits_ne_nil, Reading.nat_of_written, above, below]

section

variable (stop : Nat) {i : Int} {digits rest : List Char}

theorem integer_unsigned (all : ∀ c ∈ digits, Reading.isDigit c = true) (nonempty : digits ≠ [])
    (stops : ∀ c ∈ rest.head?, Reading.isDigit c = false)
    (read : Reading.intOfChars? Width.int64Min Width.int64Max digits = some i) :
    integer stop (digits ++ rest) = .ok (some i, rest) := by
  obtain ⟨taken, left⟩ := Text.front_taken all stops
  unfold integer
  dsimp only
  split
  · rename_i more same
    obtain ⟨d, ds, rfl⟩ := List.exists_cons_of_ne_nil nonempty
    cases same
    exact absurd (all '-' List.mem_cons_self) (by decide)
  · simp [taken, left, read, nonempty]

theorem integer_signed (all : ∀ c ∈ digits, Reading.isDigit c = true)
    (stops : ∀ c ∈ rest.head?, Reading.isDigit c = false)
    (read : Reading.intOfChars? Width.int64Min Width.int64Max ('-' :: digits) = some i) :
    integer stop ('-' :: digits ++ rest) = .ok (some i, rest) := by
  obtain ⟨taken, left⟩ := Text.front_taken all stops
  simp [integer, taken, left, read]

theorem integer_absent (starts : ∀ c ∈ rest.head?, c ≠ '-' ∧ Reading.isDigit c = false) :
    integer stop rest = .ok (none, rest) := by
  unfold integer
  dsimp only
  split
  · exact absurd rfl (starts '-' rfl).1
  · have nothing : ∀ c ∈ ([] : List Char), Reading.isDigit c = true := fun _ member => absurd member List.not_mem_nil
    obtain ⟨taken, left⟩ := Text.front_taken nothing fun c first => (starts c first).2
    rw [List.nil_append] at taken left
    simp [taken, left]

end

def boundText (bound : Option Int) : String := (bound.map toString).getD ""

def Is64Bit (i : Int) : Prop := Width.int64Min ≤ i ∧ i ≤ Width.int64Max

instance (i : Int) : Decidable (Is64Bit i) := inferInstanceAs (Decidable (_ ∧ _))

theorem integer_written (stop : Nat) {i : Int} (fits : Is64Bit i) {rest : List Char}
    (stops : ∀ c ∈ rest.head?, Reading.isDigit c = false) :
    integer stop ((toString i).toList ++ rest) = .ok (some i, rest) := by
  obtain ⟨above, below⟩ := fits
  cases i with
  | ofNat n =>
      rw [Int.ofNat_eq_natCast, natural_written]
      exact integer_unsigned stop (Reading.written_digits n) Nat.toDigits_ne_nil stops (natural_read above below)
  | negSucc n =>
      rw [negative_written]
      exact integer_signed stop (Reading.written_digits (n + 1)) stops (negative_read above below)

theorem bound_written (stop : Nat) {bound : Option Int} (fits : ∀ i ∈ bound, Is64Bit i) {rest : List Char}
    (stops : ∀ c ∈ rest.head?, c ≠ '-' ∧ Reading.isDigit c = false) :
    integer stop ((boundText bound).toList ++ rest) = .ok (bound, rest) := by
  cases bound with
  | none => exact integer_absent stop stops
  | some i => exact integer_written stop (fits i rfl) fun c first => (stops c first).2

def Starts (behind : Char) (cs : List Char) : Prop :=
  ∃ c rest, cs = c :: rest ∧ (c = '-' ∨ Reading.isDigit c = true ∨ c = behind)

theorem bound_starts (bound : Option Int) (behind : Char) (rest : List Char) :
    Starts behind ((boundText bound).toList ++ behind :: rest) := by
  match bound with
  | none => exact ⟨behind, rest, rfl, .inr (.inr rfl)⟩
  | some (.ofNat n) =>
      obtain ⟨d, ds, digits⟩ := List.exists_cons_of_ne_nil (Nat.toDigits_ne_nil (n := n) (b := 10))
      have digit := Reading.written_digits n d (by simp [digits])
      refine ⟨d, ds ++ behind :: rest, ?_, .inr (.inl digit)⟩
      rw [boundText, Option.map_some, Option.getD_some, Int.ofNat_eq_natCast, natural_written, digits, List.cons_append]
  | some (.negSucc n) =>
      refine ⟨'-', Nat.toDigits 10 (n + 1) ++ behind :: rest, ?_, .inl rfl⟩
      rw [boundText, Option.map_some, Option.getD_some, negative_written, List.cons_append]

theorem starts_visible {behind : Char} {cs : List Char} (starts : Starts behind cs)
    (visible : Text.isBlank behind = false) : skip cs = cs := by
  obtain ⟨c, rest, rfl, cases⟩ := starts
  refine List.dropWhile_cons_of_neg ?_
  rcases cases with rfl | digit | rfl
  · decide
  · simp [Elapsed.numeric_visible (Elapsed.digit_numeric digit)]
  · simp [visible]

theorem starts_number {behind : Char} {cs : List Char} (starts : Starts behind cs)
    (other : behind ∉ ['*', '\'', '"', '?']) (stop fuel : Nat) :
    bracketed stop (fuel + 1) cs = indexOrSlice stop cs := by
  obtain ⟨c, rest, rfl, cases⟩ := starts
  have number : c ∉ ['*', '\'', '"', '?'] := by
    rcases cases with rfl | digit | rfl
    · decide
    · intro member
      fin_cases member <;> cases digit
    · exact other
  simp only [List.mem_cons, List.not_mem_nil, or_false, not_or] at number
  rw [bracketed.eq_def]
  dsimp only
  split <;> simp_all

theorem span_read (stop : Nat) {first last : Option Int} (fits : ∀ i ∈ first, Is64Bit i)
    (fits' : ∀ i ∈ last, Is64Bit i) :
    indexOrSlice stop ((boundText first).toList ++ ':' :: ((boundText last).toList ++ [']'])) =
      .ok (.slice first last, [']']) := by
  have colon : ∀ c ∈ (':' :: ((boundText last).toList ++ [']'])).head?, c ≠ '-' ∧ Reading.isDigit c = false := by
    rintro c ⟨⟩
    decide
  have closer : ∀ c ∈ [']'].head?, c ≠ '-' ∧ Reading.isDigit c = false := by
    rintro c ⟨⟩
    decide
  have marked (cs : List Char) : skip (':' :: cs) = ':' :: cs := List.dropWhile_cons_of_neg (by decide)
  have visible := starts_visible (bound_starts last ']' []) (by decide)
  simp only [indexOrSlice, bound_written stop fits colon, bind, Except.bind, marked, visible,
    bound_written stop fits' closer]
  rfl

theorem index_read (stop : Nat) {i : Int} (fits : Is64Bit i) :
    indexOrSlice stop ((toString i).toList ++ [']']) = .ok (.index i, [']']) := by
  have closer : ∀ c ∈ [']'].head?, Reading.isDigit c = false := by
    rintro c ⟨⟩
    decide
  simp only [indexOrSlice, integer_written stop fits closer, bind, Except.bind]
  rfl

theorem bracket_read {expr : String} {step : Step} (inner : List Char) (behind : Char)
    (text : expr.toList = '[' :: (inner ++ [']'])) (starts : Starts behind (inner ++ [']']))
    (visible : Text.isBlank behind = false)
    (other : behind ∉ ['*', '\'', '"', '?'])
    (read : ∀ stop, indexOrSlice stop (inner ++ [']']) = .ok (step, [']'])) : Path.parse expr = .ok ⟨[step]⟩ := by
  have body : body expr = '[' :: (inner ++ [']']) := by
    rw [body, text, Text.trim_enclosed (by decide) (by decide)]
    rfl
  have closed (stop fuel : Nat) : bracket stop (fuel + 2) (inner ++ [']']) = .ok (step, []) := by
    rw [bracket, starts_visible starts visible, starts_number starts other, read]
    rfl
  have only (stop fuel : Nat) : Parser.steps stop (fuel + 3) ('[' :: (inner ++ [']'])) = .ok [step] := by
    rw [Parser.steps, closed]
    rfl
  obtain ⟨fuel, enough⟩ : ∃ fuel, 3 * ('[' :: (inner ++ [']'])).length + 3 = fuel + 3 := ⟨_, rfl⟩
  have all : allSteps ('[' :: (inner ++ [']'])) = .ok [step] := by
    rw [allSteps, enough]
    exact only _ fuel
  rw [Path.parse, body, all]
  rfl

def spanText (first last : Option Int) : String := "[" ++ boundText first ++ ":" ++ boundText last ++ "]"

def indexText (i : Int) : String := "[" ++ toString i ++ "]"

theorem span_path {first last : Option Int} (fits : ∀ i ∈ first, Is64Bit i) (fits' : ∀ i ∈ last, Is64Bit i) :
    Path.parse (spanText first last) = .ok ⟨[.slice first last]⟩ := by
  refine bracket_read ((boundText first).toList ++ ':' :: (boundText last).toList) ':' ?_ ?_ (by decide) (by decide)
    fun stop => ?_
  · simp [spanText]
  · rw [List.append_assoc, List.cons_append]
    exact bound_starts first ':' _
  · rw [List.append_assoc, List.cons_append]
    exact span_read stop fits fits'

theorem index_path {i : Int} (fits : Is64Bit i) : Path.parse (indexText i) = .ok ⟨[.index i]⟩ := by
  refine bracket_read (toString i).toList ']' ?_ (bound_starts (some i) ']' []) (by decide) (by decide)
    fun stop => index_read stop fits
  simp [indexText]

theorem array_steps_select (items : List Json) {first last : Option Int} {i : Int} (fits : ∀ j ∈ first, Is64Bit j)
    (fits' : ∀ j ∈ last, Is64Bit j) (index : Is64Bit i) :
    Path.parse (spanText first last) = .ok ⟨[.slice first last]⟩ ∧
      (Step.slice first last).select (.array items) = itemsAt (within items.length first last) items ∧
      (spanStart items.length first < spanStop items.length last →
        checkedSpan? items (spanStart items.length first) (spanStop items.length last) =
          some ((Step.slice first last).select (.array items))) ∧
      (spanStop items.length last ≤ spanStart items.length first →
        (Step.slice first last).select (.array items) = []) ∧
      Path.parse (indexText i) = .ok ⟨[.index i]⟩ ∧
      (Step.index i).select (.array items) = itemsAt (fun k => k = offset items.length i) items :=
  ⟨span_path fits fits', slice_items items first last, slice_inside items first last, slice_empty items first last,
    index_path index, item_items items i⟩

theorem extreme_bounds_select :
    (Is64Bit (-2) ∧ Is64Bit Width.int64Max ∧ Is64Bit Width.int64Min) ∧
      Path.parse "[-2:9223372036854775807]" = .ok ⟨[.slice (some (-2)) (some Width.int64Max)]⟩ ∧
      (Step.slice (some (-2)) (some Width.int64Max)).select (.array [.null, .bool false, .bool true]) =
        [.bool false, .bool true] ∧
      Path.parse "[-9223372036854775808]" = .ok ⟨[.index Width.int64Min]⟩ ∧
      (Step.index Width.int64Min).select (.array [.null, .bool false, .bool true]) = [] := by
  have near : Is64Bit (-2) := by decide
  have most : Is64Bit Width.int64Max := by decide
  have least : Is64Bit Width.int64Min := by decide
  have start : ∀ j ∈ some (-2 : Int), Is64Bit j := by
    rintro j ⟨⟩
    exact near
  have stop : ∀ j ∈ some Width.int64Max, Is64Bit j := by
    rintro j ⟨⟩
    exact most
  obtain ⟨span, selected, _, _, index, item⟩ := array_steps_select [.null, .bool false, .bool true] start stop least
  exact ⟨⟨near, most, least⟩, span, selected, index, item⟩

end LiveTable.Path
