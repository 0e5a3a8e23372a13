import LiveTable.Proofs.Piping
import LiveTable.Proofs.RowOrder
import LiveTable.Proofs.ValueOrder

namespace LiveTable

-- What a scan over a list is left with: it is kept against all behind it, and nothing before it is kept against it.
def Picked {α : Type} (keeps : α → α → Prop) (items : List α) (picked : α) : Prop :=
  ∃ before after, items = before ++ picked :: after ∧ (∀ x ∈ before, ¬keeps x picked) ∧ ∀ x ∈ after, keeps picked x

section

variable {α : Type} (keeps : α → α → Prop)

theorem picked_once (items : List α) (a b : α) (first : Picked keeps items a) (second : Picked keeps items b) :
    a = b := by
  obtain ⟨before, after, rfl, earlier, later⟩ := first
  obtain ⟨before', after', same, earlier', later'⟩ := second
  rcases List.append_eq_append_iff.mp same with ⟨middle, rfl, rest⟩ | ⟨middle, rfl, rest⟩
  · cases middle with
    | nil => exact (List.cons.inj rest).1
    | cons c middle =>
        obtain ⟨rfl, rfl⟩ := List.cons.inj rest
        exact absurd (later b (by simp)) (earlier' _ (by simp))
  · cases middle with
    | nil => exact (List.cons.inj rest).1.symm
    | cons c middle =>
        obtain ⟨rfl, rfl⟩ := List.cons.inj rest
        exact absurd (later' a (by simp)) (earlier _ (by simp))

variable [DecidableRel keeps] (keeps_trans : ∀ a b c, keeps a b → keeps b c → keeps a c)
  (yields_trans : ∀ a b c, ¬keeps a b → ¬keeps b c → ¬keeps a c)

include keeps_trans yields_trans

theorem picked_scan (seen rest : List α) (best : α) (picked : Picked keeps seen best) :
    Picked keeps (seen ++ rest) (rest.foldl (fun best x => if keeps best x then best else x) best) := by
  induction rest generalizing seen best with
  | nil => simpa using picked
  | cons x rest ih =>
      rw [List.foldl_cons, List.append_cons]
      refine ih (seen ++ [x]) _ ?_
      obtain ⟨before, after, rfl, earlier, later⟩ := picked
      by_cases kept : keeps best x
      · rw [if_pos kept]
        refine ⟨before, after ++ [x], by simp, earlier, fun y member => ?_⟩
        rcases List.mem_append.mp member with behind | last
        · exact later y behind
        · rwa [List.mem_singleton.mp last]
      · rw [if_neg kept]
        refine ⟨before ++ best :: after, [], rfl, fun y member => ?_, nofun⟩
        rcases List.mem_append.mp member with first | behind
        · exact yields_trans y best x (earlier y first) kept
        · rcases List.mem_cons.mp behind with rfl | behind
          · exact kept
          · exact fun again => kept (keeps_trans best y x (later y behind) again)

theorem picked_whole (first : α) (rest : List α) : Picked keeps (first :: rest)
    (rest.foldl (fun best x => if keeps best x then best else x) first) :=
  picked_scan keeps keeps_trans yields_trans [first] rest first ⟨[], [], rfl, nofun, nofun⟩

end

namespace Json

theorem sorted_perm (items : List Json) : (sorted items).Perm items := List.mergeSort_perm items _

theorem sorted_ordered (items : List Json) : (sorted items).Pairwise fun a b => order a b ≠ .gt :=
  (merge_sort_ordered order items).imp fun before => by simpa using before

theorem sorted_stable (items : List Json) (v : Json) :
    (sorted items).filter (order v · == .eq) = items.filter (order v · == .eq) := merge_sort_stable order items v

theorem order_self (v : Json) : order v v = .eq := Std.ReflCmp.compare_self

def LeastKeeps (best v : Json) : Prop := order v best ≠ .lt

def GreatestKeeps (best v : Json) : Prop := order v best = .lt

instance : DecidableRel LeastKeeps := fun best v => inferInstanceAs (Decidable (order v best ≠ .lt))

instance : DecidableRel GreatestKeeps := fun best v => inferInstanceAs (Decidable (order v best = .lt))

theorem not_before_iff (a b : Json) : order a b ≠ .lt ↔ order b a ≠ .gt := by
  rw [order_swap a b]
  cases order a b <;> simp

theorem before_trans (a b c : Json) (first : order b a = .lt) (second : order c b = .lt) : order c a = .lt :=
  Std.TransCmp.lt_trans second first

theorem not_before_trans (a b c : Json) (first : order b a ≠ .lt) (second : order c b ≠ .lt) : order c a ≠ .lt := by
  rw [not_before_iff, ne_eq, ← Ordering.isLE_iff_ne_gt] at first second ⊢
  exact Std.TransCmp.isLE_trans first second

theorem least_picked (first : Json) (rest : List Json) :
    ∃ least, Filter.least? (first :: rest) = some least ∧ Picked LeastKeeps (first :: rest) least := by
  have scan := picked_whole LeastKeeps not_before_trans
    (fun a b c first second => by
      simp only [LeastKeeps, ne_eq, not_not] at first second ⊢
      exact before_trans a b c first second) first rest
  refine ⟨_, ?_, scan⟩
  rw [Filter.least?]
  congr
  funext best v
  by_cases before : order v best = .lt <;> simp [LeastKeeps, before]

theorem greatest_picked (first : Json) (rest : List Json) :
    ∃ greatest, Filter.greatest? (first :: rest) = some greatest ∧ Picked GreatestKeeps (first :: rest) greatest := by
  refine ⟨_, ?_, picked_whole GreatestKeeps before_trans not_before_trans first rest⟩
  rw [Filter.greatest?]
  congr
  funext best v
  by_cases before : order v best = .lt <;> simp [GreatestKeeps, before]

theorem first_least (items tail : List Json) (v : Json) (first : sorted items = v :: tail) (x : Json)
    (member : x ∈ items) : order v x ≠ .gt := by
  rw [← (sorted_perm items).mem_iff, first] at member
  rcases List.mem_cons.mp member with rfl | behind
  · simp [order_self]
  · exact (List.pairwise_cons.mp (first ▸ sorted_ordered items)).1 x behind

theorem last_greatest (items front : List Json) (v : Json) (last : sorted items = front ++ [v]) (x : Json)
    (member : x ∈ items) : order x v ≠ .gt := by
  rw [← (sorted_perm items).mem_iff, last] at member
  rcases List.mem_append.mp member with before | final
  · exact (List.pairwise_append.mp (last ▸ sorted_ordered items)).2.2 x before v (List.mem_singleton_self v)
  · rw [List.mem_singleton.mp final, order_self]
    decide

-- Even values stay in their order, so the first of the sorted values is the first of the least ones.
theorem sorted_first (items tail : List Json) (v : Json) (first : sorted items = v :: tail) :
    Picked LeastKeeps items v := by
  have stable := sorted_stable items v
  rw [first, List.filter_cons_of_pos (by simp [order_self])] at stable
  obtain ⟨before, after, whole, apart, _⟩ := List.filter_eq_cons_iff.mp stable.symm
  have least := first_least items tail v first
  refine ⟨before, after, whole, fun x member kept => ?_, fun x member => ?_⟩
  · have below := least x (by simp [whole, member])
    have uneven := apart x member
    cases compared : order v x with
    | lt => exact kept compared
    | eq => simp [compared] at uneven
    | gt => exact below compared
  · exact (not_before_iff x v).mpr (least x (by simp [whole, member]))

theorem sorted_last (items front : List Json) (v : Json) (last : sorted items = front ++ [v]) :
    Picked GreatestKeeps items v := by
  have stable := sorted_stable items v
  rw [last, List.filter_append, List.filter_cons_of_pos (by simp [order_self]), List.filter_nil] at stable
  obtain ⟨start, ending, rfl, _, even⟩ := List.filter_eq_append_iff.mp stable.symm
  obtain ⟨before, after, rfl, _, _, none⟩ := List.filter_eq_cons_iff.mp even
  have greatest := last_greatest _ front v last
  refine ⟨start ++ before, after, by simp, fun x member => ?_, fun x member => ?_⟩
  · refine (not_before_iff v x).mpr (greatest x ?_)
    rcases List.mem_append.mp member with early | late
    · simp [early]
    · simp [late]
  · have below := greatest x (by simp [member])
    have uneven := List.filter_eq_nil_iff.mp none x member
    rw [order_swap v x] at below
    rw [GreatestKeeps, order_swap v x]
    cases compared : order v x with
    | lt => exact absurd rfl (compared ▸ below)
    | eq => simp [compared] at uneven
    | gt => rfl

theorem least_sorted (items : List Json) : Filter.least? items = (sorted items).head? := by
  cases items with
  | nil =>
      rw [sorted, List.mergeSort_nil]
      rfl
  | cons first rest =>
      obtain ⟨least, scanned, picked⟩ := least_picked first rest
      cases split : sorted (first :: rest) with
      | nil => exact absurd (split ▸ (sorted_perm (first :: rest)).symm) (by simp)
      | cons v tail =>
          rw [scanned, picked_once LeastKeeps _ _ _ picked (sorted_first _ tail v split)]
          rfl

theorem greatest_sorted (items : List Json) : Filter.greatest? items = (sorted items).getLast? := by
  cases items with
  | nil =>
      rw [sorted, List.mergeSort_nil]
      rfl
  | cons first rest =>
      obtain ⟨greatest, scanned, picked⟩ := greatest_picked first rest
      rcases List.eq_nil_or_concat (sorted (first :: rest)) with none | ⟨front, v, split⟩
      · exact absurd (none ▸ (sorted_perm (first :: rest)).symm) (by simp)
      · rw [List.concat_eq_append] at split
        rw [scanned, split, List.getLast?_concat,
          picked_once GreatestKeeps _ _ _ picked (sorted_last _ front v split)]

-- The same values from the least to the greatest, those that are even with each other as they came.
structure StablySorted (items result : List Json) : Prop where
  perm : result.Perm items
  ordered : result.Pairwise fun a b => order a b ≠ .gt
  stable : ∀ v, result.filter (order v · == .eq) = items.filter (order v · == .eq)

end Json

namespace Filter

section

variable (items : List Json)

theorem evaluate_sort : evaluate (.call .sort []) (.array items) = .ok [.array (Json.sorted items)] := by
  rw [evaluate, run]
  rfl

theorem evaluate_behind_sort (next : Filter) :
    evaluate (.binary .pipe (.call .sort []) next) (.array items) = evaluate next (.array (Json.sorted items)) := by
  have sorts : run (.call .sort []) (.array items) = .ok [.array (Json.sorted items)] := by
    rw [run]
    rfl
  rw [evaluate, run_pipe, sorts, evaluate]
  exact congrArg Outcome.toExcept (Outcome.each_single (run next) (.array (Json.sorted items)))

theorem evaluate_first : evaluate (.call .first []) (.array items) = .ok [items.head?.getD .null] := by
  rw [evaluate, run, ← List.headD_eq_head?_getD]
  rfl

theorem evaluate_last : evaluate (.call .last []) (.array items) = .ok [items.getLast?.getD .null] := by
  rw [evaluate, run, ← List.getLastD_eq_getLast?]
  rfl

theorem evaluate_min : evaluate (.call .min []) (.array items) = .ok [(least? items).getD .null] := by
  rw [evaluate, run]
  rfl

theorem evaluate_max : evaluate (.call .max []) (.array items) = .ok [(greatest? items).getD .null] := by
  rw [evaluate, run]
  rfl

end

theorem sorting_agrees :
    (∀ v : Json, Json.order v v = .eq) ∧
      (∀ a b : Json, Json.order a b ≠ .gt ∨ Json.order b a ≠ .gt) ∧
      (∀ a b : Json, Json.order a b ≠ .gt → Json.order b a ≠ .gt → Json.order a b = .eq) ∧
      (∀ a b c : Json, Json.order a b ≠ .gt → Json.order b c ≠ .gt → Json.order a c ≠ .gt) ∧
      (∀ m n : Number, Binary64.isNaN m.toFloat = false → Binary64.isNaN n.toFloat = false →
        Binary64.compare? m.toFloat n.toFloat = some (Json.order (.number m) (.number n))) ∧
      ∀ items : List Json,
        (∃ result, evaluate (.call .sort []) (.array items) = .ok [.array result] ∧ Json.StablySorted items result) ∧
          evaluate (.call .min []) (.array items) =
            evaluate (.binary .pipe (.call .sort []) (.call .first [])) (.array items) ∧
          evaluate (.call .max []) (.array items) =
            evaluate (.binary .pipe (.call .sort []) (.call .last [])) (.array items) ∧
          ∃ least greatest, evaluate (.call .min []) (.array items) = .ok [least] ∧
            evaluate (.call .max []) (.array items) = .ok [greatest] := by
  refine ⟨Json.order_self, fun a b => ?_, fun a b before after => ?_, fun a b c before after => ?_,
    fun m n first second => ?_, fun items => ⟨⟨_, evaluate_sort items, ?_⟩, ?_, ?_, ?_⟩⟩
  · rw [Json.order_swap a b]
    cases Json.order a b <;> simp
  · rw [Json.order_swap a b] at after
    cases compared : Json.order a b <;> simp [compared] at before after ⊢
  · rw [ne_eq, ← Ordering.isLE_iff_ne_gt] at before after ⊢
    exact Std.TransCmp.isLE_trans before after
  · rw [Binary64.compare?, first, second]
    rfl
  · exact ⟨Json.sorted_perm items, Json.sorted_ordered items, Json.sorted_stable items⟩
  · rw [evaluate_behind_sort, evaluate_first, evaluate_min, Json.least_sorted]
  · rw [evaluate_behind_sort, evaluate_last, evaluate_max, Json.greatest_sorted]
  · exact ⟨_, _, evaluate_min items, evaluate_max items⟩

def wholeBehind : Json := .array [.null, .number (.int 1)]

def doubleBehind : Json := .array [.null, .number (.float (Binary64.ofInt 1))]

theorem even_arrays_ordered :
    Json.order (.array [.null]) wholeBehind ≠ .gt ∧ Json.order wholeBehind doubleBehind ≠ .gt ∧
      Json.order doubleBehind wholeBehind ≠ .gt ∧ Binary64.isNaN (Number.int 1).toFloat = false ∧
      Json.order (.array [.null]) doubleBehind ≠ .gt ∧ Json.order wholeBehind doubleBehind = .eq ∧
      Binary64.compare? (Number.int 1).toFloat (Number.int 1).toFloat = some .eq ∧
      evaluate (.call .max []) (.array [wholeBehind, doubleBehind]) =
        evaluate (.binary .pipe (.call .sort []) (.call .last [])) (.array [wholeBehind, doubleBehind]) := by
  have shorter : Json.order (.array [.null]) wholeBehind ≠ .gt := by decide +kernel
  have there : Json.order wholeBehind doubleBehind ≠ .gt := by decide +kernel
  have back : Json.order doubleBehind wholeBehind ≠ .gt := by decide +kernel
  have number : Binary64.isNaN (Number.int 1).toFloat = false := by decide +kernel
  obtain ⟨self, _, even, transitive, doubles, sorts⟩ := sorting_agrees
  refine ⟨shorter, there, back, number, transitive _ _ _ shorter there, even _ _ there back, ?_, (sorts _).2.2.1⟩
  rw [doubles _ _ number number, self]

end Filter

end LiveTable
