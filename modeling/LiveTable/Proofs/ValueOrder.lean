import LiveTable.Json.Order
import Mathlib.Data.List.Basic

namespace LiveTable

-- What the results for a first and a second thing, a second and a third, and a first and a third have to do with
-- each other: what is even with the second compares as it does, and what comes before it stays before.
structure Transits (first second whole : Ordering) : Prop where
  even : first = .eq → whole = second
  before : first = .lt → second.isLE = true → whole = .lt

namespace Transits

theorem of_trans {α : Type} (order : α → α → Ordering) [Std.TransCmp order] (a b c : α) :
    Transits (order a b) (order b c) (order a c) where
  even same := Std.TransCmp.congr_left same
  before less after := Std.TransCmp.lt_of_lt_of_isLE less after

theorem reaches {first second whole : Ordering} (transits : Transits first second whole)
    (before : first.isLE = true) (after : second.isLE = true) : whole.isLE = true := by
  cases first with
  | lt => rw [transits.before rfl after]; rfl
  | eq => rw [transits.even rfl]; exact after
  | gt => cases before

theorem andThen {first second whole first' second' whole' : Ordering} (transits : Transits first second whole)
    (further : first = .eq → second = .eq → Transits first' second' whole') :
    Transits (first.then first') (second.then second') (whole.then whole') := by
  cases first with
  | lt =>
      refine ⟨nofun, fun _ after => ?_⟩
      have within : second.isLE = true := by cases second <;> first | rfl | cases after
      rw [transits.before rfl within]
      rfl
  | eq =>
      rw [transits.even rfl]
      cases second with
      | eq => exact further rfl rfl
      | lt => exact ⟨fun _ => rfl, fun _ _ => rfl⟩
      | gt => exact ⟨fun _ => rfl, fun _ after => nomatch after⟩
  | gt => exact ⟨nofun, nofun⟩

end Transits

namespace Json

def orderAlike : Json → Json → Ordering
  | number a, number b => compare (Binary64.key a.toFloat) (Binary64.key b.toFloat)
  | string a, string b => compare a b
  | array a, array b => orderItems a b
  | object a, object b => (compareKeys a b).then (orderValues a b)
  | _, _ => .eq

theorem order_ranked (a b : Json) : order a b = (compare a.rank b.rank).then (orderAlike a b) := by
  cases a with
  | bool p => cases p <;> cases b <;> simp [order, orderAlike, rank]
  | _ => cases b <;> simp [order, orderAlike, rank]

inductive Alike : Json → Json → Prop where
  | null : Alike null null
  | bool (p : Bool) : Alike (bool p) (bool p)
  | number (m n : Number) : Alike (number m) (number n)
  | string (s t : String) : Alike (string s) (string t)
  | array (as bs : List Json) : Alike (array as) (array bs)
  | object (as bs : List (String × Json)) : Alike (object as) (object bs)

theorem alike_of_rank {a b : Json} (even : compare a.rank b.rank = .eq) : Alike a b := by
  have ranks : a.rank = b.rank := Nat.compare_eq_eq.mp even
  cases a with
  | bool p =>
      cases b with
      | bool q => cases p <;> cases q <;> first | exact .bool _ | cases ranks
      | _ => cases p <;> cases ranks
  | _ =>
      cases b with
      | bool q => cases q <;> cases ranks
      | _ => first | constructor | cases ranks

theorem compare_keys_lex (as bs : List (String × Json)) :
    compareKeys as bs = List.compareLex compare (as.map Prod.fst) (bs.map Prod.fst) := by
  induction as generalizing bs with
  | nil => cases bs <;> rfl
  | cons a as ih =>
      cases bs with
      | nil => rfl
      | cons b bs =>
          rw [compareKeys, ih, List.map_cons, List.map_cons, List.compareLex_cons_cons]

theorem compare_keys_swap (as bs : List (String × Json)) : compareKeys bs as = (compareKeys as bs).swap := by
  rw [compare_keys_lex, compare_keys_lex]
  exact Std.OrientedCmp.eq_swap

theorem compare_keys_transits (as bs cs : List (String × Json)) :
    Transits (compareKeys as bs) (compareKeys bs cs) (compareKeys as cs) := by
  rw [compare_keys_lex, compare_keys_lex, compare_keys_lex]
  exact .of_trans _ _ _ _

theorem compare_keys_length (as bs : List (String × Json)) (even : compareKeys as bs = .eq) :
    as.length = bs.length := by
  rw [compare_keys_lex] at even
  simpa using congrArg List.length (Std.LawfulEqCmp.eq_of_compare even)

mutual

theorem order_swap (a b : Json) : order b a = (order a b).swap := by
  have alike : orderAlike b a = (orderAlike a b).swap := by
    cases a with
    | null => cases b <;> rfl
    | bool p => cases b <;> rfl
    | number m =>
        cases b with
        | number n => exact Std.OrientedOrd.eq_swap
        | _ => rfl
    | string s =>
        cases b with
        | string t => exact Std.OrientedOrd.eq_swap
        | _ => rfl
    | array as =>
        cases b with
        | array bs => exact order_items_swap as bs
        | _ => rfl
    | object as =>
        cases b with
        | object bs =>
            rw [orderAlike, orderAlike, Ordering.swap_then, order_values_swap as bs, compare_keys_swap as bs]
        | _ => rfl
  rw [order_ranked b a, order_ranked a b, Ordering.swap_then, alike]
  congr 1
  exact Std.OrientedOrd.eq_swap

theorem order_items_swap (as bs : List Json) : orderItems bs as = (orderItems as bs).swap := by
  cases as with
  | nil => cases bs <;> rfl
  | cons a as =>
      cases bs with
      | nil => rfl
      | cons b bs => rw [orderItems, orderItems, Ordering.swap_then, order_swap a b, order_items_swap as bs]

theorem order_values_swap (as bs : List (String × Json)) : orderValues bs as = (orderValues as bs).swap := by
  cases as with
  | nil => cases bs <;> rfl
  | cons a as =>
      cases bs with
      | nil => rfl
      | cons b bs => rw [orderValues, orderValues, Ordering.swap_then, order_swap a.2 b.2, order_values_swap as bs]

end

-- By induction on the first value, whose parts are compared with parts of the others; this is why a whole triple is
-- taken at once and not two values each.
mutual

theorem order_transits (a b c : Json) : Transits (order a b) (order b c) (order a c) := by
  rw [order_ranked a b, order_ranked b c, order_ranked a c]
  refine (Transits.of_trans compare a.rank b.rank c.rank).andThen fun first second => ?_
  have left := alike_of_rank first
  have right := alike_of_rank second
  cases a with
  | null | bool p =>
      cases left
      cases right
      exact ⟨fun _ => rfl, nofun⟩
  | number m =>
      cases left
      cases right
      exact .of_trans compare _ _ _
  | string s =>
      cases left
      cases right
      exact .of_trans compare _ _ _
  | array as =>
      cases left with
      | array _ bs =>
          cases right with
          | array _ cs => exact order_items_transits as bs cs
  | object as =>
      cases left with
      | object _ bs =>
          cases right with
          | object _ cs =>
              refine (compare_keys_transits as bs cs).andThen fun keys further => ?_
              exact order_values_transits as bs cs (compare_keys_length as bs keys) (compare_keys_length bs cs further)
termination_by structural a

theorem order_items_transits (as bs cs : List Json) :
    Transits (orderItems as bs) (orderItems bs cs) (orderItems as cs) := by
  cases as with
  | nil =>
      cases bs with
      | nil => exact ⟨fun _ => rfl, nofun⟩
      | cons b bs =>
          cases cs with
          | nil => exact ⟨nofun, nofun⟩
          | cons c cs => exact ⟨nofun, fun _ _ => rfl⟩
  | cons a as =>
      cases bs with
      | nil => exact ⟨nofun, nofun⟩
      | cons b bs =>
          cases cs with
          | nil => exact ⟨fun _ => rfl, nofun⟩
          | cons c cs => exact (order_transits a b c).andThen fun _ _ => order_items_transits as bs cs
termination_by structural as

theorem order_values_transits (as bs cs : List (String × Json)) (first : as.length = bs.length)
    (second : bs.length = cs.length) : Transits (orderValues as bs) (orderValues bs cs) (orderValues as cs) := by
  cases as with
  | nil =>
      cases bs with
      | nil => exact ⟨fun _ => rfl, nofun⟩
      | cons b bs => cases first
  | cons a as =>
      cases bs with
      | nil => cases first
      | cons b bs =>
          cases cs with
          | nil => cases second
          | cons c cs =>
              refine (order_transits a.2 b.2 c.2).andThen fun _ _ => ?_
              exact order_values_transits as bs cs (Nat.succ.inj first) (Nat.succ.inj second)
termination_by structural as

end

instance : Std.OrientedCmp order where
  eq_swap {a b} := order_swap b a

instance : Std.TransCmp order where
  isLE_trans {a b c} before after := (order_transits a b c).reaches before after

end Json

end LiveTable
