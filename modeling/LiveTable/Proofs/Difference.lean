import LiveTable.Proofs.Reconciliation
import Mathlib.Data.List.Forall2

namespace LiveTable

def blankAt (skip : Option Nat) (cells : List String) : List String :=
  match skip with
  | some i => cells.set i ""
  | none => cells

theorem blank_at_length (skip : Option Nat) (cells : List String) :
    (blankAt skip cells).length = cells.length := by
  cases skip <;> simp [blankAt]

theorem blank_at_get (skip : Option Nat) (cells : List String) (i : Nat) :
    (blankAt skip cells)[i]? = if some i = skip then cells[i]?.map fun _ => "" else cells[i]? := by
  cases skip with
  | none => simp [blankAt]
  | some k =>
      by_cases same : i = k
      · subst same
        simp only [blankAt, List.getElem?_set', if_true]
        rfl
      · simp [blankAt, same, List.getElem?_set_ne (Ne.symm same)]

theorem fields_differ_blank (left right : List String) (skip : Option Nat) :
    fieldsDiffer left right skip = false ↔ blankAt skip left = blankAt skip right := by
  have unfolded : fieldsDiffer left right skip = false ↔
      left.length = right.length ∧ ∀ i < left.length, some i ≠ skip → left[i]? = right[i]? := by
    simp [fieldsDiffer]
  rw [unfolded]
  constructor
  · rintro ⟨size, agree⟩
    apply List.ext_getElem?
    intro i
    rw [blank_at_get, blank_at_get]
    by_cases inside : i < left.length
    · split
      · simp [List.getElem?_eq_getElem inside, List.getElem?_eq_getElem (size ▸ inside)]
      · exact agree i inside ‹_›
    · have beyond := Nat.le_of_not_lt inside
      rw [List.getElem?_eq_none beyond, List.getElem?_eq_none (size ▸ beyond)]
  · intro same
    refine ⟨by simpa only [blank_at_length] using congrArg List.length same, fun i _ counted => ?_⟩
    have entry := congrArg (fun cells : List String => cells[i]?) same
    simpa only [blank_at_get, if_neg counted] using entry

namespace RowEvent

def ageless (age : Option Nat) (e : RowEvent) : RowEvent :=
  ⟨e.change, ⟨e.id, blankAt age e.row.fields⟩, blankAt age e.delta⟩

theorem differs_ageless (age : Option Nat) (e f : RowEvent) :
    e.differs f age = false ↔ e.ageless age = f.ageless age := by
  simp only [differs, Delta.differs, Row.differs, Bool.or_eq_false_iff, fields_differ_blank,
    bne_eq_false_iff_eq, ageless, RowEvent.mk.injEq, Row.mk.injEq, id]
  tauto

end RowEvent

theorem map_eq_zip {α β : Type} (f : α → β) (as bs : List α) :
    as.map f = bs.map f ↔ as.length = bs.length ∧ ∀ pair ∈ as.zip bs, f pair.1 = f pair.2 := by
  rw [← List.forall₂_eq_eq_eq, List.forall₂_map_left_iff, List.forall₂_map_right_iff, List.forall₂_iff_zip]
  simp only [Prod.forall]

theorem RowEvents.differs_ageless (age : Option Nat) (es fs : RowEvents) :
    es.differs fs age = false ↔ es.toList.map (·.ageless age) = fs.toList.map (·.ageless age) := by
  rw [map_eq_zip]
  simp [RowEvents.differs, size, ← RowEvent.differs_ageless]

def Column.looks (c : Column) : String × Align × Bool × Bool × Bool × Bool × Bool :=
  (c.name, c.align, c.wide, c.hidden, c.time, c.capacity, c.decorator.isSome)

theorem Column.same_looks (c d : Column) : c.same d = true ↔ c.looks = d.looks := by
  simp [same, looks, and_assoc]

theorem Header.same_looks (h k : Header) : h.same k = true ↔ h.map Column.looks = k.map Column.looks := by
  rw [map_eq_zip]
  simp [same, ← Column.same_looks]

theorem Delta.between_time (h : Header) (old new : Row) (i : Nat) (time : h.isTime i = true) :
    blankAt (some i) (Delta.between old new h) = Delta.between old new h := by
  apply List.ext_getElem?
  intro k
  rw [blank_at_get]
  split
  · rename_i same
    obtain rfl := Option.some.inj same
    by_cases inside : k < new.fields.length
    · cases read : old.fields[k]? <;> simp [Delta.between, inside, read, time]
    · simp [Delta.between, inside]
  · rfl

namespace Table

def ageless (t : Table) : String × Header × List RowEvent :=
  (t.ns, t.header, t.events.toList.map (·.ageless t.header.ageIndex?))

-- Deltas have nothing to show under columns of times.
def Timeless (t : Table) : Prop :=
  ∀ e ∈ t.events.toList, ∀ i, t.header.isTime i = true → blankAt (some i) e.delta = e.delta

theorem timeless_new (ns : String) : (new ns).Timeless := nofun

theorem arrival_timeless (t : Table) (es : RowEvents) (row : Row) (i : Nat) (time : t.header.isTime i = true) :
    blankAt (some i) (t.arrival es row).delta = (t.arrival es row).delta := by
  have blank (change : Change) : blankAt (some i) (RowEvent.plain change row).delta =
      (RowEvent.plain change row).delta := by
    simp [blankAt, RowEvent.plain, Delta.blank]
  unfold arrival eventOf RowEvent.ofNext
  dsimp only
  split
  · exact blank .added
  · split
    · exact blank .added
    · split
      · exact blank .unchanged
      · exact Delta.between_time t.header _ row i time

theorem update_timeless (t : Table) (rows : List Row) (timeless : t.Timeless) : (t.update rows).Timeless := by
  refine update_forall (fun e => ∀ i, t.header.isTime i = true → blankAt (some i) e.delta = e.delta)
    t rows timeless ?_
  exact fun es row i time => arrival_timeless t es row i time

theorem relayout_timeless (t : Table) (h : Header) (timeless : t.Timeless) : (t.relayout h).Timeless := by
  unfold relayout
  split
  · exact timeless
  · nofun

-- A header that looks the same is kept, so a table that does not differ from the one before has the very
-- same header, and its ages in the same place.
theorem relayout_unchanged (t : Table) (h : Header) (rows : List Row)
    (quiet : ((t.relayout h).update rows).differs t = false) :
    ((t.relayout h).update rows).ageless = t.ageless := by
  simp only [differs, Bool.or_eq_false_iff, Bool.not_eq_false', bne_eq_false_iff_eq] at quiet
  obtain ⟨⟨ns, alike⟩, events⟩ := quiet
  have header : ((t.relayout h).update rows).header = t.header := by
    by_cases same : t.header.same h = true
    · rw [relayout, if_pos same]
      rfl
    · rw [relayout, if_neg same] at alike
      exact absurd ((Header.same_looks _ _).mpr ((Header.same_looks _ _).mp alike).symm) same
  rw [RowEvents.differs_ageless, header] at events
  simp only [ageless, ns, header, events]

theorem deltas_of_ageless (t u : Table) (alike : t.ageless = u.ageless) (first : t.Timeless) (second : u.Timeless)
    (time : t.header.ageIndex?.all t.header.isTime = true) :
    t.events.toList.map (·.delta) = u.events.toList.map (·.delta) := by
  simp only [ageless, Prod.mk.injEq] at alike
  obtain ⟨_, header, events⟩ := alike
  have whole (w : Table) (timeless : w.Timeless) (same : t.header = w.header) :
      (w.events.toList.map (·.ageless t.header.ageIndex?)).map (·.delta) = w.events.toList.map (·.delta) := by
    rw [List.map_map]
    refine List.map_congr_left fun e member => ?_
    cases place : t.header.ageIndex? with
    | none => rfl
    | some i =>
        rw [place, Option.all_some, same] at time
        exact timeless e member i time
  rw [← whole t first rfl, events, ← header, whole u second header]

end Table

end LiveTable
