import LiveTable.Proofs.Index

namespace LiveTable.RowEvents

-- Every stored identity has an entry, and no entry points beyond the events.
structure Covers (es : RowEvents) : Prop where
  found : ∀ id ∈ es.ids, es.findIndex? id ≠ none
  inside : ∀ id place, es.findIndex? id = some place → place < es.size

-- The entry of an identity points to an event of another one.
def Misplaced (es : RowEvents) (id : String) : Prop :=
  ∃ place, es.findIndex? id = some place ∧ (es.at? place).map RowEvent.id ≠ some id

structure IndexSound (es : RowEvents) : Prop where
  stored : ∀ id, (es.findIndex? id).isSome ↔ id ∈ es.ids
  own : ∀ id place, es.findIndex? id = some place → (es.at? place).map RowEvent.id = some id

theorem sound_iff_placed {es : RowEvents} (covers : es.Covers) : es.IndexSound ↔ ∀ id, ¬ es.Misplaced id := by
  constructor
  · rintro sound id ⟨place, entry, other⟩
    exact other (sound.own id place entry)
  · intro placed
    have own (id : String) (place : Nat) (entry : es.findIndex? id = some place) :
        (es.at? place).map RowEvent.id = some id := by
      by_contra other
      exact placed id ⟨place, entry, other⟩
    refine ⟨fun id => ⟨fun entry => ?_, fun stored => Option.isSome_iff_ne_none.mpr (covers.found id stored)⟩, own⟩
    obtain ⟨place, entry⟩ := Option.isSome_iff_exists.mp entry
    exact List.mem_of_getElem? ((ids_at es place).trans (own id place entry))

theorem set_find (es : RowEvents) (place : Nat) (e : RowEvent) (id : String) :
    (es.set place e).findIndex? id = if id = e.id then some (min place es.size) else es.findIndex? id := by
  unfold set
  split
  · rename_i inside
    rw [Nat.min_eq_left (Nat.le_of_lt inside)]
    exact PlaceIndex.find_insert es.index e.id id place
  · rename_i beyond
    rw [Nat.min_eq_right (Nat.le_of_not_lt beyond)]
    exact PlaceIndex.find_insert es.index e.id id es.size

theorem set_at (es : RowEvents) (place : Nat) (e : RowEvent) (other : Nat) :
    (es.set place e).at? other = if other = min place es.size then some e else es.at? other := by
  unfold set
  split
  · rename_i inside
    have bound : place < es.toList.length := inside
    rw [Nat.min_eq_left (Nat.le_of_lt inside), at?, List.getElem?_set, if_pos bound, at?]
    simp only [eq_comm]
  · rename_i beyond
    rw [Nat.min_eq_right (Nat.le_of_not_lt beyond), at?, add, List.getElem?_append, List.getElem?_singleton,
      at?, size]
    rcases Nat.lt_trichotomy other es.toList.length with less | same | more
    · rw [if_pos less, if_neg (Nat.ne_of_lt less)]
    · subst same
      simp
    · rw [if_neg (Nat.lt_asymm more), if_neg (by omega), if_neg (Nat.ne_of_gt more),
        List.getElem?_eq_none (Nat.le_of_lt more)]

theorem set_size (es : RowEvents) (place : Nat) (e : RowEvent) :
    (es.set place e).size = max es.size (min place es.size + 1) := by
  unfold set
  split
  · rename_i inside
    have kept : (es.toList.set place e).length = es.size := List.length_set
    rw [size, kept]
    omega
  · rename_i beyond
    have more : (es.toList ++ [e]).length = es.size + 1 := by simp [size]
    rw [add, size, more]
    omega

theorem mem_ids_at (es : RowEvents) (id : String) :
    id ∈ es.ids ↔ ∃ place, (es.at? place).map RowEvent.id = some id := by
  simp only [List.mem_iff_getElem?, ids_at]

theorem set_covers {es : RowEvents} (covers : es.Covers) (place : Nat) (e : RowEvent) : (es.set place e).Covers := by
  have size := set_size es place e
  constructor
  · intro id stored
    obtain ⟨other, held⟩ := (mem_ids_at _ id).mp stored
    rw [set_at] at held
    rw [set_find]
    split
    · exact Option.some_ne_none _
    · rename_i different
      split at held
      · exact absurd (Option.some.inj held).symm different
      · exact covers.found id ((mem_ids_at es id).mpr ⟨other, held⟩)
  · intro id other entry
    rw [set_find] at entry
    split at entry
    · cases entry
      omega
    · have bound := covers.inside id other entry
      omega

theorem set_misplaced {es : RowEvents} (covers : es.Covers) (place : Nat) (e : RowEvent) (id : String) :
    (es.set place e).Misplaced id ↔ id ≠ e.id ∧ (es.findIndex? id = some place ∨ es.Misplaced id) := by
  unfold Misplaced
  simp only [set_find, set_at]
  by_cases same : id = e.id
  · simp [same]
  · simp only [ne_eq, same, not_false_eq_true, true_and, if_false]
    cases entry : es.findIndex? id with
    | none => simp
    | some other =>
        have bound := covers.inside id other entry
        simp only [Option.some.injEq, exists_eq_left']
        by_cases written : other = min place es.size
        · have here : other = place := by omega
          rw [if_pos written, Option.map_some, Option.some.injEq]
          exact iff_of_true (Ne.symm same) (.inl here)
        · have apart : other ≠ place := by omega
          rw [if_neg written, or_iff_right apart]

theorem empty_placed : empty.Covers ∧ ∀ id, ¬ empty.Misplaced id := by
  have nothing (id : String) : empty.findIndex? id = none := rfl
  refine ⟨⟨fun id stored => absurd stored (List.not_mem_nil), fun id place entry => ?_⟩, ?_⟩
  · rw [nothing] at entry
    cases entry
  · rintro id ⟨place, entry, _⟩
    rw [nothing] at entry
    cases entry

theorem add_set (es : RowEvents) (e : RowEvent) : es.add e = es.set es.size e := (if_neg (Nat.lt_irrefl _)).symm

theorem reindex_placed (events : List RowEvent) : (reindex events).Covers ∧ ∀ id, ¬ (reindex events).Misplaced id := by
  induction events using List.reverseRecOn with
  | nil => exact empty_placed
  | append_singleton events e ih =>
      obtain ⟨covers, placed⟩ := ih
      rw [reindex_append, add_set]
      refine ⟨set_covers covers _ e, fun id misplaced => ?_⟩
      rcases ((set_misplaced covers _ e id).mp misplaced).2 with beyond | before
      · exact Nat.lt_irrefl _ (covers.inside id _ beyond)
      · exact placed id before

inductive Operation where
  | add (e : RowEvent)
  | set (place : Nat) (e : RowEvent)
  | upsert (e : RowEvent)
  | delete (id : String)
  | retain (ids : List String)
  | clear
  | sort (o : CellOrder) (column : Nat) (ascending : Bool)

def perform? (es : RowEvents) : Operation → Option RowEvents
  | .add e => some (es.add e)
  | .set place e => some (es.set place e)
  | .upsert e => some (es.upsert e)
  | .delete id => some ((es.delete? id).getD es)
  | .retain ids => some (es.retain ids)
  | .clear => some empty
  | .sort o column ascending => es.sort? o column ascending

def after? (ops : List Operation) : Option RowEvents := ops.foldlM perform? empty

def write? (es : RowEvents) : Operation → Option (Nat × RowEvent)
  | .add e => some (es.size, e)
  | .set place e => some (place, e)
  | .upsert e => some ((es.findIndex? e.id).getD es.size, e)
  | _ => none

def rebuilds (es : RowEvents) : Operation → Bool
  | .delete id => (es.findIndex? id).isSome
  | .retain ids => es.toList.any fun e => !ids.contains e.id
  | .clear | .sort .. => true
  | _ => false

theorem upsert_set (es : RowEvents) (e : RowEvent) : es.upsert e = es.set ((es.findIndex? e.id).getD es.size) e := by
  unfold upsert
  split
  · rename_i place entry
    rw [entry, Option.getD_some]
  · rename_i missing
    rw [missing, Option.getD_none, add_set]

theorem perform_cases {es next : RowEvents} (op : Operation) (done : es.perform? op = some next) :
    (∃ place e, es.write? op = some (place, e) ∧ es.rebuilds op = false ∧ next = es.set place e) ∨
      (es.write? op = none ∧ es.rebuilds op = true ∧ ∃ events, next = reindex events) ∨
        (es.write? op = none ∧ es.rebuilds op = false ∧ next = es) := by
  cases op with
  | sort o column ascending =>
      obtain ⟨events, _, rfl⟩ := Option.map_eq_some_iff.mp done
      exact .inr (.inl ⟨rfl, rfl, events, rfl⟩)
  | add e =>
      cases done
      exact .inl ⟨_, _, rfl, rfl, add_set es e⟩
  | set place e =>
      cases done
      exact .inl ⟨_, _, rfl, rfl, rfl⟩
  | upsert e =>
      cases done
      exact .inl ⟨_, _, rfl, rfl, upsert_set es e⟩
  | delete id =>
      cases done
      cases entry : es.findIndex? id with
      | none => exact .inr (.inr ⟨rfl, by simp [rebuilds, entry], by simp [delete?, entry]⟩)
      | some place =>
          refine .inr (.inl ⟨rfl, by simp [rebuilds, entry], es.toList.eraseIdx place, ?_⟩)
          rw [delete?, entry, Option.map_some, Option.getD_some]
  | retain ids =>
      cases done
      have kept : (es.toList.filter fun e => ids.contains e.id).length = es.size ↔
          es.rebuilds (.retain ids) = false := by
        rw [size, List.length_filter_eq_length_iff]
        simp [rebuilds]
      cases rebuilt : es.rebuilds (.retain ids) with
      | true =>
          rw [rebuilt, Bool.true_eq_false, iff_false] at kept
          exact .inr (.inl ⟨rfl, rfl, _, if_neg kept⟩)
      | false => exact .inr (.inr ⟨rfl, rfl, if_pos (kept.mpr rebuilt)⟩)
  | clear =>
      cases done
      exact .inr (.inl ⟨rfl, rfl, [], rfl⟩)

-- An operation writes an event of another identity where the entry of this one points.
def Displaces (es : RowEvents) (op : Operation) (id : String) : Prop :=
  ∃ place e, es.write? op = some (place, e) ∧ e.id ≠ id ∧ es.findIndex? id = some place

-- An operation makes the entry of an identity anew, alone or with all others.
def Renews (es : RowEvents) (op : Operation) (id : String) : Prop :=
  es.rebuilds op = true ∨ ∃ place e, es.write? op = some (place, e) ∧ e.id = id

theorem perform_covers {es next : RowEvents} (covers : es.Covers) (op : Operation) (done : es.perform? op = some next) :
    next.Covers := by
  obtain ⟨place, e, _, _, rfl⟩ | ⟨_, _, events, rfl⟩ | ⟨_, _, rfl⟩ := perform_cases op done
  · exact set_covers covers place e
  · exact (reindex_placed events).1
  · exact covers

theorem perform_misplaced {es next : RowEvents} (covers : es.Covers) (op : Operation)
    (done : es.perform? op = some next) (id : String) :
    next.Misplaced id ↔ es.Displaces op id ∨ es.Misplaced id ∧ ¬ es.Renews op id := by
  obtain ⟨place, e, write, rebuilt, rfl⟩ | ⟨write, rebuilt, events, rfl⟩ | ⟨write, rebuilt, rfl⟩ :=
    perform_cases op done
  · have displaces : es.Displaces op id ↔ e.id ≠ id ∧ es.findIndex? id = some place := by
      simp [Displaces, write]
    have renews : es.Renews op id ↔ e.id = id := by simp [Renews, write, rebuilt]
    rw [set_misplaced covers, displaces, renews, ne_comm, and_comm (a := es.Misplaced id), ← and_or_left]
  · have placed := (reindex_placed events).2 id
    simp [placed, Displaces, Renews, write, rebuilt]
  · simp [Displaces, Renews, write, rebuilt]

theorem after_append (ops : List Operation) (op : Operation) :
    after? (ops ++ [op]) = (after? ops).bind fun es => es.perform? op := by
  simp [after?, List.foldlM_append]

theorem perform_stops_iff (es : RowEvents) (op : Operation) : es.perform? op = none ↔
    ∃ o column ascending, op = .sort o column ascending ∧ es.sort? o column ascending = none := by
  cases op with
  | sort o column ascending =>
      refine ⟨fun stops => ⟨o, column, ascending, rfl, stops⟩, ?_⟩
      rintro ⟨_, _, _, same, stops⟩
      cases same
      exact stops
  | add | set | upsert | delete | retain | clear => simp [perform?]

theorem run_stops_iff (ops : List Operation) : after? ops = none ↔
    ∃ n o column ascending es, ops[n]? = some (.sort o column ascending) ∧ after? (ops.take n) = some es ∧
      es.sort? o column ascending = none := by
  induction ops using List.reverseRecOn with
  | nil => exact iff_of_false nofun (by simp)
  | append_singleton ops op ih =>
      have within {n : Nat} {sorted : Operation} (read : ops[n]? = some sorted) :
          (ops ++ [op])[n]? = some sorted ∧ (ops ++ [op]).take n = ops.take n := by
        have inside : n < ops.length := (List.getElem?_eq_some_iff.mp read).1
        exact ⟨by rw [List.getElem?_append_left inside, read], List.take_append_of_le_length (Nat.le_of_lt inside)⟩
      rw [after_append]
      cases ran : after? ops with
      | none =>
          obtain ⟨n, o, column, ascending, es, read, before, stops⟩ := ih.mp ran
          have same := within read
          exact iff_of_true rfl ⟨n, o, column, ascending, es, same.1, same.2 ▸ before, stops⟩
      | some es =>
          rw [Option.bind_some, perform_stops_iff]
          constructor
          · rintro ⟨o, column, ascending, rfl, stops⟩
            exact ⟨ops.length, o, column, ascending, es, by simp, by simpa using ran, stops⟩
          · rintro ⟨n, o, column, ascending, before, read, reached, stops⟩
            rcases Nat.lt_trichotomy n ops.length with inside | rfl | beyond
            · rw [List.getElem?_append_left inside] at read
              rw [(within read).2] at reached
              have stopped := ih.mpr ⟨n, o, column, ascending, before, read, reached, stops⟩
              rw [stopped] at ran
              cases ran
            · rw [List.take_left] at reached
              cases ran.symm.trans reached
              exact ⟨o, column, ascending, by simpa using read, stops⟩
            · rw [List.getElem?_eq_none (by simp; omega)] at read
              cases read

theorem after_step {ops : List Operation} {n : Nat} {next : RowEvents} (ran : after? (ops.take (n + 1)) = some next) :
    ∃ es, after? (ops.take n) = some es ∧ match ops[n]? with
      | some op => es.perform? op = some next
      | none => next = es := by
  rw [List.take_add_one] at ran
  cases read : ops[n]? with
  | none =>
      rw [read, Option.toList_none, List.append_nil] at ran
      exact ⟨next, ran, rfl⟩
  | some op =>
      rw [read, Option.toList_some, after_append] at ran
      exact Option.bind_eq_some_iff.mp ran

theorem run_covers {ops : List Operation} {n : Nat} {es : RowEvents} (ran : after? (ops.take n) = some es) :
    es.Covers := by
  induction n generalizing es with
  | zero =>
      cases ran
      exact empty_placed.1
  | succ n ih =>
      obtain ⟨before, first, last⟩ := after_step ran
      cases read : ops[n]? with
      | none =>
          rw [read] at last
          exact last ▸ ih first
      | some op =>
          rw [read] at last
          exact perform_covers (ih first) op last

def HoldsAt (ops : List Operation) (n : Nat) (p : RowEvents → Operation → Prop) : Prop :=
  ∃ op es, ops[n]? = some op ∧ after? (ops.take n) = some es ∧ p es op

def DisplacedAt (ops : List Operation) (n : Nat) (id : String) : Prop := HoldsAt ops n (Displaces · · id)

def RenewedAt (ops : List Operation) (n : Nat) (id : String) : Prop := HoldsAt ops n (Renews · · id)

theorem holds_at_iff {ops : List Operation} {n : Nat} {es : RowEvents} (ran : after? (ops.take n) = some es)
    (p : RowEvents → Operation → Prop) : HoldsAt ops n p ↔ ∃ op, ops[n]? = some op ∧ p es op := by
  simp [HoldsAt, ran]

-- An operation of the run has displaced an identity, and none behind it has renewed the entry.
def Displaced (ops : List Operation) (id : String) : Prop :=
  ∃ n, DisplacedAt ops n id ∧ ∀ m, n < m → ¬ RenewedAt ops m id

theorem step_misplaced {ops : List Operation} {n : Nat} {es next : RowEvents} (first : after? (ops.take n) = some es)
    (ran : after? (ops.take (n + 1)) = some next) (id : String) :
    next.Misplaced id ↔ DisplacedAt ops n id ∨ es.Misplaced id ∧ ¬ RenewedAt ops n id := by
  obtain ⟨before, same, last⟩ := after_step ran
  cases first.symm.trans same
  rw [DisplacedAt, RenewedAt, holds_at_iff first, holds_at_iff first]
  cases read : ops[n]? with
  | none =>
      rw [read] at last
      simp [last]
  | some op =>
      rw [read] at last
      simp [perform_misplaced (run_covers first) op last]

theorem misplaced_at {ops : List Operation} {n : Nat} {es : RowEvents} (ran : after? (ops.take n) = some es)
    (id : String) : es.Misplaced id ↔ ∃ k < n, DisplacedAt ops k id ∧ ∀ m, k < m → m < n → ¬ RenewedAt ops m id := by
  induction n generalizing es with
  | zero =>
      cases ran
      exact iff_of_false (empty_placed.2 id) (by simp)
  | succ n ih =>
      obtain ⟨before, first, _⟩ := after_step ran
      rw [step_misplaced first ran, ih first]
      constructor
      · rintro (displaced | ⟨⟨k, before, displaced, kept⟩, unrenewed⟩)
        · exact ⟨n, Nat.lt_succ_self n, displaced, fun m later below => by omega⟩
        · refine ⟨k, Nat.lt_succ_of_lt before, displaced, fun m later below => ?_⟩
          rcases Nat.lt_succ_iff_lt_or_eq.mp below with earlier | rfl
          · exact kept m later earlier
          · exact unrenewed
      · rintro ⟨k, before, displaced, kept⟩
        rcases Nat.lt_succ_iff_lt_or_eq.mp before with earlier | rfl
        · exact .inr ⟨⟨k, earlier, displaced, fun m later below => kept m later (Nat.lt_succ_of_lt below)⟩,
            kept n earlier (Nat.lt_succ_self n)⟩
        · exact .inl displaced

theorem run_misplaced {ops : List Operation} {es : RowEvents} (ran : after? ops = some es) (id : String) :
    es.Misplaced id ↔ Displaced ops id := by
  have within {n : Nat} {p : RowEvents → Operation → Prop} (holds : HoldsAt ops n p) : n < ops.length := by
    obtain ⟨op, _, read, _⟩ := holds
    exact (List.getElem?_eq_some_iff.mp read).1
  rw [misplaced_at (n := ops.length) (by rwa [List.take_length])]
  constructor
  · rintro ⟨k, _, displaced, kept⟩
    exact ⟨k, displaced, fun m later renewed => kept m later (within renewed) renewed⟩
  · rintro ⟨k, displaced, kept⟩
    exact ⟨k, within displaced, displaced, fun m later _ => kept m later⟩

theorem misplaced_get {es : RowEvents} (covers : es.Covers) (id : String) :
    es.Misplaced id ↔ ∃ e, es.get? id = some e ∧ e.id ≠ id := by
  constructor
  · rintro ⟨place, entry, other⟩
    obtain ⟨e, read⟩ : ∃ e, es.at? place = some e := ⟨_, List.getElem?_eq_getElem (covers.inside id place entry)⟩
    rw [read, Option.map_some, ne_eq, Option.some.injEq] at other
    exact ⟨e, by rw [get?, entry, Option.bind_some, read], other⟩
  · rintro ⟨e, found, other⟩
    obtain ⟨place, entry, read⟩ := Option.bind_eq_some_iff.mp found
    exact ⟨place, entry, by simpa [read] using other⟩

theorem get_delete {es : RowEvents} (covers : es.Covers) (id : String) : es.get? id = none ∧ es.delete? id = none ∨
    ∃ before e behind, es.toList = before ++ e :: behind ∧ es.get? id = some e ∧
      (es.delete? id).map toList = some (before ++ behind) := by
  cases entry : es.findIndex? id with
  | none => exact .inl ⟨by rw [get?, entry, Option.bind_none], by rw [delete?, entry, Option.map_none]⟩
  | some place =>
      have inside : place < es.toList.length := covers.inside id place entry
      refine .inr ⟨es.toList.take place, es.toList[place], es.toList.drop (place + 1), ?_, ?_, ?_⟩
      · rw [← List.drop_eq_getElem_cons inside, List.take_append_drop]
      · rw [get?, entry, Option.bind_some, at?, List.getElem?_eq_getElem inside]
      · rw [delete?, entry, Option.map_some, Option.map_some, reindex, List.eraseIdx_eq_take_drop_succ]

theorem sound_displaced {es : RowEvents} (covers : es.Covers) (sound : es.IndexSound) {op : Operation} {id : String}
    (displaces : es.Displaces op id) : ∃ place e, op = .set place e ∧ e.id ≠ id ∧ es.findIndex? id = some place := by
  obtain ⟨place, e, write, other, entry⟩ := displaces
  have bound := covers.inside id place entry
  cases op with
  | add fresh =>
      cases write
      exact absurd bound (Nat.lt_irrefl _)
  | set place e =>
      cases write
      exact ⟨_, _, rfl, other, entry⟩
  | upsert fresh =>
      cases found : es.findIndex? fresh.id with
      | none =>
          rw [write?, found] at write
          cases write
          exact absurd bound (Nat.lt_irrefl _)
      | some here =>
          rw [write?, found] at write
          cases write
          -- One place cannot hold two identities.
          have same := (sound.own e.id here found).symm.trans (sound.own id here entry)
          exact absurd (Option.some.inj same) other
  | _ => cases write

theorem throughout_sound (ops : List Operation) :
    (∀ n es, after? (ops.take n) = some es → es.IndexSound) ↔
      ∀ n place e es, ops[n]? = some (.set place e) → after? (ops.take n) = some es →
        ∀ id, es.findIndex? id = some place → e.id = id := by
  constructor
  · intro sound n place e es read ran id entry
    by_contra other
    have next : after? (ops.take (n + 1)) = some (es.set place e) := by
      rw [List.take_add_one, read, Option.toList_some, after_append, ran]
      rfl
    have displaced : DisplacedAt ops n id := ⟨_, es, read, ran, place, e, rfl, other, entry⟩
    have lost := (step_misplaced ran next id).mpr (.inl displaced)
    exact (sound_iff_placed (run_covers next)).mp (sound (n + 1) _ next) id lost
  · intro calm n
    induction n with
    | zero =>
        rintro es ⟨⟩
        exact (sound_iff_placed empty_placed.1).mpr empty_placed.2
    | succ n ih =>
        intro next ran
        obtain ⟨es, first, _⟩ := after_step ran
        have covers := run_covers first
        refine (sound_iff_placed (run_covers ran)).mpr fun id misplaced => ?_
        rcases (step_misplaced first ran id).mp misplaced with displaced | ⟨before, _⟩
        · obtain ⟨op, read, displaces⟩ := (holds_at_iff first _).mp displaced
          obtain ⟨place, e, rfl, other, entry⟩ := sound_displaced covers (ih es first) displaces
          exact other (calm n place e es read first id entry)
        · exact (sound_iff_placed covers).mp (ih es first) id before

/-- A run stops only where a sort does. All along a run the index is sound exactly when no event is set over one of
another identity to which the index points. After a run that completes, every stored identity has an entry, and no entry
points beyond the events; the index is sound exactly when no identity is left displaced. What is found for an identity,
and no other event, is what deleting it removes; it belongs to another identity exactly when this one is left displaced. -/
theorem index_sound_iff (ops : List Operation) :
    (after? ops = none ↔ ∃ n o column ascending es, ops[n]? = some (.sort o column ascending) ∧
      after? (ops.take n) = some es ∧ es.sort? o column ascending = none) ∧
    ((∀ n es, after? (ops.take n) = some es → es.IndexSound) ↔
      ∀ n place e es, ops[n]? = some (.set place e) → after? (ops.take n) = some es →
        ∀ id, es.findIndex? id = some place → e.id = id) ∧
    ∀ es, after? ops = some es → es.Covers ∧ (es.IndexSound ↔ ∀ id, ¬ Displaced ops id) ∧
      ∀ id, (Displaced ops id ↔ ∃ e, es.get? id = some e ∧ e.id ≠ id) ∧
        (es.get? id = none ∧ es.delete? id = none ∨
          ∃ before e behind, es.toList = before ++ e :: behind ∧ es.get? id = some e ∧
            (es.delete? id).map toList = some (before ++ behind)) := by
  refine ⟨run_stops_iff ops, throughout_sound ops, fun es ran => ?_⟩
  have covers : es.Covers := run_covers (n := ops.length) (by rwa [List.take_length])
  refine ⟨covers, ?_, fun id => ⟨?_, get_delete covers id⟩⟩
  · simp only [sound_iff_placed covers, run_misplaced ran]
  · rw [← run_misplaced ran, misplaced_get covers]

def oneField (id field : String) : RowEvent := .plain .added ⟨id, [field]⟩

def repeatedRun : List Operation :=
  [.add (oneField "a" "1"), .add (oneField "a" "2"), .set 1 (oneField "a" "3"), .delete "a"]

theorem repeated_rows_found : (∀ n es, after? (repeatedRun.take n) = some es → es.IndexSound) ∧
    ∃ es, after? repeatedRun = some es ∧ es.toList = [oneField "a" "1"] ∧ es.get? "a" = some (oneField "a" "1") := by
  refine ⟨(index_sound_iff repeatedRun).2.1.mpr ?_, _, rfl, by decide, by decide⟩
  intro n place e es read ran id entry
  match n with
  | 0 | 1 | 3 => cases read
  | n + 4 => cases read
  | 2 =>
      cases read
      cases ran
      by_contra other
      have different : id ≠ "a" := Ne.symm other
      have entries : (((empty.add (oneField "a" "1")).add (oneField "a" "2")).findIndex? id) =
        if id = "a" then some 1 else (PlaceIndex.insert [] "a" 0).find? id := PlaceIndex.find_insert _ "a" id 1
      rw [entries, if_neg different, PlaceIndex.find_insert, if_neg different] at entry
      cases entry

def replacedRun : List Operation := [.add (oneField "a" "1"), .set 0 (oneField "b" "2")]

theorem replaced_row_found :
    ∃ es, after? replacedRun = some es ∧ ¬ es.IndexSound ∧ "a" ∉ es.ids ∧ es.findIndex? "a" = some 0 ∧
      es.get? "a" = some (oneField "b" "2") ∧ (es.delete? "a").map toList = some [] := by
  refine ⟨_, rfl, fun sound => ?_, by decide, by decide, by decide, by decide⟩
  exact absurd (sound.own "a" 0 (by decide)) (by decide)

end LiveTable.RowEvents
