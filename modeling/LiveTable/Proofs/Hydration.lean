import LiveTable.Proofs.Reconciliation

namespace LiveTable

theorem map_m_some {α β : Type} (f : α → Option β) (as : List α) (bs : List β) (made : as.mapM f = some bs) :
    bs.map some = as.map f := by
  induction as generalizing bs with
  | nil =>
      cases made
      rfl
  | cons a as ih =>
      rw [List.mapM_cons] at made
      obtain ⟨b, first, more⟩ := Option.bind_eq_some_iff.mp made
      obtain ⟨rest, others, given⟩ := Option.bind_eq_some_iff.mp more
      cases given
      rw [List.map_cons, List.map_cons, first, ih rest others]

theorem map_m_none_iff {α β : Type} (f : α → Option β) (as : List α) :
    as.mapM f = none ↔ ∃ a ∈ as, f a = none := by
  induction as with
  | nil => simp
  | cons a as ih =>
      rw [List.mapM_cons, List.exists_mem_cons_iff, ← ih]
      cases f a <;> cases as.mapM f <;> simp

namespace Renderer

variable (r : Renderer) (now : Int) (ns : String)

def row? (object : Json) : Option Row := (r.render now ns object).bind Except.toOption

def accepts (object : Json) : Bool := (r.row? now ns object).isSome

theorem row_rendered (object : Json) (row : Row) (given : r.row? now ns object = some row) :
    r.render now ns object = some (.ok row) := by
  obtain ⟨result, rendered, accepted⟩ := Option.bind_eq_some_iff.mp given
  cases result with
  | error e => cases accepted
  | ok same =>
      cases accepted
      exact rendered

def placed (objects : List Json) : List (Nat × Row) :=
  objects.zipIdx.filterMap fun (object, place) => (r.row? now ns object).map (place, ·)

theorem hydrate_stops_iff (objects : List Json) :
    r.hydrate? now ns objects = none ↔ ∃ object ∈ objects, r.render now ns object = none := by
  rw [← map_m_none_iff (r.render now ns), hydrate?]
  cases objects.mapM (r.render now ns) <;> simp

theorem hydrate_placed (objects : List Json) (rendered : List (Nat × Row))
    (hydrated : r.hydrate? now ns objects = some rendered) : rendered = r.placed now ns objects := by
  obtain ⟨results, made, given⟩ := Option.bind_eq_some_iff.mp hydrated
  cases given
  let place (p : Option (Except ReadError Row) × Nat) : Option (Nat × Row) :=
    (p.1.bind Except.toOption).map (p.2, ·)
  have same : (results.map some).zipIdx.filterMap place = (objects.map (r.render now ns)).zipIdx.filterMap place := by
    rw [map_m_some _ _ _ made]
  rw [List.zipIdx_map, List.zipIdx_map, List.filterMap_map, List.filterMap_map] at same
  exact same

theorem placed_object (objects : List Json) (entry : Nat × Row) (member : entry ∈ r.placed now ns objects) :
    ∃ object, objects[entry.1]? = some object ∧ r.row? now ns object = some entry.2 := by
  obtain ⟨⟨object, place⟩, given, made⟩ := List.mem_filterMap.mp member
  obtain ⟨row, rendered, rfl⟩ := Option.map_eq_some_iff.mp made
  exact ⟨object, List.mem_zipIdx_iff_getElem?.mp given, rendered⟩

end Renderer

namespace Table

def layRow (now : Int) (builtin : Header) (specs : ColumnSpecs) (object : Json) (row : Row) : Row :=
  if specs.isEmpty then row else specs.realize now object builtin row

def rowOf? (now : Int) (r : Renderer) (specs : ColumnSpecs) (ns : String) (object : Json) : Option Row :=
  (r.row? now ns object).map (layRow now (r.header ns) specs object)

section

variable (now : Int) (r : Renderer) (specs : ColumnSpecs) (ns : String) (objects : List Json)

theorem placed_rows :
    ((r.placed now ns objects).filterMap fun entry =>
      objects[entry.1]?.map fun object => layRow now (r.header ns) specs object entry.2) =
      objects.filterMap (rowOf? now r specs ns) := by
  rw [Renderer.placed, List.filterMap_filterMap]
  calc objects.zipIdx.filterMap _
    _ = objects.zipIdx.filterMap fun p => rowOf? now r specs ns p.1 := by
        refine List.filterMap_congr fun (object, place) member => ?_
        have found : objects[place]? = some object := by
          simpa using List.mem_zipIdx_iff_getElem?.mp member
        cases read : r.row? now ns object <;> simp [rowOf?, read, found]
    _ = (objects.zipIdx.map Prod.fst).filterMap (rowOf? now r specs ns) := by
        rw [List.filterMap_map]
        rfl
    _ = objects.filterMap (rowOf? now r specs ns) := by rw [List.zipIdx_map_fst]

theorem lay_rows :
    layRows? now (r.header ns) specs objects (r.placed now ns objects) =
      some (objects.filterMap (rowOf? now r specs ns)) := by
  have known := r.placed_object now ns objects
  rw [← placed_rows]
  unfold layRows? layRow
  generalize r.placed now ns objects = entries at known
  split
  · rename_i builtin
    congr 1
    induction entries with
    | nil => rfl
    | cons entry rest ih =>
        obtain ⟨object, found, _⟩ := known entry List.mem_cons_self
        rw [List.map_cons, List.filterMap_cons, found, ih fun other member => known other (.tail _ member)]
        simp
  · rename_i declared
    induction entries with
    | nil => rfl
    | cons entry rest ih =>
        obtain ⟨object, found, _⟩ := known entry List.mem_cons_self
        simp only [List.mapM_cons, found, ih fun other member => known other (.tail _ member), List.filterMap_cons]
        simp

end

theorem reconcile_stops_iff (now : Int) (t : Table) (r : Renderer) (specs : ColumnSpecs) (objects : List Json) :
    t.reconcile? now r specs objects = none ↔ ∃ object ∈ objects, r.render now t.ns object = none := by
  rw [← r.hydrate_stops_iff]
  cases hydrated : r.hydrate? now t.ns objects with
  | none => simp [reconcile?, hydrated]
  | some rendered =>
      rw [r.hydrate_placed now t.ns objects rendered hydrated] at hydrated
      simp only [reconcile?, hydrated, Option.bind_eq_bind, Option.bind_some, lay_rows]
      split <;> simp

theorem reconcile_renders (now : Int) (t : Table) (r : Renderer) (specs : ColumnSpecs) (objects : List Json)
    (completes : t.reconcile? now r specs objects ≠ none) : ∀ object ∈ objects, r.render now t.ns object ≠ none :=
  fun object member stops => completes ((reconcile_stops_iff now t r specs objects).mpr ⟨object, member, stops⟩)

theorem reconcile_completes (now : Int) (t : Table) (r : Renderer) (specs : ColumnSpecs) (objects : List Json)
    (renders : ∀ object ∈ objects, r.render now t.ns object ≠ none) :
    t.reconcile? now r specs objects =
      if layout (r.header t.ns) specs = [] then some (t, .error (emptyHeaderMessage t.ns))
      else some ((t.relayout (layout (r.header t.ns) specs)).update (objects.filterMap (rowOf? now r specs t.ns)),
        .ok ()) := by
  cases hydrated : r.hydrate? now t.ns objects with
  | none =>
      obtain ⟨object, member, stops⟩ := (r.hydrate_stops_iff now t.ns objects).mp hydrated
      exact absurd stops (renders object member)
  | some rendered =>
      rw [r.hydrate_placed now t.ns objects rendered hydrated] at hydrated
      simp only [reconcile?, hydrated, Option.bind_eq_bind, Option.bind_some, lay_rows, List.isEmpty_iff]
      rfl

end Table

end LiveTable
