import LiveTable.Query.ColumnSpecs
import LiveTable.Table.Header
import Mathlib.Data.List.Nodup

namespace LiveTable

theorem read_by_place {α : Type} (xs : List α) : (List.range xs.length).map (xs[·]?) = xs.map some := by
  refine List.ext_getElem (by simp) fun i _ inside => ?_
  rw [List.length_map] at inside
  simp [inside]

def Header.Distinct (h : Header) : Prop := (h.map (·.name)).Nodup

theorem Header.Distinct.one_place (h : Header) (distinct : h.Distinct) (c d : Column) (i j : Nat)
    (first : h[i]? = some c) (second : h[j]? = some d) (named : c.name = d.name) : i = j := by
  have inside : i < (h.map (·.name)).length := by
    rw [List.length_map]
    exact (List.getElem?_eq_some_iff.mp first).1
  refine (List.getElem?_inj inside distinct).mp ?_
  rw [List.getElem?_map, List.getElem?_map, first, second, Option.map_some, Option.map_some, named]

namespace Column

-- A declared column after it has taken over what the columns of its name in a header have.
def taking (c : Column) (h : Header) : Column := (h.filter (·.name == c.name)).foldl merge c

theorem taking_cons (c builtin : Column) (rest : Header) :
    c.taking (builtin :: rest) = (if c.name == builtin.name then c.merge builtin else c).taking rest := by
  by_cases same : c.name = builtin.name
  · have kept : (c.merge builtin).name = c.name := rfl
    simp only [taking, same, beq_self_eq_true, List.filter_cons_of_pos, List.foldl_cons, if_true, kept]
  · simp [taking, same, Ne.symm same]

theorem taking_name (c : Column) (h : Header) : (c.taking h).name = c.name := by
  unfold taking
  generalize h.filter (·.name == c.name) = taken
  induction taken generalizing c with
  | nil => rfl
  | cons builtin rest ih => exact ih (c.merge builtin)

theorem taking_mark (mark : Column → Bool) (c : Column) (h : Header)
    (adds : ∀ custom builtin, mark (merge custom builtin) = (mark custom || mark builtin)) :
    mark (c.taking h) = (mark c || h.any fun builtin => builtin.name == c.name && mark builtin) := by
  rw [taking, ← List.any_filter]
  generalize h.filter (·.name == c.name) = taken
  induction taken generalizing c with
  | nil => simp
  | cons builtin rest ih => rw [List.foldl_cons, ih, adds, List.any_cons, Bool.or_assoc]

theorem taking_time (c : Column) (h : Header) :
    (c.taking h).time = (c.time || h.any fun builtin => builtin.name == c.name && builtin.time) :=
  taking_mark (·.time) c h fun _ _ => rfl

theorem taking_capacity (c : Column) (h : Header) :
    (c.taking h).capacity = (c.capacity || h.any fun builtin => builtin.name == c.name && builtin.capacity) :=
  taking_mark (·.capacity) c h fun _ _ => rfl

theorem unadded_mark (mark : Column → Bool) (own : Bool) (name : String) (h : Header)
    (unadded : ∀ builtin ∈ h, builtin.name = name → mark builtin = true → own = true) :
    (own || h.any fun builtin => builtin.name == name && mark builtin) = own := by
  rw [Bool.or_eq_left_iff_imp, List.any_eq_true]
  rintro ⟨builtin, member, marked⟩
  rw [Bool.and_eq_true, beq_iff_eq] at marked
  exact unadded builtin member marked.1 marked.2

theorem taking_absent (c : Column) (h : Header) (absent : ∀ builtin ∈ h, builtin.name ≠ c.name) :
    c.taking h = c := by
  have none : h.filter (·.name == c.name) = [] := by simpa using absent
  rw [taking, none]
  rfl

theorem taking_present (c builtin : Column) (h : Header) (distinct : h.Distinct) (member : builtin ∈ h)
    (named : builtin.name = c.name) : c.taking h = c.merge builtin := by
  induction h with
  | nil => cases member
  | cons d rest ih =>
      rw [Header.Distinct, List.map_cons, List.nodup_cons] at distinct
      rw [taking_cons]
      cases member with
      | head =>
          rw [if_pos (beq_iff_eq.mpr named.symm)]
          refine taking_absent _ rest fun other inside same => distinct.1 ?_
          exact List.mem_map.mpr ⟨other, inside, same.trans named.symm⟩
      | tail _ inside =>
          have other : c.name ≠ d.name := by
            intro same
            exact distinct.1 (List.mem_map.mpr ⟨builtin, inside, named.trans same⟩)
          rw [if_neg (by simpa using other)]
          exact ih distinct.2 inside

end Column

namespace ColumnSpecs

theorem parse_onto_distinct (specs next : ColumnSpecs) (columns : List String)
    (distinct : (specs.map (·.name)).Nodup) (parsed : parseOnto specs columns = .ok next) :
    (next.map (·.name)).Nodup := by
  induction columns generalizing specs with
  | nil =>
      cases parsed
      exact distinct
  | cons raw rest ih =>
      rw [parseOnto] at parsed
      cases read : ColumnSpec.parse raw with
      | error e => simp [read] at parsed
      | ok spec =>
          by_cases taken : specs.any (·.name == spec.name) = true
          · simp [read, taken] at parsed
          · simp only [read, if_neg taken] at parsed
            have new : spec.name ∉ specs.map (·.name) := by simpa using taken
            apply ih (specs ++ [spec]) ?_ parsed
            simpa [List.nodup_append] using ⟨distinct, by simpa using new⟩

theorem parse_distinct (specs : ColumnSpecs) (columns : List String) (parsed : parse columns = .ok specs) :
    (specs.map (·.name)).Nodup := parse_onto_distinct [] specs columns List.nodup_nil parsed

theorem parse_accepted (columns : List String) (accepted : (parse columns).toOption.isSome = true) :
    parse columns = .ok ((parse columns).toOption.getD []) := by
  cases parsed : parse columns with
  | error e => simp [parsed, Except.toOption] at accepted
  | ok specs => rfl

theorem merge_into_named (columns : List Column) (builtin : Column) (distinct : (columns.map (·.name)).Nodup) :
    mergeInto columns builtin = columns.map fun c => if c.name == builtin.name then c.merge builtin else c := by
  induction columns with
  | nil => rfl
  | cons c rest ih =>
      rw [List.map_cons, List.nodup_cons] at distinct
      rw [mergeInto, List.map_cons]
      by_cases same : (c.name == builtin.name) = true
      · have others : ∀ d ∈ rest, (if d.name == builtin.name then d.merge builtin else d) = d := by
          intro d inside
          refine if_neg fun again => distinct.1 ?_
          exact List.mem_map.mpr ⟨d, inside, (beq_iff_eq.mp again).trans (beq_iff_eq.mp same).symm⟩
        rw [if_pos same, if_pos same, List.map_congr_left others, List.map_id']
      · rw [if_neg same, if_neg same, ih distinct.2]

theorem merged_columns (columns : List Column) (builtins : Header) (distinct : (columns.map (·.name)).Nodup) :
    builtins.foldl mergeInto columns = columns.map (·.taking builtins) := by
  induction builtins generalizing columns with
  | nil => exact (List.map_id columns).symm
  | cons builtin rest ih =>
      rw [List.foldl_cons, merge_into_named columns builtin distinct]
      have names : (columns.map fun c => if c.name == builtin.name then c.merge builtin else c).map (·.name) =
          columns.map (·.name) := by
        rw [List.map_map]
        refine List.map_congr_left fun c _ => ?_
        dsimp only [Function.comp_apply]
        split <;> rfl
      rw [ih _ (names ▸ distinct), List.map_map]
      exact List.map_congr_left fun c _ => (c.taking_cons builtin rest).symm

theorem header_columns (specs : ColumnSpecs) (builtin : Header) (distinct : (specs.map (·.name)).Nodup) :
    specs.header builtin =
      specs.map (·.column.taking builtin) ++ (specs.others builtin).map Column.widened := by
  have named : ((specs.map (·.column)).map (·.name)).Nodup := by
    rw [List.map_map]
    exact distinct
  rw [header, merged_columns _ _ named, List.map_map]
  congr 1
  refine List.map_congr_left fun spec member => ?_
  have declared : ∀ c ∈ builtin, (c.name == spec.column.name && specs.declares c) = (c.name == spec.column.name) := by
    intro c _
    by_cases same : c.name = spec.column.name
    · have found : specs.declares c = true := by
        rw [declares, List.any_eq_true]
        exact ⟨spec, member, beq_iff_eq.mpr same.symm⟩
      simp [same, found]
    · simp [same]
  simp only [Function.comp_apply, Column.taking, List.filter_filter]
  rw [List.filter_congr declared]

theorem header_names (specs : ColumnSpecs) (builtin : Header) (distinct : (specs.map (·.name)).Nodup) :
    (specs.header builtin).map (·.name) = specs.map (·.name) ++ (specs.others builtin).map (·.name) := by
  rw [header_columns specs builtin distinct, List.map_append, List.map_map, List.map_map]
  congr 1
  exact List.map_congr_left fun spec _ => spec.column.taking_name builtin

theorem header_distinct (specs : ColumnSpecs) (builtin : Header) (declared : (specs.map (·.name)).Nodup)
    (distinct : builtin.Distinct) : (specs.header builtin).Distinct := by
  rw [Header.Distinct, header_names specs builtin declared, List.nodup_append]
  refine ⟨declared, distinct.sublist (List.filter_sublist.map _), ?_⟩
  intro name listed other unlisted same
  obtain ⟨spec, member, rfl⟩ := List.mem_map.mp listed
  obtain ⟨c, rest, rfl⟩ := List.mem_map.mp unlisted
  have free := (List.mem_filter.mp rest).2
  simp only [declares, Bool.not_eq_true', List.any_eq_false] at free
  exact free spec member (beq_iff_eq.mpr same)

end ColumnSpecs

end LiveTable
