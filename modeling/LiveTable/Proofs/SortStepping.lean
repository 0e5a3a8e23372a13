import LiveTable.Proofs.ColumnNames
import LiveTable.Proofs.RowOrder
import LiveTable.Proofs.Selection

namespace LiveTable

theorem Header.all_named (h : Header) (named : "" ∉ h.map Column.name) : ∀ column ∈ h, column.name ≠ "" :=
  fun _ member empty => named (empty ▸ List.mem_map_of_mem member)

namespace Console

def sortedBy (name : String) : String := "Sorted by " ++ name

-- The console with another view, and the cursor at the row at which it was.
def withView (c : Console) (column : SortColumn) (view : Table) : Console :=
  { c with
    sort := column
    view := view
    selected := reselect (c.selectedRow?.map (·.id)) c.selected view
    status := sortedBy column.name }

def sorted? (c : Console) (column : SortColumn) : Option Console := (c.shown.sort? column).map (c.withView column)

theorem rebuild_sorted (c : Console) (column : SortColumn) (named : column.name ≠ "")
    (held : (c.shown.header.indexOf? column.name true).isSome = true) :
    ({ c with sort := column, status := sortedBy column.name } : Console).rebuild? = c.sorted? column := by
  let d : Console := { c with sort := column, status := sortedBy column.name }
  have present : column.isNone = false := by simpa [SortColumn.isNone] using named
  have preferred : d.preferredSort = some column := if_neg (by simp [d, present])
  have shown : d.shown = c.shown := rfl
  have chosen : d.shown.defaultSort d.preferredSort = column := by
    rw [preferred, shown]
    exact Table.default_sort_held c.shown column present held
  change d.rebuild? = c.sorted? column
  rw [rebuild?, chosen, sorted?, shown]
  cases c.shown.sort? column <;> rfl

section

variable (c : Console) (fresh : c.Fresh) (column : SortColumn) (view : Table)
  (sorted : c.shown.sort? column = some view)

include fresh sorted

theorem sorted_visible :
    view.header = c.view.header ∧ (c.withView column view).visibleColumns = c.visibleColumns := by
  have before := (Table.sort_only_permutes c.shown c.view c.sort fresh.view).2
  have after := (Table.sort_only_permutes c.shown view column sorted).2
  rw [← before.1, ← before.2] at after
  refine ⟨after.1, ?_⟩
  change view.header.visible view.ns c.wide = c.view.header.visible c.view.ns c.wide
  rw [after.1, after.2]

theorem sorted_member (e : RowEvent) (selected : c.selectedRow? = some e) : e.id ∈ view.events.ids := by
  have listed : e ∈ c.view.events.toList := List.mem_of_getElem? selected
  have permuted := (Table.sort_only_permutes c.shown c.view c.sort fresh.view).1.trans
    (Table.sort_only_permutes c.shown view column sorted).1.symm
  exact List.mem_map_of_mem (permuted.mem_iff.mp listed)

end

theorem unselected_first (c : Console) (within : c.Within) (none : c.selectedRow? = none) :
    c.selected = 0 ∧ c.view.events.size = 0 := by
  have vacant : c.view.events.isEmpty = true := by
    by_contra rows
    have held := (within_selects c within (Bool.eq_false_iff.mpr rows)).2
    rw [none] at held
    cases held
  exact ⟨within_first c within vacant, List.length_eq_zero_iff.mpr (List.isEmpty_iff.mp vacant)⟩

theorem cursor_back (c : Console) (fresh : c.Fresh) (within : c.Within) (indexed : c.source.events.Indexed)
    (column : SortColumn) (view : Table) (sorted : c.shown.sort? column = some view) :
    reselect ((c.withView column view).selectedRow?.map (·.id)) (c.withView column view).selected c.view =
      c.selected := by
  cases selected : c.selectedRow? with
  | some e =>
      have followed : (c.withView column view).selectedRow?.map RowEvent.id = some e.id :=
        reselect_follows c view (shown_indexed c indexed column view sorted) e selected
          (sorted_member c fresh column view sorted e selected)
      have exact := shown_indexed c indexed c.sort c.view fresh.view
      rw [followed]
      exact reselect_place c.view exact e.id _ c.selected (congrArg (Option.map RowEvent.id) selected)
  | none =>
      obtain ⟨first, empty⟩ := unselected_first c within selected
      rw [first, reselect, empty]
      exact Nat.min_zero _

theorem sorted_back (c : Console) (fresh : c.Fresh) (within : c.Within) (indexed : c.source.events.Indexed)
    (column : SortColumn) (view : Table) (sorted : c.shown.sort? column = some view) :
    (c.withView column view).sorted? c.sort = some (c.setStatus (sortedBy c.sort.name)) := by
  have shown : (c.withView column view).shown = c.shown := rfl
  rw [sorted?, shown, fresh.view, Option.map_some, withView, cursor_back c fresh within indexed column view sorted]
  rfl

theorem visible_column (c : Console) (i : Nat) (visible : i ∈ c.visibleColumns) :
    ∃ column, c.view.header[i]? = some column :=
  Header.visible_known _ _ _ i visible

theorem visible_once (c : Console) : c.visibleColumns.Nodup := List.nodup_range.filter _

theorem sort_place_found (c : Console) (distinct : c.view.header.Distinct) (k i : Nat) (column : Column)
    (visible : c.visibleColumns[k]? = some i) (read : c.view.header[i]? = some column)
    (active : column.name = c.sort.name) : c.sortPlace = k := by
  obtain ⟨inside, placed⟩ := List.getElem?_eq_some_iff.mp visible
  have found : c.visibleColumns.findIdx? (fun i => c.view.header[i]?.any (·.name == c.sort.name)) = some k := by
    refine List.findIdx?_eq_some_iff_getElem.mpr ⟨inside, ?_, fun j earlier again => ?_⟩
    · simp [placed, read, active]
    · obtain ⟨other, there, named⟩ := (Option.any_eq_true _ _).mp again
      have same := Header.Distinct.one_place c.view.header distinct other column _ i there read
        ((beq_iff_eq.mp named).trans active.symm)
      rw [← placed] at same
      exact absurd ((visible_once c).getElem_inj_iff.mp same) (Nat.ne_of_lt earlier)
  rw [sortPlace, found, Option.getD_some]

def neighbour? (c : Console) (offset : Int) : Option Column :=
  c.visibleColumns[((c.sortPlace + offset) % c.visibleColumns.length).toNat]?.bind (c.view.header[·]?)

theorem sort_by_neighbour (c : Console) (laid : c.view.header = c.shown.header) (offset : Int) (column : Column)
    (next : c.neighbour? offset = some column) (named : column.name ≠ "") :
    c.sortByOffset? offset = c.sorted? ⟨column.name, c.sort.ascending⟩ := by
  obtain ⟨i, _, read⟩ := Option.bind_eq_some_iff.mp next
  obtain ⟨place, found⟩ := c.view.header.index_of_known column.name
    (List.mem_map_of_mem (List.mem_of_getElem? read))
  have held : (c.shown.header.indexOf? column.name true).isSome = true := by rw [← laid, found]; rfl
  rw [← rebuild_sorted c ⟨column.name, c.sort.ascending⟩ named held]
  unfold neighbour? at next
  simp only [sortByOffset?, next]
  rfl

theorem offset_back (k n : Nat) (offset : Int) (inside : k < n) :
    (((((k : Int) + offset) % n).toNat + -offset : Int) % n).toNat = k := by
  have nonzero : (n : Int) ≠ 0 := by omega
  rw [Int.toNat_of_nonneg (Int.emod_nonneg _ nonzero), ← Int.sub_eq_add_neg, Int.emod_sub_emod,
    Int.add_sub_cancel, Int.emod_eq_of_lt (by omega) (by omega)]
  exact Int.toNat_natCast k

theorem offset_inside (k n : Nat) (offset : Int) (inside : k < n) : (((k : Int) + offset) % n).toNat < n := by
  have positive : (0 : Int) < n := by omega
  have bound := Int.emod_lt_of_pos ((k : Int) + offset) positive
  omega

theorem neighbour_back (c : Console) (fresh : c.Fresh) (distinct : c.view.header.Distinct) (i : Nat)
    (visible : i ∈ c.visibleColumns) (current : Column) (read : c.view.header[i]? = some current)
    (active : current.name = c.sort.name) (offset : Int) :
    ∃ column ∈ c.view.header, c.neighbour? offset = some column ∧
      ∀ view, c.shown.sort? ⟨column.name, c.sort.ascending⟩ = some view →
        (c.withView ⟨column.name, c.sort.ascending⟩ view).neighbour? (-offset) = some current := by
  obtain ⟨k, placed⟩ := List.mem_iff_getElem?.mp visible
  have inside : k < c.visibleColumns.length := (List.getElem?_eq_some_iff.mp placed).1
  have here := sort_place_found c distinct k i current placed read active
  obtain ⟨j, next⟩ : ∃ j, c.visibleColumns[(((k : Int) + offset) % c.visibleColumns.length).toNat]? = some j :=
    ⟨_, List.getElem?_eq_getElem (offset_inside k _ offset inside)⟩
  obtain ⟨column, there⟩ := visible_column c j (List.mem_of_getElem? next)
  refine ⟨column, List.mem_of_getElem? there, ?_, fun view sorted => ?_⟩
  · rw [neighbour?, here, next]
    exact there
  · obtain ⟨sameHeader, sameVisible⟩ := sorted_visible c fresh _ view sorted
    have held : (c.withView ⟨column.name, c.sort.ascending⟩ view).view.header = c.view.header := sameHeader
    have further := sort_place_found (c.withView ⟨column.name, c.sort.ascending⟩ view) (held ▸ distinct) _ j column
      (by rw [sameVisible]; exact next) (by rw [held]; exact there) rfl
    rw [neighbour?, further, sameVisible, offset_back k _ offset inside, placed, held]
    exact read

theorem offset_returns (c : Console) (fresh : c.Fresh) (within : c.Within) (indexed : c.source.events.Indexed)
    (distinct : c.view.header.Distinct) (named : ∀ column ∈ c.view.header, column.name ≠ "") (i : Nat)
    (visible : i ∈ c.visibleColumns) (current : Column) (read : c.view.header[i]? = some current)
    (active : current.name = c.sort.name) (offset : Int) :
    ∃ column ∈ c.view.header, c.neighbour? offset = some column ∧
      c.sortByOffset? offset = c.sorted? ⟨column.name, c.sort.ascending⟩ ∧
      ∀ d ∈ c.sortByOffset? offset, d.sortByOffset? (-offset) = some (c.setStatus (sortedBy c.sort.name)) := by
  obtain ⟨column, member, next, back⟩ := neighbour_back c fresh distinct i visible current read active offset
  have laid : c.view.header = c.shown.header := (Table.sort_only_permutes c.shown c.view c.sort fresh.view).2.1
  have stepped := sort_by_neighbour c laid offset column next (named column member)
  refine ⟨column, member, next, stepped, fun d made => ?_⟩
  rw [stepped] at made
  obtain ⟨view, sorted, rfl⟩ := Option.map_eq_some_iff.mp made
  have header : view.header = c.shown.header := (Table.sort_only_permutes c.shown view _ sorted).2.1
  rw [sort_by_neighbour (c.withView _ view) header (-offset) current (back view sorted)
    (named current (List.mem_of_getElem? read)), active]
  exact sorted_back c fresh within indexed _ view sorted

-- A step to this column completes where sorting by it does, as with few rows, or with cells that are alike; and from
-- there the step back completes, and brings back all but what is told.
structure StepReturns (c : Console) (column : Column) (forth back : Action) : Prop where
  completes : (c.act? forth).isSome = (c.shown.sort? ⟨column.name, c.sort.ascending⟩).isSome
  few : c.rowCount ≤ 20 → (c.act? forth).isSome = true
  alike : ∀ place cells, c.view.header.indexOf? column.name true = some place →
    (Table.cellOrder column).Alike cells → (∀ e ∈ c.view.events.toList, e.HasCell place cells) →
    (c.act? forth).isSome = true
  returns : ∀ d ∈ c.act? forth, d.sort = ⟨column.name, c.sort.ascending⟩ ∧
    d.act? back = some (c.setStatus (sortedBy c.sort.name))

theorem offset_step_returns (c : Console) (fresh : c.Fresh) (within : c.Within) (indexed : c.source.events.Indexed)
    (distinct : c.view.header.Distinct) (named : ∀ column ∈ c.view.header, column.name ≠ "") (i : Nat)
    (visible : i ∈ c.visibleColumns) (current : Column) (read : c.view.header[i]? = some current)
    (active : current.name = c.sort.name) (offset : Int) (forth back : Action)
    (steps : c.act? forth = c.sortByOffset? offset) (returns : ∀ d : Console, d.act? back = d.sortByOffset? (-offset)) :
    ∃ column ∈ c.neighbour? offset, c.StepReturns column forth back := by
  obtain ⟨column, member, next, stepped, returned⟩ :=
    offset_returns c fresh within indexed distinct named i visible current read active offset
  obtain ⟨permuted, laid, _⟩ := Table.sort_only_permutes c.shown c.view c.sort fresh.view
  obtain ⟨k, there⟩ := List.mem_iff_getElem?.mp member
  have found := Header.index_of_own c.view.header distinct k column there
  have completes : (c.act? forth).isSome = (c.shown.sort? ⟨column.name, c.sort.ascending⟩).isSome := by
    rw [steps, stepped, sorted?, Option.isSome_map]
  rw [laid] at there found
  have sorts := c.shown.sort_found column k c.sort.ascending found there
  refine ⟨column, next, completes, fun few => ?_, fun place cells held alike placed => ?_, fun d made => ?_⟩
  · rw [completes, sorts, Option.isSome_map]
    exact RowEvents.sort_few _ _ _ _ (by rw [RowEvents.size, ← permuted.length_eq]; exact few)
  · rw [laid, found] at held
    cases held
    rw [completes, sorts, Option.isSome_map]
    have exact := shown_indexed c indexed c.sort c.view fresh.view
    exact RowEvents.sort_alike _ _ _ _ cells alike (fun e shown => placed e (permuted.mem_iff.mpr shown))
      ((permuted.map RowEvent.id).nodup_iff.mp exact.distinct)
  · rw [steps] at made
    refine ⟨?_, (returns d).trans (returned d made)⟩
    rw [stepped] at made
    obtain ⟨view, _, rfl⟩ := Option.map_eq_some_iff.mp made
    rfl

/-- Where the columns of the view have distinct names that are not empty, and it is sorted by one of the visible ones,
stepping to the next column and back to the one before it changes nothing but what is told, if the step completes: the
sort column with its direction, the view and the place of the cursor are those of before. So does stepping back and
forth. The step completes exactly where the rows can be sorted by the column that it comes to. -/
theorem sort_steps_return (c : Console) (history : List Step) (reached : c.ReachedBy history)
    (arrived : latest? history ≠ none) (indexed : ∀ t ∈ history.filterMap Step.table?, t.events.Indexed)
    (distinct : c.view.header.Distinct) (named : ∀ column ∈ c.view.header, column.name ≠ "")
    (shown : ∃ i ∈ c.visibleColumns, c.view.header[i]?.map (·.name) = some c.sort.name) :
    (∃ next ∈ c.neighbour? 1, c.StepReturns next .sortNext .sortPrevious) ∧
      ∃ previous ∈ c.neighbour? (-1), c.StepReturns previous .sortPrevious .sortNext := by
  obtain ⟨cluster, context, kind, scope, theme, colorer, options, ran⟩ := reached
  let opened := start cluster context kind scope theme colorer options
  obtain ⟨t, latest⟩ := Option.ne_none_iff_exists'.mp arrived
  have fresh : c.Fresh := run_fresh opened c history t latest ran
  have within : c.Within := run_within opened c history (Nat.zero_le _) ran
  have source := run_source_indexed opened c history RowEvents.indexed_empty indexed ran
  obtain ⟨i, visible, active⟩ := shown
  obtain ⟨current, read, same⟩ := Option.map_eq_some_iff.mp active
  exact ⟨offset_step_returns c fresh within source distinct named i visible current read same 1 _ _ rfl fun _ => rfl,
    offset_step_returns c fresh within source distinct named i visible current read same (-1) _ _ rfl fun _ => rfl⟩

def widePods? : Option Console := (podConsole { wide := true }).run? [.setTable 0 twoPods]

theorem wide_pods_return :
    ∃ c ∈ widePods?, c.sort = ⟨nameName, true⟩ ∧ ∃ d ∈ c.act? .sortNext, d.sort = ⟨validName, true⟩ ∧
      d.act? .sortPrevious = some (c.setStatus (sortedBy nameName)) := by
  have settings : widePods?.map (fun c => (c.sort, c.view.header.map (·.name), c.rowCount)) =
      some (⟨nameName, true⟩, [nameName, validName], 2) := by decide +kernel
  have columns : widePods?.map (fun c => (c.visibleColumns, (c.neighbour? 1).map (·.name),
      c.view.header[0]?.map (·.name))) = some ([0, 1], some validName, some nameName) := by decide +kernel
  obtain ⟨c, ran, same⟩ := Option.map_eq_some_iff.mp settings
  rw [ran, Option.map_some, Option.some.injEq] at columns
  simp only [Prod.mk.injEq] at same columns
  obtain ⟨sort, names, rows⟩ := same
  obtain ⟨visible, neighbour, first⟩ := columns
  have distinct : c.view.header.Distinct := by
    rw [Header.Distinct, names]
    decide
  have named := Header.all_named c.view.header (by rw [names]; decide)
  have indexed : ∀ t ∈ [Step.setTable 0 twoPods].filterMap Step.table?, t.events.Indexed := by
    simpa [Step.table?] using two_pods_indexed
  obtain ⟨next, held, steps⟩ := (sort_steps_return c _ (pod_console_reached _ _ c ran) (Option.some_ne_none twoPods)
    indexed distinct named ⟨0, by simp [visible], by rw [first, sort]⟩).1
  obtain ⟨d, stepped⟩ := Option.isSome_iff_exists.mp (steps.few (by omega))
  obtain ⟨sorted, back⟩ := steps.returns d stepped
  rw [held, Option.map_some, Option.some.injEq] at neighbour
  rw [neighbour, sort] at sorted
  rw [sort] at back
  exact ⟨c, ran, sort, d, stepped, sorted, back⟩

-- Ten minutes come before two hours, these before a number of copies as text, and that before ten minutes.
def mixedNotes : List String :=
  List.replicate 4 "10m" ++ List.replicate 2 "2h" ++ List.replicate 2 "3x" ++ List.replicate 13 "2h"

def noteRow (entry : String × Nat) : Row :=
  let name := String.ofList ['r', Char.ofNat (48 + entry.2 / 10), Char.ofNat (48 + entry.2 % 10)]
  ⟨name, [name, entry.1]⟩

def mixedTable : Table :=
  ({ Table.new "all" with header := [Column.named nameName, Column.named "NOTE"] }).update
    (mixedNotes.zipIdx.map noteRow)

def mixedConsole? : Option Console := (podConsole {}).run? [.setTable 0 mixedTable]

theorem mixed_notes_stop :
    mixedTable.events.Indexed ∧
      ∃ c ∈ mixedConsole?, c.ReachedBy [.setTable 0 mixedTable] ∧ c.view.header.Distinct ∧
        (∀ column ∈ c.view.header, column.name ≠ "") ∧
        (∃ i ∈ c.visibleColumns, c.view.header[i]?.map (·.name) = some c.sort.name) ∧
        c.act? .sortNext = none ∧ (c.act? .sortNext).bind (·.act? .sortPrevious) ≠
          some (c.setStatus (sortedBy c.sort.name)) := by
  have stops : mixedConsole?.map (fun c => (c.act? .sortNext).isSome) = some false := by decide +kernel
  have columns : mixedConsole?.map (fun c => (c.view.header.map (·.name), c.visibleColumns,
      c.view.header[0]?.map (·.name), c.sort.name)) =
      some ([nameName, "NOTE"], [0, 1], some nameName, nameName) := by decide +kernel
  obtain ⟨c, ran, stopped⟩ := Option.map_eq_some_iff.mp stops
  rw [ran, Option.map_some, Option.some.injEq] at columns
  simp only [Prod.mk.injEq] at columns
  obtain ⟨names, visible, first, sort⟩ := columns
  rw [Option.isSome_eq_false_iff, Option.isNone_iff_eq_none] at stopped
  refine ⟨Table.update_indexed _ _ RowEvents.indexed_empty, c, ran, pod_console_reached _ _ c ran, ?_, ?_,
    ⟨0, by simp [visible], by rw [first, sort]⟩, stopped, by simp [stopped]⟩
  · rw [Header.Distinct, names]
    decide
  · exact Header.all_named c.view.header (by rw [names]; decide)

end Console

end LiveTable
