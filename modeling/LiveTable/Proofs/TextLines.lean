import LiveTable.Proofs.Projection
import LiveTable.Proofs.Splitting
import LiveTable.Proofs.Trimming
import LiveTable.Resource.ClusterEvent
import LiveTable.Table.PlainText
import Mathlib

namespace LiveTable

namespace Table

theorem join_more (first next : List Char) (rest : List (List Char)) :
    joinCells (first :: next :: rest) = first ++ ' ' :: joinCells (next :: rest) := rfl

theorem joined_around (cells : List (List Char)) (j : Nat) (cell : List Char) (read : cells[j]? = some cell) :
    joinCells cells = (cells.take j).flatMap (· ++ [' ']) ++ (cell ++ (cells.drop (j + 1)).flatMap (' ' :: ·)) := by
  induction cells generalizing j cell with
  | nil => cases read
  | cons first rest ih =>
      cases rest with
      | nil =>
          obtain ⟨rfl, same⟩ : j = 0 ∧ first = cell := by simpa [List.getElem?_singleton] using read
          simp [joinCells, same]
      | cons next rest =>
          cases j with
          | zero =>
              obtain rfl : first = cell := Option.some.inj read
              rw [join_more, ih 0 next rfl]
              simp
          | succ j =>
              rw [join_more, ih j cell read]
              simp

theorem joined_length (cells : List (List Char)) :
    (joinCells cells).length = (cells.map (·.length + 1)).sum - 1 := by
  induction cells with
  | nil => rfl
  | cons first rest ih =>
      cases rest with
      | nil => simp [joinCells]
      | cons next rest =>
          rw [join_more, List.length_append, List.length_cons, ih]
          simp only [List.map_cons, List.sum_cons]
          omega

theorem spaced_length (cells : List (List Char)) :
    (cells.flatMap (· ++ [' '])).length = (cells.map (·.length + 1)).sum := by
  simp [List.length_flatMap]

theorem joined_visible (cells : List (List Char)) :
    (joinCells cells).filter (· != ' ') = cells.flatten.filter (· != ' ') := by
  induction cells with
  | nil => rfl
  | cons first rest ih =>
      cases rest with
      | nil => simp [joinCells]
      | cons next rest =>
          rw [join_more, List.filter_append, List.filter_cons_of_neg (by decide), ih, ← List.filter_append]
          rfl

theorem pad_length (align : Align) (width : Nat) (cell : List Char) (fits : cell.length ≤ width) :
    (padCell align width cell).length = width := by
  cases align <;> simp [padCell] <;> omega

theorem pad_visible (align : Align) (width : Nat) (cell : List Char) :
    (padCell align width cell).filter (· != ' ') = cell.filter (· != ' ') := by
  cases align <;> simp [padCell, List.filter_append]

theorem column_width_start (c : Column) (i : Nat) (rows : List Row) (least : Nat) :
    least ≤ rows.foldl (fun w r => max w (cellText c i r).length) least := by
  induction rows generalizing least with
  | nil => exact Nat.le_refl _
  | cons r rows ih => exact Nat.le_trans (Nat.le_max_left _ _) (ih _)

theorem name_fits (c : Column) (i : Nat) (rows : List Row) : c.name.toList.length < columnWidth c i rows :=
  column_width_start c i rows _

theorem cell_fits (c : Column) (i : Nat) (rows : List Row) (r : Row) (member : r ∈ rows) :
    (cellText c i r).length ≤ columnWidth c i rows := by
  obtain ⟨before, after, rfl⟩ := List.append_of_mem member
  rw [columnWidth, List.foldl_append, List.foldl_cons]
  exact Nat.le_trans (Nat.le_max_right _ _) (column_width_start c i after _)

abbrev Shown := List (Nat × Column × Nat)

-- Where the cells of a column start: behind the columns before it, with one space behind each.
def startOf (shown : Shown) (j : Nat) : Nat := ((shown.take j).map fun column => column.2.2 + 1).sum

def StandsIn (line : List Char) (start width : Nat) (align : Align) (text : List Char) : Prop :=
  ∃ free, text.length + free = width ∧
    (line.drop start).take width =
      match align with
      | .left => text ++ List.replicate free ' '
      | .right => List.replicate free ' ' ++ text

-- Each text stands in the range of its column, with one space between two ranges; only blanks are missing at the end.
def LaidOut (shown : Shown) (text : Nat → Column → List Char) (line : List Char) : Prop :=
  ∃ blanks, (∀ c ∈ blanks, Text.isBlank c = true) ∧
    (line ++ blanks).length = startOf shown shown.length - 1 ∧
    ∀ j i c width, shown[j]? = some (i, c, width) →
      StandsIn (line ++ blanks) (startOf shown j) width c.align (text i c) ∧
        (j ≠ 0 → (line ++ blanks)[startOf shown j - 1]? = some ' ')

def paddedCells (shown : Shown) (text : Nat → Column → List Char) : List (List Char) :=
  shown.map fun (i, c, width) => padCell c.align width (text i c)

section

variable (shown : Shown) (text : Nat → Column → List Char)
  (fits : ∀ i c width, (i, c, width) ∈ shown → (text i c).length ≤ width)

include fits

theorem padded_start (j : Nat) :
    (((paddedCells shown text).take j).map (·.length + 1)).sum = startOf shown j := by
  rw [startOf, paddedCells, ← List.map_take, List.map_map]
  refine congrArg List.sum (List.map_congr_left fun column member => ?_)
  obtain ⟨i, c, width⟩ := column
  exact congrArg (· + 1) (pad_length c.align width _ (fits i c width (List.mem_of_mem_take member)))

theorem joined_stands (j i : Nat) (c : Column) (width : Nat) (read : shown[j]? = some (i, c, width)) :
    StandsIn (joinCells (paddedCells shown text)) (startOf shown j) width c.align (text i c) := by
  have fit := fits i c width (List.mem_of_getElem? read)
  have cell : (paddedCells shown text)[j]? = some (padCell c.align width (text i c)) := by
    rw [paddedCells, List.getElem?_map, read]
    rfl
  have before : (((paddedCells shown text).take j).flatMap (· ++ [' '])).length = startOf shown j := by
    rw [spaced_length, padded_start shown text fits]
  refine ⟨width - (text i c).length, by omega, ?_⟩
  rw [joined_around _ j _ cell, List.drop_left' before, List.take_left' (pad_length c.align width _ fit)]
  cases c.align <;> rfl

theorem joined_spaced (j : Nat) (inside : j < shown.length) (later : j ≠ 0) :
    (joinCells (paddedCells shown text))[startOf shown j - 1]? = some ' ' := by
  obtain ⟨j, rfl⟩ := Nat.exists_eq_add_one_of_ne_zero later
  have sized : (paddedCells shown text).length = shown.length := List.length_map _
  obtain ⟨cell, read⟩ : ∃ cell, (paddedCells shown text)[j + 1]? = some cell :=
    ⟨_, List.getElem?_eq_getElem (sized ▸ inside)⟩
  have before : (((paddedCells shown text).take (j + 1)).flatMap (· ++ [' '])).length = startOf shown (j + 1) := by
    rw [spaced_length, padded_start shown text fits]
  have last : (((paddedCells shown text).take (j + 1)).flatMap (· ++ [' '])).getLast? = some ' ' := by
    obtain ⟨prior, front⟩ : ∃ prior, (paddedCells shown text)[j]? = some prior :=
      ⟨_, List.getElem?_eq_getElem (by omega)⟩
    simp [List.take_add_one, front]
  rw [List.getLast?_eq_getElem?, before] at last
  rw [joined_around _ _ cell read, List.getElem?_append_left (List.getElem?_eq_some_iff.mp last).1, last]

theorem joined_laid_out : LaidOut shown text (lineOf (paddedCells shown text)) := by
  obtain ⟨blanks, whole, blank⟩ := Text.trim_end_before (joinCells (paddedCells shown text))
  rw [← lineOf] at whole
  refine ⟨blanks, blank, ?_, fun j i c width read => ?_⟩
  · have all := padded_start shown text fits shown.length
    rw [paddedCells, List.take_of_length_le (by simp), ← paddedCells] at all
    rw [← whole, joined_length, all]
  · rw [← whole]
    exact ⟨joined_stands shown text fits j i c width read,
      joined_spaced shown text fits j (List.getElem?_eq_some_iff.mp read).1⟩

end

theorem line_breaks (shown : Shown) (text : Nat → Column → List Char) :
    '\n' ∈ lineOf (paddedCells shown text) ↔
      '\n' ∈ Text.trimEnd (shown.flatMap fun (i, c, _) => text i c) := by
  have visible : (joinCells (paddedCells shown text)).filter (· != ' ') =
      (shown.flatMap fun (i, c, _) => text i c).filter (· != ' ') := by
    rw [joined_visible, paddedCells, ← List.flatMap_def, List.filter_flatMap, List.filter_flatMap]
    exact List.flatMap_congr fun column _ => pad_visible column.2.1.align column.2.2 _
  have blank : ∀ c : Char, (c != ' ') = false → Text.isBlank c = true := by
    intro c space
    rw [bne_eq_false_iff_eq.mp space]
    decide
  have kept := Text.mem_trim_end_filter (· != ' ') blank '\n' (by decide)
  rw [lineOf, ← kept, visible, kept]

theorem shown_column (t : Table) (wide : Bool) (i : Nat) (c : Column) (width : Nat)
    (member : (i, c, width) ∈ t.shownColumns wide) :
    t.header[i]? = some c ∧ width = columnWidth c i (t.events.toList.map (·.row)) := by
  obtain ⟨j, _, shown⟩ := List.mem_filterMap.mp member
  obtain ⟨d, read, same⟩ := Option.map_eq_some_iff.mp shown
  obtain ⟨rfl, rfl, rfl⟩ : j = i ∧ d = c ∧ columnWidth d j (t.events.toList.map (·.row)) = width := by simpa using same
  exact ⟨read, rfl⟩

theorem shown_places (t : Table) (wide : Bool) :
    (t.shownColumns wide).map Prod.fst = t.header.visible t.ns wide ∧
      ∀ column ∈ t.shownColumns wide, t.header[column.1]? = some column.2.1 := by
  refine ⟨?_, fun (i, c, width) member => (shown_column t wide i c width member).1⟩
  rw [shownColumns, List.map_filterMap]
  refine (List.filterMap_congr fun i visible => ?_).trans List.filterMap_some
  obtain ⟨c, read⟩ := Header.visible_known _ _ _ i visible
  rw [read]
  rfl

theorem names_laid_out (t : Table) (wide : Bool) :
    LaidOut (t.shownColumns wide) (fun _ c => c.name.toList) (headerLine (t.shownColumns wide)) := by
  refine joined_laid_out (t.shownColumns wide) (fun _ c => c.name.toList) fun i c width member => ?_
  rw [(shown_column t wide i c width member).2]
  exact Nat.le_of_lt (name_fits c i _)

theorem row_laid_out (t : Table) (wide : Bool) (e : RowEvent) (row : e ∈ t.events.toList) :
    LaidOut (t.shownColumns wide) (fun i c => cellText c i e.row) (rowLine (t.shownColumns wide) e.row) := by
  refine joined_laid_out (t.shownColumns wide) (fun i c => cellText c i e.row) fun i c width member => ?_
  rw [(shown_column t wide i c width member).2]
  exact cell_fits c i _ e.row (List.mem_map_of_mem row)

def shownTexts (t : Table) (wide : Bool) : List (List Char) :=
  ((t.shownColumns wide).flatMap fun (_, c, _) => c.name.toList) ::
    t.events.toList.map fun e => (t.shownColumns wide).flatMap fun (i, c, _) => cellText c i e.row

/-- The text of a table is a line for the names and one for each row, in their order. In each line the text of a
visible column stands in the range of the column, behind the widths of the columns before it and one space for each,
and only blanks are cut off at its end. The lines can be told apart by their line breaks exactly when what a line
holds has no line break of its own, other than among the blanks at its end. -/
theorem text_lines_aligned (t : Table) (wide : Bool) :
    ((t.shownColumns wide).map Prod.fst = t.header.visible t.ns wide ∧
      ∀ column ∈ t.shownColumns wide, t.header[column.1]? = some column.2.1) ∧
    ∃ names rows, (t.plainText wide).toList = (names :: rows).flatMap (· ++ ['\n']) ∧
      LaidOut (t.shownColumns wide) (fun _ c => c.name.toList) names ∧
      List.Forall₂ (fun e row => LaidOut (t.shownColumns wide) (fun i c => cellText c i e.row) row)
        t.events.toList rows ∧
      ((t.plainText wide).toList.splitOn '\n' = names :: rows ++ [[]] ↔
        ∀ texts ∈ t.shownTexts wide, '\n' ∉ Text.trimEnd texts) := by
  have written : (t.plainText wide).toList = (t.textLines wide).flatMap (· ++ ['\n']) := String.toList_ofList
  have made : t.textLines wide =
      headerLine (t.shownColumns wide) :: t.events.toList.map fun e => rowLine (t.shownColumns wide) e.row := rfl
  rw [made] at written
  refine ⟨shown_places t wide, _, _, written, names_laid_out t wide,
    List.forall₂_map_right_iff.mpr (List.forall₂_same.mpr (row_laid_out t wide)), ?_⟩
  rw [written, Text.lines_split_iff, shownTexts, List.forall_mem_cons, List.forall_mem_cons, List.forall_mem_map,
    List.forall_mem_map]
  exact and_congr (not_congr (line_breaks _ fun _ c => c.name.toList))
    (forall₂_congr fun e _ => not_congr (line_breaks _ fun i c => cellText c i e.row))

def failedProbe : Json :=
  .object [("apiVersion", .string "v1"), ("kind", .string "Event"), ("message", .string "Probe failed:\nrefused"),
    ("metadata", .object [("name", .string "a")])]

theorem message_breaks_row :
    ∃ t, (new "all").reconcile? 0 ClusterEvent.renderer [] [failedProbe] = some (t, .ok ()) ∧
      t.events.size = 1 ∧ ((t.plainText false).toList.splitOn '\n').length = 4 := by
  have counted : (((new "all").reconcile? 0 ClusterEvent.renderer [] [failedProbe]).map fun result =>
      (result.1.events.size, ((result.1.plainText false).toList.splitOn '\n').length, result.2.isOk)) =
      some (1, 4, true) := by decide +kernel
  obtain ⟨⟨t, outcome⟩, made, sized⟩ := Option.map_eq_some_iff.mp counted
  simp only [Prod.mk.injEq] at sized
  cases outcome with
  | error message => cases sized.2.2
  | ok _ => exact ⟨t, made, sized.1, sized.2.1⟩

end Table

end LiveTable
