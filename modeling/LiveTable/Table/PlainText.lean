import LiveTable.Table.Basic

namespace LiveTable.Table

def padCell (align : Align) (width : Nat) (cell : List Char) : List Char :=
  let space := List.replicate (width - cell.length) ' '
  match align with
  | .left => cell ++ space
  | .right => space ++ cell

def cellText (c : Column) (i : Nat) (r : Row) : List Char :=
  match r.fields[i]? with
  | some field => (c.decorate field).toList
  | none => []

def columnWidth (c : Column) (i : Nat) (rows : List Row) : Nat :=
  rows.foldl (fun w r => max w (cellText c i r).length) (c.name.toList.length + 1)

def joinCells : List (List Char) → List Char
  | [] => []
  | [cell] => cell
  | cell :: rest => cell ++ ' ' :: joinCells rest

def lineOf (cells : List (List Char)) : List Char := Text.trimEnd (joinCells cells)

def shownColumns (t : Table) (wide : Bool) : List (Nat × Column × Nat) :=
  (t.header.visible t.ns wide).filterMap fun i =>
    t.header[i]?.map fun c => (i, c, columnWidth c i (t.events.toList.map (·.row)))

def headerLine (shown : List (Nat × Column × Nat)) : List Char :=
  lineOf (shown.map fun (_, c, width) => padCell c.align width c.name.toList)

def rowLine (shown : List (Nat × Column × Nat)) (r : Row) : List Char :=
  lineOf (shown.map fun (i, c, width) => padCell c.align width (cellText c i r))

def textLines (t : Table) (wide : Bool) : List (List Char) :=
  let shown := t.shownColumns wide
  headerLine shown :: t.events.toList.map fun e => rowLine shown e.row

def plainText (t : Table) (wide : Bool) : String :=
  String.ofList ((t.textLines wide).flatMap (· ++ ['\n']))

end LiveTable.Table
