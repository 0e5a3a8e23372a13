import LiveTable.Query.ColumnSpec
import LiveTable.Table.Row

namespace LiveTable

abbrev ColumnSpecs := List ColumnSpec

namespace ColumnSpecs

def parseOnto (specs : ColumnSpecs) : List String → Except ColumnSpec.Error ColumnSpecs
  | [] => .ok specs
  | raw :: rest =>
    match ColumnSpec.parse raw with
    | .error e => .error e
    | .ok spec =>
      if specs.any (·.name == spec.name) then .error (.duplicate spec.name)
      else parseOnto (specs ++ [spec]) rest

def parse (columns : List String) : Except ColumnSpec.Error ColumnSpecs := parseOnto [] columns

def mergeInto (columns : List Column) (builtin : Column) : List Column :=
  match columns with
  | [] => []
  | c :: rest =>
    if c.name == builtin.name then c.merge builtin :: rest else c :: mergeInto rest builtin

def declares (specs : ColumnSpecs) (c : Column) : Bool := specs.any (·.name == c.name)

def others (specs : ColumnSpecs) (builtin : Header) : List Column :=
  builtin.filter fun c => !specs.declares c

-- The declared columns, each merged with the built-in ones of its name, and behind them all other
-- built-in columns as wide ones.
def header (specs : ColumnSpecs) (builtin : Header) : Header :=
  (builtin.filter specs.declares).foldl mergeInto (specs.map (·.column)) ++
    (specs.others builtin).map Column.widened

def builtinField? (builtin : Header) (row : Row) (name : String) : Option String :=
  (builtin.indexOf? name true).bind (row.fields[·]?)

def cell (now : Int) (object : Json) (builtin : Header) (row : Row) (spec : ColumnSpec) : String :=
  let fallback := (builtinField? builtin row spec.name).getD Cell.notApplicable
  match spec.query with
  | none => fallback
  | some q =>
    match q.render now object spec.column with
    | .ok found => found
    | .error _ => fallback

def realize (now : Int) (specs : ColumnSpecs) (object : Json) (builtin : Header) (row : Row) : Row :=
  let rest := (List.range builtin.length).filter fun i => builtin[i]?.any fun c => !specs.declares c
  ⟨row.id, specs.map (cell now object builtin row) ++
    rest.map fun i => (row.fields[i]?).getD Cell.notApplicable⟩

end ColumnSpecs

end LiveTable
