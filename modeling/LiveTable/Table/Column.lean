namespace LiveTable

inductive Align where
  | left | right
deriving DecidableEq

structure Column where
  name : String
  align : Align := .left
  wide : Bool := false
  hidden : Bool := false
  time : Bool := false
  capacity : Bool := false
  decorator : Option (String → String) := none

namespace Column

def named (name : String) : Column := { name }

def same (c d : Column) : Bool :=
  c.name == d.name && c.align == d.align && c.wide == d.wide && c.hidden == d.hidden &&
    c.time == d.time && c.capacity == d.capacity && c.decorator.isSome == d.decorator.isSome

-- What a declared column takes over from the built-in one of its name: the side, if it keeps to
-- the left, every mark that it lacks, and the decorator.
def merge (custom builtin : Column) : Column :=
  { custom with
    align := if custom.align = .left then builtin.align else custom.align
    hidden := custom.hidden || builtin.hidden
    time := custom.time || builtin.time
    capacity := custom.capacity || builtin.capacity
    decorator := custom.decorator.or builtin.decorator }

def decorate (c : Column) (cell : String) : String :=
  match c.decorator with
  | some f => f cell
  | none => cell

def narrow (c : Column) : Column := { c with wide := false }

def widened (c : Column) : Column := { c with wide := true }

def onRight (c : Column) : Column := { c with align := .right }

def timed (c : Column) : Column := { c with time := true }

def measured (c : Column) : Column := { c with capacity := true, align := .right }

def concealed (c : Column) : Column := { c with hidden := true }

def decorated (c : Column) (f : String → String) : Column := { c with decorator := some f }

end Column

abbrev Header := List Column

end LiveTable
