import LiveTable.Json.Basic

namespace LiveTable

inductive Comparison where
  | eq | ne | lt | le | gt | ge
deriving DecidableEq

namespace Comparison

def holds : Comparison → Ordering → Bool
  | eq, o => o == .eq
  | ne, o => o != .eq
  | lt, o => o == .lt
  | le, o => o != .gt
  | gt, o => o == .gt
  | ge, o => o != .lt

end Comparison

inductive Builtin where
  | length | keys | select | map | join | first | last | not | has | tostring | tonumber
  | asciiDowncase | asciiUpcase | split | contains | toEntries | add | empty | sort | unique
  | min | max | test | startswith | endswith | type
deriving DecidableEq

namespace Builtin

def name : Builtin → String
  | length => "length"
  | keys => "keys"
  | select => "select"
  | map => "map"
  | join => "join"
  | first => "first"
  | last => "last"
  | not => "not"
  | has => "has"
  | tostring => "tostring"
  | tonumber => "tonumber"
  | asciiDowncase => "ascii_downcase"
  | asciiUpcase => "ascii_upcase"
  | split => "split"
  | contains => "contains"
  | toEntries => "to_entries"
  | add => "add"
  | empty => "empty"
  | sort => "sort"
  | unique => "unique"
  | min => "min"
  | max => "max"
  | test => "test"
  | startswith => "startswith"
  | endswith => "endswith"
  | type => "type"

def all : List Builtin :=
  [length, keys, select, map, join, first, last, not, has, tostring, tonumber, asciiDowncase,
    asciiUpcase, split, contains, toEntries, add, empty, sort, unique, min, max, test, startswith,
    endswith, type]

def takes : Builtin → Nat → Bool
  | select, n | map, n | join, n | has, n | split, n | contains, n | test, n | startswith, n
  | endswith, n => n == 1
  | first, n | last, n => n ≤ 1
  | _, n => n == 0

def lookup? (name : String) (arity : Nat) : Option Builtin :=
  all.find? fun f => f.name == name && f.takes arity

end Builtin

inductive Operator where
  | pipe
  | comma
  | alternative
  | or
  | and
  | compare (c : Comparison)
  | add
  | subtract
deriving DecidableEq

inductive Filter where
  | identity
  | recurse
  | literal (value : Json)
  | field (base : Filter) (name : String)
  | index (base position : Filter)
  | iterate (base : Filter)
  | attempt (inner : Filter)
  | emptyArray
  | collect (inner : Filter)
  | binary (op : Operator) (left right : Filter)
  | call (f : Builtin) (args : List Filter)
deriving Inhabited

end LiveTable
