namespace LiveTable

structure Arguments where
  refreshMs : Nat := 2000
  namespaceName : Option String := none
  allNamespaces : Bool := false
  kind : String := "po"
  wide : Bool := false
  columns : List String := []
  labels : List String := []
  sort : Option String := none
  once : Bool := false
  logFilter : String := "info"
  logFile : Option String := none
deriving DecidableEq, Inhabited

namespace Arguments

def leastRefreshMs : Nat := 500

def effectiveRefreshMs (a : Arguments) : Nat := max a.refreshMs leastRefreshMs

inductive Stop where
  | unknownArgument
  | missingValue
  | invalidValue
  | unwantedValue
  | repeated
  | help
  | version
deriving DecidableEq

def Stop.message : Stop → String
  | unknownArgument => "unexpected argument"
  | missingValue => "a value is required"
  | invalidValue => "invalid value"
  | unwantedValue => "unexpected value"
  | repeated => "an argument cannot be used multiple times"
  | help => "help"
  | version => "version"

end Arguments

inductive Switch where
  | refreshMs | namespaceName | allNamespaces | kind | wide | columns | labels | sort | once
  | logFilter | logFile | help | version
deriving DecidableEq

namespace Switch

def longName : Switch → String
  | refreshMs => "refresh-ms"
  | namespaceName => "namespace"
  | allNamespaces => "all-namespaces"
  | kind => "kind"
  | wide => "wide"
  | columns => "columns"
  | labels => "labels"
  | sort => "sort"
  | once => "once"
  | logFilter => "log-filter"
  | logFile => "log-file"
  | help => "help"
  | version => "version"

def shortName? : Switch → Option Char
  | namespaceName => some 'n'
  | allNamespaces => some 'A'
  | kind => some 'k'
  | wide => some 'w'
  | labels => some 'l'
  | help => some 'h'
  | version => some 'V'
  | _ => none

def all : List Switch :=
  [refreshMs, namespaceName, allNamespaces, kind, wide, columns, labels, sort, once, logFilter,
    logFile, help, version]

def ofLong? (name : String) : Option Switch := all.find? (·.longName == name)

def ofShort? (c : Char) : Option Switch := all.find? (·.shortName? == some c)

def takesValue : Switch → Bool
  | allNamespaces | wide | once | help | version => false
  | _ => true

def usage (s : Switch) : String :=
  let short := match s.shortName? with
    | some c => "-" ++ String.singleton c ++ ", "
    | none => "    "
  "  " ++ short ++ "--" ++ s.longName ++ (if s.takesValue then " <VALUE>" else "")

def mayRepeat : Switch → Bool
  | columns | labels => true
  | _ => false

end Switch

end LiveTable
