import LiveTable.Character.Age.Table
import LiveTable.Character.CharSet

namespace LiveTable.Character.Age

def versions : List (String × List Nat) := [
  ("1.1", runs1x1), ("2.0", runs2x0), ("2.1", runs2x1), ("3.0", runs3x0), ("3.1", runs3x1),
  ("3.2", runs3x2), ("4.0", runs4x0), ("4.1", runs4x1), ("5.0", runs5x0), ("5.1", runs5x1),
  ("5.2", runs5x2), ("6.0", runs6x0), ("6.1", runs6x1), ("6.2", runs6x2), ("6.3", runs6x3),
  ("7.0", runs7x0), ("8.0", runs8x0), ("9.0", runs9x0), ("10.0", runs10x0), ("11.0", runs11x0),
  ("12.0", runs12x0), ("12.1", runs12x1), ("13.0", runs13x0), ("14.0", runs14x0), ("15.0", runs15x0),
  ("15.1", runs15x1), ("16.0", runs16x0)]

def shortName (version : String) : String := String.ofList ('v' :: version.toList.filter (· != '.'))

def isNamed (name version : String) : Bool := name = version || name = shortName version

def upTo? (name : String) : List (String × List Nat) → Option CharSet
  | [] => none
  | (version, runs) :: later =>
    if isNamed name version then some (.ofRuns runs)
    else (upTo? name later).map (CharSet.ofRuns runs).union

def set? (name : String) : Option CharSet := upTo? name versions

end LiveTable.Character.Age
