namespace LiveTable

def allNamespaces : String := "all"

def clusterScope : String := "-"

def isAllNamespaces (ns : String) : Bool := ns.isEmpty || ns == allNamespaces

def isClusterScoped (ns : String) : Bool := ns == clusterScope

def isNamespaced (ns : String) : Bool := !isAllNamespaces ns && !isClusterScoped ns

def qualifiedName (ns name : String) : String :=
  if ns.isEmpty || isClusterScoped ns then name else ns ++ "/" ++ name

inductive Scope where
  | all
  | named (ns : String)
deriving DecidableEq, Inhabited

namespace Scope

def label : Scope → String
  | all => allNamespaces
  | named ns => ns

def namespace? : Scope → Option String
  | all => none
  | named ns => some ns

end Scope

end LiveTable
