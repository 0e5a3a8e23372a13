import LiveTable.Cell.Sentinel

namespace LiveTable

inductive Fault where
  | containersNotReady (ready total : Nat)
  | podTerminating
  | replicasNotReady (ready desired : Int32)
  | nodeCordoned
  | nodeNotReady
  | namespaceNotReady
  | volumeFailed
  | claimNotBound (phase : String)
  | podsFailed (count : Int32)
deriving DecidableEq

namespace Fault

def message : Fault → String
  | containersNotReady ready total =>
    "container ready check failed: " ++ toString ready ++ " of " ++ toString total
  | podTerminating => "pod is terminating"
  | replicasNotReady ready desired =>
    "ready replicas mismatch: " ++ toString ready ++ " of " ++ toString desired
  | nodeCordoned => "node is cordoned"
  | nodeNotReady => "node is not ready"
  | namespaceNotReady => "namespace not ready"
  | volumeFailed => "failed to delete or recycle"
  | claimNotBound phase => "claim is " ++ Cell.orMissing phase
  | podsFailed count => toString count ++ " pods failed"

def status : Option Fault → String
  | some fault => fault.message
  | none => ""

end Fault

end LiveTable
