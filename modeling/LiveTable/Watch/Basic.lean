import LiveTable.ResourceKind
import LiveTable.Table.Basic

namespace LiveTable

def compactError (causes : List String) : String := " | caused by: ".intercalate (causes.take 3)

inductive Listing where
  | objects (objects : List Json)
  | failed (causes : List String)
  | timedOut

inductive Notification where
  | updated (key : String)
  | failed (key error : String)
deriving DecidableEq

structure WatchedView where
  kind : ResourceKind
  scope : Scope
  renderer : Renderer
  columns : ColumnSpecs

namespace WatchedView

def tableNamespace (v : WatchedView) : String :=
  if v.kind.namespaced then v.scope.label else clusterScope

def newTable (v : WatchedView) : Table := Table.new v.tableNamespace

def timeoutMessage (v : WatchedView) : String := "listing " ++ v.kind.key ++ " timed out"

def failure (v : WatchedView) (causes : List String) : Notification :=
  .failed v.kind.key (compactError causes)

def refresh? (v : WatchedView) (now : Int) (t : Table) : Listing → Option (Table × List Notification)
  | .failed causes => some (t, [v.failure causes])
  | .timedOut => some (t, [v.failure [v.timeoutMessage]])
  | .objects objects => do
    let (next, result) ← t.reconcile? now v.renderer v.columns objects
    match result with
    | .error message => return (next, [v.failure [message]])
    | .ok () => return (next, if next.differs t then [.updated v.kind.key] else [])

def run? (v : WatchedView) (now : Int) : Table → List Listing → Option (Table × List (List Notification))
  | t, [] => some (t, [])
  | t, listing :: rest => do
    let (next, told) ← v.refresh? now t listing
    let (last, others) ← v.run? now next rest
    return (last, told :: others)

end WatchedView

end LiveTable
