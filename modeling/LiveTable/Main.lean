import LiveTable.Arguments.Parser
import LiveTable.Config.Watcher
import LiveTable.Watch.Listing
import LiveTable.Watch.Request
import Std.Time.DateTime.Timestamp

namespace LiveTable

def programName : String := "livetable"

def programVersion : String := "0.1.0"

def usageText : String :=
  "\n".intercalate (("Usage: " ++ programName ++ " [OPTIONS]") :: "" :: Switch.all.map Switch.usage)

def currentTime : IO Int := do
  return (← Std.Time.Timestamp.now).toSecondsSinceUnixEpoch.val

def storedFile? (path : String) : IO (Option (String × StoredFile)) := do
  try
    return some (path, ⟨← IO.FS.readFile path, 0⟩)
  catch _ => return none

def surroundings : IO Surroundings := do
  let chosen ← IO.getEnv "KUBETAB_CONFIG"
  let home ← IO.getEnv "HOME"
  let paths := chosen.toList ++ (⟨[], chosen, home⟩ : Surroundings).candidates
  return ⟨(← paths.mapM storedFile?).reduceOption, chosen, home⟩

def report (causes : List String) : IO UInt32 := do
  IO.eprintln ("Error: " ++ compactError causes)
  return 1

def stopped : IO UInt32 := do
  IO.eprintln "Error: the program cannot go on"
  return 101

def tell (text : String) : Notification → IO Unit
  | .updated _ => IO.print text
  | .failed _ error => IO.eprintln error

def refresh? (r : Request) (t : Table) (listing : String) : IO (Option Table) := do
  let now ← currentTime
  let outcome := do
    let (next, told) ← r.watched.refresh? now t (Listing.ofText listing)
    return (next, told, ← r.text? next)
  match outcome with
  | none => return none
  | some (next, told, text) =>
    told.forM (tell text)
    return some next

partial def follow (r : Request) (input : IO.FS.Stream) (t : Table) : IO UInt32 := do
  let line ← input.getLine
  if line.isEmpty then return 0
  match ← refresh? r t line with
  | some next => follow r input next
  | none => stopped

def printOnce (r : Request) (input : IO.FS.Stream) : IO UInt32 := do
  let now ← currentTime
  let view := r.watched
  match Listing.ofText (← input.readToEnd) with
  | .failed causes => report causes
  | .timedOut => report [view.timeoutMessage]
  | .objects objects =>
    match view.newTable.reconcile? now view.renderer view.columns objects with
    | none => stopped
    | some (_, .error message) => report [message]
    | some (t, .ok ()) =>
      match r.text? t with
      | some text => IO.print text; return 0
      | none => stopped

def run (a : Arguments) : IO UInt32 := do
  let place ← surroundings
  match ((ConfigWatcher.discover place).load place).2 with
  | .error e => report e.causes
  | .ok config =>
    match Request.ofArguments config a with
    | .error e => report e.causes
    | .ok r =>
      let input ← IO.getStdin
      if a.once then printOnce r input
      else follow r input r.watched.newTable

end LiveTable

def main (arguments : List String) : IO UInt32 := do
  match LiveTable.Arguments.parse arguments with
  | .ok a => LiveTable.run a
  | .error .help => IO.println LiveTable.usageText; return 0
  | .error .version => IO.println (LiveTable.programName ++ " " ++ LiveTable.programVersion); return 0
  | .error stop =>
    IO.eprintln ("error: " ++ stop.message)
    IO.eprintln LiveTable.usageText
    return 2
