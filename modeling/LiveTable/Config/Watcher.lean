import LiveTable.Config.Basic

namespace LiveTable

structure StoredFile where
  text : String
  modified : Int
deriving DecidableEq, Inhabited

structure Surroundings where
  files : List (String × StoredFile)
  chosen : Option String
  home : Option String
deriving DecidableEq, Inhabited

namespace Surroundings

def file? (s : Surroundings) (path : String) : Option StoredFile := s.files.lookup path

def has (s : Surroundings) (path : String) : Bool := (s.file? path).isSome

def modified? (s : Surroundings) (path : String) : Option Int := (s.file? path).map (·.modified)

def below (directory path : String) : String :=
  if directory.isEmpty || Text.endsWith "/" directory then directory ++ path
  else directory ++ "/" ++ path

def candidates (s : Surroundings) : List String :=
  ["kubetab.yaml", "kubetab.yml", ".kubetab.yaml"] ++
    match s.home with
    | some home =>
      [below home ".config/kubetab/config.yaml", below home ".config/kubetab/config.yml"]
    | none => []

def discover? (s : Surroundings) : Option String :=
  match s.chosen with
  | some path => if Text.isBlankText path then s.candidates.find? s.has else some path
  | none => s.candidates.find? s.has

end Surroundings

structure ConfigWatcher where
  path : Option String
  modified : Option Int := none
deriving DecidableEq, Inhabited

namespace ConfigWatcher

def ofPath (path : String) : ConfigWatcher := ⟨some path, none⟩

def discover (s : Surroundings) : ConfigWatcher := ⟨s.discover?, none⟩

def loadFile (w : ConfigWatcher) (s : Surroundings) (path : String) :
    ConfigWatcher × Except Config.Error Config :=
  match s.file? path with
  | none => (w, .error (.unreadable path))
  | some file =>
    match Settings.parse? file.text with
    | none => (w, .error (.malformed path))
    | some settings => ({ w with modified := some file.modified }, Config.ofSettings path settings)

def load (w : ConfigWatcher) (s : Surroundings) : ConfigWatcher × Except Config.Error Config :=
  match w.path with
  | none => (w, .ok Config.default)
  | some path => w.loadFile s path

def loadWatched (w : ConfigWatcher) (s : Surroundings) (unwatched : Option Config) :
    ConfigWatcher × Except Config.Error (Option Config) :=
  match w.path with
  | none => (w, .ok unwatched)
  | some path =>
    let (w, result) := w.loadFile s path
    (w, result.map some)

-- The configuration if something has changed since the last look. A file that is gone gives way to
-- another one or to the defaults.
def reload (w : ConfigWatcher) (s : Surroundings) :
    ConfigWatcher × Except Config.Error (Option Config) :=
  match w.path with
  | none => { w with path := s.discover? }.loadWatched s none
  | some path =>
    if !s.has path then (discover s).loadWatched s (some Config.default)
    else if s.modified? path != w.modified then
      let (w, result) := w.loadFile s path
      (w, result.map some)
    else (w, .ok none)

end ConfigWatcher

end LiveTable
