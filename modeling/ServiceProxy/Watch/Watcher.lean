import ServiceProxy.Files.Access
import ServiceProxy.Loading
import ServiceProxy.Watch.FileEvent

/-! Watching a description file. The directory that holds the file is watched, because a save
may put another file in its place. -/

set_option autoImplicit false

namespace ServiceProxy

inductive WatchError where
  | noFileName (path : String)
  | directory (fault : FileFault)
  deriving DecidableEq, Repr

def WatchError.message : WatchError → String
  | .noFileName path => path ++ " does not name a file"
  | .directory fault => fault.message

namespace Watcher

variable {m : Type → Type} [Monad m]

/-- A watch on the directory of a path; the result is the name that events have to match. -/
def start (a : Access m) (path : String) : m (Except WatchError String) := do
  match Path.fileName? path with
  | none => return .error (.noFileName path)
  | some name =>
    let directory := Path.directory path
    if Path.hasNul directory then return .error (.directory .nulInWatch)
    else
      match ← a.canWatch directory with
      | .error fault => return .error (.directory fault)
      | .ok () =>
        a.observe (.emit (.watcherStarted path directory))
        return .ok name

def handle (a : Access m) (path name : String) (event : FileEvent) : m (Option Description) := do
  if event.touches name then
    a.observe (.emit (.descriptionChanged path))
    match ← a.observe (Description.load path (← a.read path)).run with
    | .ok description => return some description
    | .error e =>
      a.observe (.emit (.reloadFailed e.message path))
      return none
  else return none

end Watcher

end ServiceProxy
