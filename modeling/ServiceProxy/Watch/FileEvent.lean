import ServiceProxy.Files.Path

/-! Events on files and which of them may have changed a file's content. -/

set_option autoImplicit false

namespace ServiceProxy

inductive FileChange where
  | create
  | content
  | name
  | metadata
  | modified
  | remove
  | access
  | other
  deriving DecidableEq, Repr

def FileChange.mayAlterContent : FileChange → Bool
  | .create => true
  | .content => true
  | .name => true
  | .modified => true
  | .metadata => false
  | .remove => false
  | .access => false
  | .other => false

structure FileEvent where
  change : FileChange
  paths : List String
  deriving DecidableEq, Repr

/-- Events are told apart by file name, so that other files of the directory do not matter. -/
def FileEvent.touches (event : FileEvent) (name : String) : Bool :=
  event.change.mayAlterContent && event.paths.any fun path => Path.fileName? path == some name

end ServiceProxy
