import ServiceProxy.Files.Replacement
import ServiceProxy.Observation

/-! What the program needs of its surroundings, in any monad, and a workspace that provides it:
a file tree and the text on standard output. -/

set_option autoImplicit false

namespace ServiceProxy

structure Access (m : Type → Type) where
  read : String → m (Except FileFault ByteArray)
  canWatch : String → m (Except FileFault Unit)
  /-- Atomic replacement of the file at a path by a document. -/
  deliver : String → String → m (Except WriteError Unit)
  print : String → m (Except FileFault Unit)
  setLevel : String → m Unit
  observe : {α : Type} → Observed α → m α

namespace Access

variable {m : Type → Type} [Monad m]

def quiet (a : Access m) : Access m := { a with observe := fun run => pure run.value }

/-- A document goes to its path, or to standard output where the path is a single dash. -/
def put (a : Access m) (path document : String) : m (Except WriteError Unit) := do
  if Path.isStandardOutput path then
    return (← a.print document).mapError (⟨path, ·⟩)
  else
    match ← a.deliver path document with
    | .error e => return .error e
    | .ok () =>
      a.observe (.emit (.documentWritten path document.utf8ByteSize))
      return .ok ()

end Access

structure Workspace where
  tree : Tree
  printed : String := ""

abbrev Desk := StateT Workspace Observed

namespace Workspace

def surroundings : List Location := [["dev"], ["etc"], ["usr"], ["var"]]

/-- An empty working directory; the null device reads as an empty file. -/
def fresh : Workspace where
  tree := (surroundings.foldl (fun t place => t.set place .directory)
    (Tree.bare ["tmp", "workspace"])).set ["dev", "null"] (.file .empty)

def access : Access Desk where
  read path := return (← get).tree.read path
  canWatch path := return (← get).tree.hasEntry path
  deliver path document := do
    let w ← get
    let (result, tree) := w.tree.deliver path document
    set { w with tree }
    return result
  print text := do
    modify fun w => { w with printed := w.printed ++ text }
    return .ok ()
  setLevel _ := return ()
  observe run := StateT.lift run

end Workspace

end ServiceProxy
