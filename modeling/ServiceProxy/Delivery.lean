import ServiceProxy.Compilation
import ServiceProxy.Watch.Watcher

/-! Compilation and delivery of a description, and all that can go wrong on the way from a
description file to a delivered document. -/

set_option autoImplicit false

namespace ServiceProxy

inductive RunError where
  | load (e : LoadError)
  | compile (e : CompileError)
  | write (e : WriteError)
  | watch (e : WatchError)
  deriving DecidableEq, Repr

def RunError.message : RunError → String
  | .load e => e.message
  | .compile e => e.message
  | .write e => e.message
  | .watch e => "watch error: " ++ e.message

namespace Description

variable {m : Type → Type} [Monad m]

/-- Nothing is written unless the description compiles. -/
def deliver (a : Access m) (strict : Bool) (output : String) (d : Description) :
    m (Except RunError Unit) := do
  match ← a.observe (d.compile strict).run with
  | .error e => return .error (.compile e)
  | .ok document =>
    match ← a.put output document with
    | .error e =>
      a.observe (.record .writeFailure)
      return .error (.write e)
    | .ok () => return .ok ()

end Description

end ServiceProxy
