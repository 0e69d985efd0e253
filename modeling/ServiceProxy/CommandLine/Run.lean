import ServiceProxy.CommandLine.Arguments
import ServiceProxy.Watch.Loop

/-! What an invocation does with access to files. -/

set_option autoImplicit false

namespace ServiceProxy.CommandLine

/-- How an invocation ends: with an exit code and lines of complaint, with an error, or in a
watch loop that waits. -/
inductive Ending where
  | exit (code : Nat) (complaints : List String)
  | failure (e : RunError)
  | watching (pollSeconds : Nat) (s : Watch.State)

def Ending.code : Ending → Nat
  | .exit code _ => code
  | .failure _ => 1
  | .watching _ _ => 0

/-- The exit code of an invocation that breaks off, as it does when it cannot print. -/
def brokenOff : Nat := 101

variable {m : Type → Type} [Monad m]

namespace Invocation

/-- Options of the command line take precedence over settings from a file. -/
def apply (i : Invocation) (s : Settings) : Settings :=
  { s with
    input := i.input.getD s.input
    output := i.output.getD s.output
    strict := s.strict || i.strict }

def settings (a : Access m) (i : Invocation) : m (Except LoadError Settings) := do
  match i.config with
  | none => return .ok (i.apply {})
  | some path =>
    match ← a.observe (Settings.load (← a.read path)).run with
    | .ok s => return .ok (i.apply s)
    | .error e => return .error e

end Invocation

def withDescription (a : Access m) (s : Settings) (use : Description → m Ending) : m Ending := do
  match ← a.observe (Description.load s.input (← a.read s.input)).run with
  | .error e => return .failure (.load e)
  | .ok d => use d

def runCompile (a : Access m) (s : Settings) : m Ending :=
  withDescription a s fun d => do
    match ← d.deliver a s.strict s.output with
    | .error e => return .failure e
    | .ok () =>
      a.observe (.emit (.compilationComplete s.input s.output))
      return .exit 0 []

def runCheck (a : Access m) (s : Settings) : m Ending :=
  withDescription a s fun d => do
    if d.problems.isEmpty then
      match ← a.print (s.input ++ ": ok\n") with
      | .ok () => return .exit 0 []
      | .error _ => return .exit brokenOff []
    else return .exit 1 (d.problems.map fun problem => "error: " ++ problem.text)

def runWatch (a : Access m) (s : Settings) : m Ending := do
  a.observe (.emit (.watching s.input s.output))
  let state ← Watch.State.settle a { plan := ⟨s.input, s.output, s.strict, s.watch.debounceMillis⟩ }
  match state.phase with
  | .failed e => return .failure e
  | _ => return .watching s.watch.pollSeconds state

def Verb.run (a : Access m) : Verb → Settings → m Ending
  | .compile => runCompile a
  | .check => runCheck a
  | .watch => runWatch a

/-- Arguments that make no invocation end it with code two. -/
def run (a : Access m) (args : List String) : m Ending := do
  match Invocation.parse? args with
  | none => return .exit 2 []
  | some i =>
    match ← i.settings a with
    | .error e => return .failure (.load e)
    | .ok s =>
      a.setLevel s.log.level
      i.verb.run a s

end ServiceProxy.CommandLine
