import ServiceProxy.Description.Problem

/-! What can be observed of the program while it works, its result apart: log events and
metric samples, in the order in which they arise. -/

set_option autoImplicit false

namespace ServiceProxy

inductive Level where
  | error
  | warn
  | info
  | debug
  deriving DecidableEq, Repr

def Level.name : Level → String
  | .error => "ERROR"
  | .warn => "WARN"
  | .info => "INFO"
  | .debug => "DEBUG"

namespace Level

def rank : Level → Nat
  | .error => 1
  | .warn => 2
  | .info => 3
  | .debug => 4

/-- The greatest rank that a log of the named level shows; a log of no known level shows errors. -/
def threshold (name : String) : Nat :=
  let names := ["off", "error", "warn", "info", "debug", "trace"]
  (names.idxOf? (String.ofList (name.toList.map Char.toLower))).getD 1

end Level

inductive Event where
  | addressSkipped (node address : String)
  | protocolSkipped (protocol : Protocol) (port : Port)
  | familyMissing (node : String) (family : Family)
  | entryBuilt (key : Routing.Key) (backends : Nat)
  | entryOverwritten (key : Routing.Key)
  | problemFound (problem : Problem)
  | documentRendered (entries bytes : Nat)
  | compiled (entries endpoints : Nat) (healthCheckPort : Port)
  | documentWritten (path : String) (bytes : Nat)
  | compilationComplete (input output : String)
  | watching (input output : String)
  | watcherStarted (path directory : String)
  | descriptionChanged (path : String)
  | reloadFailed (error path : String)
  | delivered (path : String)
  | deliveryFailed (error : String)
  | loopStopped
  deriving DecidableEq, Repr

inductive Detail where
  | text (s : String)
  | number (n : Nat)
  deriving DecidableEq, Repr

namespace Event

def level : Event → Level
  | .addressSkipped .. => .warn
  | .protocolSkipped .. => .info
  | .familyMissing .. => .debug
  | .entryBuilt .. => .debug
  | .entryOverwritten .. => .warn
  | .problemFound .. => .warn
  | .documentRendered .. => .debug
  | .compiled .. => .info
  | .documentWritten .. => .debug
  | .compilationComplete .. => .info
  | .watching .. => .info
  | .watcherStarted .. => .info
  | .descriptionChanged .. => .debug
  | .reloadFailed .. => .error
  | .delivered .. => .info
  | .deliveryFailed .. => .error
  | .loopStopped => .info

def message : Event → String
  | .addressSkipped .. => "Skipping node address that is not an IP literal"
  | .protocolSkipped .. => "Service port protocol not supported, skipping"
  | .familyMissing .. => "Node has no address in family"
  | .entryBuilt .. => "Routing entry built"
  | .entryOverwritten .. => "Duplicate routing key, later port overwrites earlier one"
  | .problemFound .. => "Service description problem"
  | .documentRendered .. => "Proxy configuration rendered"
  | .compiled .. => "Compiled proxy configuration"
  | .documentWritten .. => "Document written"
  | .compilationComplete .. => "Compilation complete"
  | .watching .. => "Watching description"
  | .watcherStarted .. => "Description watcher started"
  | .descriptionChanged .. => "Description changed"
  | .reloadFailed .. => "Reload failed, keeping current configuration"
  | .delivered .. => "Proxy configuration delivered"
  | .deliveryFailed .. => "Recompilation failed, keeping previous document"
  | .loopStopped => "Watch loop stopped"

def details : Event → List (String × Detail)
  | .addressSkipped node address => [("node", .text node), ("address", .text address)]
  | .protocolSkipped protocol port => [("protocol", .text protocol.name), ("port", .number port.toNat)]
  | .familyMissing node family => [("node", .text node), ("family", .text family.name)]
  | .entryBuilt key backends => [("key", .text key.text), ("backends", .number backends)]
  | .entryOverwritten key => [("key", .text key.text)]
  | .problemFound problem => [("error", .text problem.text)]
  | .documentRendered entries bytes => [("entries", .number entries), ("bytes", .number bytes)]
  | .compiled entries endpoints port =>
    [("entries", .number entries), ("endpoints", .number endpoints),
      ("health_check_port", .number port.toNat)]
  | .documentWritten path bytes => [("path", .text path), ("bytes", .number bytes)]
  | .compilationComplete input output => [("input", .text input), ("output", .text output)]
  | .watching input output => [("input", .text input), ("output", .text output)]
  | .watcherStarted path directory => [("path", .text path), ("directory", .text directory)]
  | .descriptionChanged path => [("path", .text path)]
  | .reloadFailed error path => [("error", .text error), ("path", .text path)]
  | .delivered path => [("path", .text path)]
  | .deliveryFailed error => [("error", .text error)]
  | .loopStopped => []

end Event

inductive Verdict where
  | ok
  | invalid
  | renderError
  deriving DecidableEq, Repr

inductive Sample where
  | compilation (verdict : Verdict)
  | renderFailure
  | writeFailure
  | model (entries endpoints : Nat)
  deriving DecidableEq, Repr

inductive Observation where
  | event (e : Event)
  | sample (s : Sample)
  deriving DecidableEq, Repr

def Observation.event? : Observation → Option Event
  | .event e => some e
  | .sample _ => none

def Observation.sample? : Observation → Option Sample
  | .event _ => none
  | .sample s => some s

/-- A value together with what was observed on the way to it. -/
structure Observed (α : Type) where
  value : α
  seen : List Observation
  deriving DecidableEq, Repr

namespace Observed

variable {α β : Type}

instance : Monad Observed where
  pure a := ⟨a, []⟩
  bind x f :=
    let y := f x.value
    ⟨y.value, x.seen ++ y.seen⟩

def emit (e : Event) : Observed Unit := ⟨(), [.event e]⟩

def record (s : Sample) : Observed Unit := ⟨(), [.sample s]⟩

def events (x : Observed α) : List Event := x.seen.filterMap Observation.event?

def samples (x : Observed α) : List Sample := x.seen.filterMap Observation.sample?

@[simp] theorem value_pure (a : α) : (pure a : Observed α).value = a := rfl

@[simp] theorem seen_pure (a : α) : (pure a : Observed α).seen = [] := rfl

@[simp] theorem value_bind (x : Observed α) (f : α → Observed β) :
    (x >>= f).value = (f x.value).value := rfl

@[simp] theorem seen_bind (x : Observed α) (f : α → Observed β) :
    (x >>= f).seen = x.seen ++ (f x.value).seen := rfl

@[ext] theorem ext {x y : Observed α} (value : x.value = y.value) (seen : x.seen = y.seen) : x = y := by
  cases x; cases y; simp_all

instance : LawfulMonad Observed := LawfulMonad.mk' Observed
  (fun x => by ext1 <;> simp [Functor.map])
  (fun a f => by ext1 <;> simp)
  (fun x f g => by ext1 <;> simp)

end Observed

end ServiceProxy
