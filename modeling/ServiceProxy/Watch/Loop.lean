import ServiceProxy.Delivery
import ServiceProxy.Watch.Shutdown

/-! The watch loop as a transition system.

A run loads the description, delivers it, starts the watcher and subscribes to the shutdown
signal; then it waits for updates. An update is held for a quiet period, later updates replace
it, and the last one is delivered. The shutdown signal ends the run while it waits for an update
or for the end of the quiet period: of two things that it could go on with it may take either,
but a quiet period that has a length is never over at once. Events and signals may come between
any two steps. -/

set_option autoImplicit false

namespace ServiceProxy.Watch

structure Plan where
  input : String
  output : String
  strict : Bool := false
  debounceMillis : Nat := 250
  deriving DecidableEq, Repr

inductive Phase where
  | loading
  | delivering (first : Description)
  | registering
  | subscribing
  | waiting
  /-- About to begin the quiet period. -/
  | holding (latest : Description)
  | debouncing (latest : Description)
  | draining (latest : Description)
  | stopped
  | failed (e : RunError)
  deriving DecidableEq, Repr

structure State where
  plan : Plan
  phase : Phase := .loading
  /-- The name that the watcher matches events against, once it is started. -/
  watched : Option String := none
  updates : List Description := []
  isClosed : Bool := false
  shutdown : Shutdown := {}
  receiver : Option Nat := none
  /-- The descriptions on which delivery was attempted, in order. -/
  attempts : List Description := []
  deriving DecidableEq, Repr

inductive Action where
  | load
  | deliver
  | register
  | subscribe
  | take
  | finish
  | heed
  | rest
  | elapse
  | drain
  | redeliver
  deriving DecidableEq, Repr

inductive Incident where
  | event (e : FileEvent)
  | trigger
  | close
  deriving DecidableEq, Repr

namespace State

variable {m : Type → Type} [Monad m]

def isSignalled (s : State) : Bool :=
  match s.receiver with
  | some receiver => s.shutdown.isPending receiver
  | none => false

def load (a : Access m) (s : State) : m State := do
  match ← a.observe (Description.load s.plan.input (← a.read s.plan.input)).run with
  | .ok first => return { s with phase := .delivering first }
  | .error e => return { s with phase := .failed (.load e) }

/-- What comes of the delivery of a description, and the state that remembers the attempt. -/
def attempt (a : Access m) (s : State) (d : Description) : m (Except RunError Unit × State) := do
  let result ← d.deliver a s.plan.strict s.plan.output
  return (result, { s with attempts := s.attempts ++ [d] })

def deliver (a : Access m) (s : State) (first : Description) : m State := do
  let (result, s) ← s.attempt a first
  match result with
  | .ok () =>
    a.observe (.emit (.delivered s.plan.output))
    return { s with phase := .registering }
  | .error e => return { s with phase := .failed e }

def register (a : Access m) (s : State) : m State := do
  match ← Watcher.start a s.plan.input with
  | .ok name => return { s with watched := some name, phase := .subscribing }
  | .error e => return { s with phase := .failed (.watch e) }

def subscribe (s : State) : State :=
  let (receiver, shutdown) := s.shutdown.subscribe
  { s with shutdown, receiver := some receiver, phase := .waiting }

def stop (a : Access m) (s : State) : m State := do
  a.observe (.emit .loopStopped)
  return { s with phase := .stopped }

/-- A later delivery may fail; the run goes on with the previous document in place. -/
def redeliver (a : Access m) (s : State) (latest : Description) : m State := do
  let (result, s) ← s.attempt a latest
  match result with
  | .ok () =>
    a.observe (.emit (.delivered s.plan.output))
    return { s with phase := .waiting }
  | .error e =>
    a.observe (.emit (.deliveryFailed e.message))
    return { s with phase := .waiting }

def step? (a : Access m) (s : State) : Action → Option (m State)
  | .load =>
    match s.phase with
    | .loading => some (s.load a)
    | _ => none
  | .deliver =>
    match s.phase with
    | .delivering first => some (s.deliver a first)
    | _ => none
  | .register =>
    match s.phase with
    | .registering => some (s.register a)
    | _ => none
  | .subscribe =>
    match s.phase with
    | .subscribing => some (pure s.subscribe)
    | _ => none
  | .take =>
    match s.phase, s.updates with
    | .waiting, latest :: rest => some (pure { s with phase := .holding latest, updates := rest })
    | _, _ => none
  | .finish =>
    match s.phase, s.updates with
    | .waiting, [] => if s.isClosed then some (s.stop a) else none
    | _, _ => none
  | .heed =>
    match s.phase with
    | .waiting => if s.isSignalled then some (s.stop a) else none
    | .holding _ => if s.isSignalled then some (s.stop a) else none
    | .debouncing _ => if s.isSignalled then some (s.stop a) else none
    | _ => none
  | .rest =>
    match s.phase with
    | .holding latest =>
      -- A signal that has come is heeded before the quiet period begins.
      if s.isSignalled then none else some (pure { s with phase := .debouncing latest })
    | _ => none
  | .elapse =>
    match s.phase with
    | .holding latest =>
      -- Only a quiet period without a length is over before it begins.
      if s.plan.debounceMillis = 0 then some (pure { s with phase := .draining latest }) else none
    | .debouncing latest => some (pure { s with phase := .draining latest })
    | _ => none
  | .drain =>
    match s.phase, s.updates with
    | .draining _, latest :: rest => some (pure { s with phase := .draining latest, updates := rest })
    | _, _ => none
  | .redeliver =>
    match s.phase, s.updates with
    | .draining latest, [] => some (s.redeliver a latest)
    | _, _ => none

/-- The effect of an incident. Events count once the watcher is started. -/
def meet (a : Access m) (s : State) : Incident → m State
  | .event e => do
    match s.watched with
    | none => return s
    | some name =>
      match ← Watcher.handle a s.plan.input name e with
      | some description => return { s with updates := s.updates ++ [description] }
      | none => return s
  | .trigger => return { s with shutdown := s.shutdown.trigger }
  | .close => return { s with isClosed := true }

/-- The step that a run left to itself takes next; waiting ends only from outside. -/
def next? (s : State) : Option Action :=
  match s.phase with
  | .loading => some .load
  | .delivering _ => some .deliver
  | .registering => some .register
  | .subscribing => some .subscribe
  | .waiting =>
    if s.isSignalled then some .heed
    else if !s.updates.isEmpty then some .take
    else if s.isClosed then some .finish
    else none
  | .holding _ => some (if s.isSignalled then .heed else .rest)
  | .debouncing _ => some (if s.isSignalled then .heed else .elapse)
  | .draining _ => some (if s.updates.isEmpty then .redeliver else .drain)
  | .stopped => none
  | .failed _ => none

/-- More steps than a run left to itself takes until it waits or has ended: four to start, one
for each update, and three around a delivery. -/
def budget (s : State) : Nat := s.updates.length + 8

def settleWithin (a : Access m) : Nat → State → m State
  | 0, s => return s
  | fuel + 1, s =>
    match s.next?.bind (s.step? a) with
    | none => return s
    | some run => do settleWithin a fuel (← run)

def settle (a : Access m) (s : State) : m State := settleWithin a s.budget s

end State

end ServiceProxy.Watch
