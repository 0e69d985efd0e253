import ServiceProxy.Observation

/-! The metrics ledger: counters of compilations and failures, and gauges of the last model. -/

set_option autoImplicit false

namespace ServiceProxy

structure Ledger where
  ok : Nat := 0
  invalid : Nat := 0
  renderError : Nat := 0
  renderFailures : Nat := 0
  writeFailures : Nat := 0
  entries : Option Nat := none
  endpoints : Option Nat := none
  deriving DecidableEq, Repr, Inhabited

namespace Ledger

def count (l : Ledger) : Verdict → Nat
  | .ok => l.ok
  | .invalid => l.invalid
  | .renderError => l.renderError

def post (l : Ledger) : Sample → Ledger
  | .compilation .ok => { l with ok := l.ok + 1 }
  | .compilation .invalid => { l with invalid := l.invalid + 1 }
  | .compilation .renderError => { l with renderError := l.renderError + 1 }
  | .renderFailure => { l with renderFailures := l.renderFailures + 1 }
  | .writeFailure => { l with writeFailures := l.writeFailures + 1 }
  | .model entries endpoints => { l with entries := some entries, endpoints := some endpoints }

def postAll (l : Ledger) (samples : List Sample) : Ledger := samples.foldl post l

def counterLine (name : String) (n : Nat) : List (String × Nat) := if n = 0 then [] else [(name, n)]

def gaugeLine (name : String) (value : Option Nat) : List (String × Nat) :=
  value.toList.map (name, ·)

/-- The metrics by name; one that was never recorded has no line. -/
def lines (l : Ledger) : List (String × Nat) :=
  counterLine "lb_compilations_total\x7bresult=\"ok\"\x7d" l.ok ++
  counterLine "lb_compilations_total\x7bresult=\"invalid\"\x7d" l.invalid ++
  counterLine "lb_compilations_total\x7bresult=\"render_error\"\x7d" l.renderError ++
  counterLine "lb_render_failures_total" l.renderFailures ++
  counterLine "lb_write_failures_total" l.writeFailures ++
  gaugeLine "lb_routing_entries" l.entries ++
  gaugeLine "lb_backend_endpoints" l.endpoints

end Ledger

end ServiceProxy
