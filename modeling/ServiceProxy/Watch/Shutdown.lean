/-! The shutdown signal: a broadcast that keeps only its newest message. A receiver sees the
messages sent after its subscription; if several wait for it, all but the newest are lost. -/

set_option autoImplicit false

namespace ServiceProxy

structure Shutdown where
  sent : Nat := 0
  /-- For each receiver, how many messages it has behind it. -/
  receivers : List Nat := []
  deriving DecidableEq, Repr

namespace Shutdown

inductive Reception where
  | signal
  | lagged (lost : Nat)
  | empty
  | closed
  deriving DecidableEq, Repr

def subscribe (s : Shutdown) : Nat × Shutdown :=
  (s.receivers.length, { s with receivers := s.receivers ++ [s.sent] })

/-- A message that nobody waits for is not sent at all. -/
def trigger (s : Shutdown) : Shutdown :=
  if s.receivers.isEmpty then s else { s with sent := s.sent + 1 }

/-- What waits for a receiver, and what it has behind it afterwards. Learning of lost messages
leaves the newest to be read. -/
def reception (sent position : Nat) (isOpen : Bool) : Reception × Nat :=
  if sent ≤ position then (if isOpen then .empty else .closed, position)
  else if sent = position + 1 then (.signal, sent)
  else (.lagged (sent - position - 1), sent - 1)

def receive (s : Shutdown) (receiver : Nat) (isOpen : Bool) : Reception × Shutdown :=
  let (result, position) := reception s.sent (s.receivers[receiver]?.getD s.sent) isOpen
  (result, { s with receivers := s.receivers.set receiver position })

def isPending (s : Shutdown) (receiver : Nat) : Bool :=
  match s.receivers[receiver]? with
  | some position => position < s.sent
  | none => false

end Shutdown

end ServiceProxy
