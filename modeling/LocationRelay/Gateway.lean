import LocationRelay.Broker
import LocationRelay.IdentityLocks
import LocationRelay.Outbox

/-! # The gateway's state

Everything that connections share: who is registered under which identity, the identity locks, the
broker, the consumers that read the queues, and the calls in progress. A call is advanced by one
section at a time; between sections it is suspended, and anything else may happen.

Of a peer's answers to probes it is known whether it answered since the last probe was armed, and how
many rounds it missed in a row. The count is kept in 32 bits and starts again from zero past its limit,
whereas the number reported for a missed round stays at the limit.
-/
namespace LocationRelay

open Text (Bytes)

/-- A handle to a connection: the connection's number as others see it, and where its outbox is. -/
structure Handle where
  connId : Nat
  slot : Nat
deriving DecidableEq

structure Liveness where
  alive : Bool := true
  missed : UInt32 := 0
deriving DecidableEq

namespace Liveness

def markAlive (_ : Liveness) : Liveness := { alive := true, missed := 0 }

/-- A probe is about to be sent; the peer counts as silent until it answers. -/
def arm (l : Liveness) : Liveness := { l with alive := false }

def recordMiss (l : Liveness) : Nat × Liveness :=
  (min (l.missed.toNat + 1) 4294967295, { l with missed := l.missed + 1 })

end Liveness

structure Connection where
  outbox : Outbox
  liveness : Liveness := {}
  /-- Whether whoever opened the connection still has a handle to it. -/
  kept : Bool := true
deriving DecidableEq

structure Consumer where
  binding : Binding
  stream : StreamId
deriving DecidableEq

/-- The task that relays a stream to whoever is registered for an identity. The owner is the
connection that was registered when the queue was opened. -/
structure Relay where
  identity : Identity
  owner : Option Nat
deriving DecidableEq

inductive Opening where
  /-- Nothing has been looked at yet. -/
  | begin
  /-- An older queue of the identity is about to be deleted. -/
  | clearing (binding : Binding)
  | declaring
  | declared (answer : Except BrokerError StreamId)

inductive BindStage where
  /-- The identity's lock has been asked for. -/
  | waiting
  /-- The queue of the connection that was replaced is about to be deleted. -/
  | evicting (binding : Binding)
  | opening (stage : Opening)
  /-- A shutdown came while the queue was opened, which is about to be deleted again. -/
  | retracting (binding : Binding)
  | retracted

inductive UnbindStage where
  | waiting
  | deleting (binding : Binding)
  | deleted

inductive ShutdownStage where
  | starting
  /-- The consumers of these identities are still to be stopped. -/
  | stopping (identities : List Identity)
  /-- A queue is about to be deleted, with more consumers to be stopped after it. -/
  | deleting (binding : Binding) (identities : List Identity)
  | disconnecting

inductive Outcome where
  | bound (answer : Except BrokerError Identity)
  | unbound (current : Bool)
  | shutDown
  | opened (answer : Except BrokerError Unit)
  | locked

inductive Call where
  | bind (principal : Principal) (handle : Handle) (stage : BindStage)
  | unbind (identity : Identity) (connId : Nat) (stage : UnbindStage)
  | shutdown (stage : ShutdownStage)
  /-- Opening a queue without registering anybody. -/
  | «open» (identity : Identity) (pattern : String) (stage : Opening)
  /-- Waiting for the lock of an identity, to keep it until it is given back. -/
  | lock (identity : Identity)
  | done (outcome : Outcome)

def Call.hasHandle (slot : Nat) : Call → Bool
  | .bind _ h _ => h.slot == slot
  | _ => false

/-- Whether the call has asked for a lock and not yet gone on with it. -/
def Call.isWaiting : Call → Bool
  | .bind _ _ .waiting | .unbind _ _ .waiting | .lock _ => true
  | _ => false

def Call.declared? : Call → Option (Identity × StreamId)
  | .bind p _ (.opening (.declared (.ok s))) => some (p.identity, s)
  | .open i _ (.declared (.ok s)) => some (i, s)
  | _ => none

structure Gateway where
  exchange : String := defaultExchange
  connections : Table Nat Connection := ∅
  registry : Table Identity Handle := ∅
  locks : IdentityLocks := {}
  broker : Broker := {}
  consumers : Table Identity Consumer := ∅
  relays : Table StreamId Relay := ∅
  calls : Table Ticket Call := ∅
  nextTicket : Ticket := 0
  nextConnId : Nat := 1
  shuttingDown : Bool := false

namespace Gateway

/-! ## Connections -/

def connect (g : Gateway) (connId capacity : Nat) : Handle × Gateway :=
  let slot := g.connections.size
  (⟨connId, slot⟩, { g with connections := g.connections.insert slot { outbox := .new capacity } })

def takeConnId (g : Gateway) : Nat × Gateway :=
  (g.nextConnId, { g with nextConnId := g.nextConnId + 1 })

def connection? (g : Gateway) (h : Handle) : Option Connection := g.connections.get? h.slot

def adjust (g : Gateway) (h : Handle) (f : Connection → Connection) : Gateway :=
  { g with connections := g.connections.adjust h.slot f }

def adjustOutbox (g : Gateway) (h : Handle) (f : Outbox → Outbox) : Gateway :=
  g.adjust h fun c => { c with outbox := f c.outbox }

def close (g : Gateway) (h : Handle) (reason : CloseReason) : Gateway :=
  g.adjustOutbox h (·.close reason)

def terminate (g : Gateway) (h : Handle) : Gateway := g.adjustOutbox h (·.terminate)

def offer (g : Gateway) (h : Handle) (p : Parcel) : Bool × Gateway :=
  match (g.connection? h).bind fun c => c.outbox.offer? p with
  | some outbox => (true, g.adjustOutbox h fun _ => outbox)
  | none => (false, g)

def hasHandles (g : Gateway) (h : Handle) : Bool :=
  ((g.connection? h).map Connection.kept).getD false ||
    g.registry.entries.any (fun e => e.2.slot == h.slot) ||
    g.calls.entries.any (fun e => e.2.hasHandle h.slot)

def take (g : Gateway) (h : Handle) : Outbox.Taken × Gateway :=
  match g.connection? h with
  | none => (.ended, g)
  | some c =>
    let (taken, outbox) := c.outbox.take (g.hasHandles h)
    (taken, g.adjustOutbox h fun _ => outbox)

/-! ## Registration -/

/-- Registers a connection for an identity. The connection registered before is told that it is
superseded, and is the answer. -/
def register (g : Gateway) (i : Identity) (h : Handle) : Option Handle × Gateway :=
  let prior := g.registry.get? i
  let g := { g with registry := g.registry.insert i h }
  match prior with
  | some p => (some p, g.close p .superseded)
  | none => (none, g)

def isCurrent (g : Gateway) (i : Identity) (connId : Nat) : Bool :=
  (g.registry.get? i).map Handle.connId == some connId

def release (g : Gateway) (i : Identity) (connId : Nat) : Bool × Gateway :=
  if g.isCurrent i connId then (true, { g with registry := g.registry.erase i }) else (false, g)

def prune (g : Gateway) : Gateway := { g with locks := g.locks.prune }

/-! ## The broker -/

def publish (g : Gateway) (exchange key : String) (payload : Bytes) :
    Except BrokerError Unit × Gateway :=
  let (answer, broker) := g.broker.publish exchange key payload
  (answer, { g with broker })

def deleteQueue (g : Gateway) (queue : String) : Gateway :=
  { g with broker := g.broker.unsubscribe queue }

def bindingFor (g : Gateway) (i : Identity) (pattern : String) : Binding :=
  ⟨i.text, g.exchange, pattern⟩

end Gateway
end LocationRelay
