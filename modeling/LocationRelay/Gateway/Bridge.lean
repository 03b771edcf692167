import LocationRelay.Gateway

/-! # Consumers and relays

A consumer stands for the queue that is open for an identity; a relay hands what the queue delivers to
whoever is registered at that moment, and acknowledges every delivery once, whatever became of it.
Stopping a consumer stops its relay and leaves the queue to be deleted. A relay whose stream ends has
lost its subscription, of which it tells the owner if that is still registered.
-/
namespace LocationRelay.Gateway

open Text (Bytes)

/-- Stops the consumer of an identity. Its relay ends without reading on, and the queue's binding is
the answer, for the queue to be deleted. -/
def detach (g : Gateway) (i : Identity) : Option Binding × Gateway :=
  match g.consumers.get? i with
  | none => (none, g)
  | some c =>
    let broker := if g.relays.contains c.stream then g.broker.discard c.stream else g.broker
    (some c.binding,
      { g with
        consumers := g.consumers.erase i
        relays := g.relays.erase c.stream
        broker })

def closeQueue (g : Gateway) (i : Identity) : Bool × Gateway :=
  match g.detach i with
  | (none, g) => (false, g)
  | (some binding, g) => (true, g.deleteQueue binding.queue)

def closeQueues (g : Gateway) : Gateway :=
  g.consumers.keys.foldl (fun g i => (g.closeQueue i).2) g

def attach (g : Gateway) (i : Identity) (binding : Binding) (stream : StreamId) : Gateway :=
  let owner := (g.registry.get? i).map Handle.connId
  { g with
    relays := g.relays.insert stream ⟨i, owner⟩
    consumers := g.consumers.insert i ⟨binding, stream⟩ }

inductive Forwarding where
  | forwarded
  /-- The connection is gone or does not keep up. -/
  | dropped
  | noConnection
deriving DecidableEq

def forward (g : Gateway) (i : Identity) (payload : Bytes) : Forwarding × Gateway :=
  match g.registry.get? i with
  | none => (.noConnection, g)
  | some h =>
    match g.offer h (.payload payload) with
    | (true, g) => (.forwarded, g)
    | (false, g) => (.dropped, g)

def relayDelivery (g : Gateway) (i : Identity) (d : Delivery) : Gateway :=
  let (_, g) := g.forward i d.payload
  { g with broker := g.broker.ack d }

def loseSubscription (g : Gateway) (stream : StreamId) (r : Relay) : Gateway :=
  let g := { g with relays := g.relays.erase stream, broker := g.broker.discard stream }
  match g.registry.get? r.identity with
  | some h => if some h.connId = r.owner then g.close h .subscriptionLost else g
  | none => g

def relayReady (g : Gateway) (stream : StreamId) : Bool :=
  g.relays.contains stream &&
    match (g.broker.next stream).1 with
    | .waiting => false
    | _ => true

def relayStep? (g : Gateway) (stream : StreamId) : Option Gateway := do
  let r ← g.relays.get? stream
  match g.broker.next stream with
  | (.delivery d, broker) => some ({ g with broker }.relayDelivery r.identity d)
  | (.ended, _) => some (g.loseSubscription stream r)
  | (.waiting, _) => none

end LocationRelay.Gateway
