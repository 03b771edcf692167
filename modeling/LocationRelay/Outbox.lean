import LocationRelay.Text.Hex

/-! # Outboxes

The commands that wait for a connection's socket. Payloads and probes share a queue of bounded size
and are refused when it is full or when nobody attends to it any more. A request to stop does not
queue: it is kept aside and is handed out before anything that waits. The first reason to close stays;
only a request to terminate may still follow it.
-/
namespace LocationRelay

open Text (Bytes)

inductive CloseReason where
  /-- A newer connection registered the same identity. -/
  | superseded
  | shutdown
  | setupFailed
  /-- The broker ended the connection's subscription. -/
  | subscriptionLost
deriving DecidableEq

def CloseReason.text : CloseReason → String
  | superseded => "superseded"
  | shutdown => "shutdown"
  | setupFailed => "setup failed"
  | subscriptionLost => "subscription lost"

def CloseReason.all : List CloseReason := [superseded, shutdown, setupFailed, subscriptionLost]

def CloseReason.ofText? (s : String) : Option CloseReason := all.find? fun r => r.text == s

inductive Parcel where
  /-- A payload to relay as it is. -/
  | payload (content : Bytes)
  /-- A question whether the peer is still there. -/
  | probe
deriving DecidableEq

inductive Stop where
  /-- Close with a close frame. -/
  | close (reason : CloseReason)
  /-- Drop the socket without a word. -/
  | terminate
deriving DecidableEq

inductive Command where
  | send (parcel : Parcel)
  | stop (request : Stop)
deriving DecidableEq

structure Outbox where
  capacity : Nat
  queued : List Parcel := []
  /-- The latest request to stop. -/
  requested : Option Stop := none
  /-- The request to stop that was handed out last. -/
  reported : Option Stop := none
  /-- Whether anybody still takes commands out. -/
  attended : Bool := true
deriving DecidableEq

namespace Outbox

/-- How many commands wait for a connection before its parcels are refused. -/
def defaultCapacity : Nat := 256

def new (capacity : Nat) : Outbox := { capacity := max 1 capacity }

def accepts (o : Outbox) : Bool := o.attended && o.queued.length < o.capacity

def offer? (o : Outbox) (p : Parcel) : Option Outbox :=
  if o.accepts then some { o with queued := o.queued ++ [p] } else none

/-- Asks to stop. A request to close is kept only if it is the first request, a request to terminate
also after a request to close. -/
def request (o : Outbox) (s : Stop) : Outbox :=
  match o.requested, s with
  | none, s => { o with requested := some s }
  | some (.close _), .terminate => { o with requested := some .terminate }
  | some _, _ => o

def close (o : Outbox) (reason : CloseReason) : Outbox := o.request (.close reason)
def terminate (o : Outbox) : Outbox := o.request .terminate

def pendingStop? (o : Outbox) : Option Stop :=
  if o.requested = o.reported then none else o.requested

inductive Taken where
  | command (c : Command)
  | waiting
  /-- There is nothing and there never will be. -/
  | ended
deriving DecidableEq

/-- Takes the next command out. An empty outbox is at its end once nobody has a handle to it. -/
def take (o : Outbox) (handles : Bool) : Taken × Outbox :=
  match o.pendingStop? with
  | some s => (.command (.stop s), { o with reported := some s })
  | none =>
    match o.queued with
    | p :: rest => (.command (.send p), { o with queued := rest })
    | [] => (if handles then .waiting else .ended, o)

def takeStop (o : Outbox) : Option Stop × Outbox :=
  match o.pendingStop? with
  | some s => (some s, { o with reported := some s })
  | none => (none, o)

/-- Nobody takes commands out any more; what is queued is lost. -/
def abandon (o : Outbox) : Outbox := { o with queued := [], attended := false }

end Outbox
end LocationRelay
