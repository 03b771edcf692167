import LocationRelay.Principal
import LocationRelay.Table
import LocationRelay.Text.Hex
import LocationRelay.Text.Quoted
import LocationRelay.Topic.Pattern

/-! # The broker

An in-process topic exchange. A subscription declares an exclusive queue, binds it to an exchange by a
pattern and reads it through a stream. A publish goes once into the stream of every queue that is
bound to its exchange and whose pattern the routing key satisfies. Removing a queue ends its stream,
which still hands out what it holds.
-/
namespace LocationRelay

open Text (Bytes)

inductive BrokerError where
  | connect (reason : String)
  | setup (queue reason : String)
  | queueInUse (queue : String)
  | channel (reason : String)
  | publish (reason : String)
  | ack (reason : String)
  | closed
deriving DecidableEq

def BrokerError.message : BrokerError → String
  | connect reason => "broker connect failed: " ++ reason
  | setup queue reason => "queue setup failed for " ++ queue ++ ": " ++ reason
  | queueInUse queue => "queue " ++ queue ++ " is already in use"
  | channel reason => "broker channel error: " ++ reason
  | publish reason => "publish failed: " ++ reason
  | ack reason => "ack failed: " ++ reason
  | closed => "broker connection is closed"

structure Binding where
  queue : String
  exchange : String
  pattern : String
deriving DecidableEq

def Binding.reached (binding : Binding) (exchange key : String) : Bool :=
  binding.exchange == exchange && Topic.accepts binding.pattern key

structure Delivery where
  queue : String
  routingKey : String
  payload : Bytes
deriving DecidableEq

def Delivery.listed (d : Delivery) : String :=
  "Delivery \x7b routing_key: " ++ Text.quoted d.routingKey ++ ", payload_len: " ++
    Text.decimal d.payload.length ++ " \x7d"

abbrev StreamId := Nat

structure Stream where
  queue : String
  waiting : List Delivery := []
  /-- Whether the queue still exists. -/
  fed : Bool := true
deriving DecidableEq

structure Broker where
  queues : Table String (Binding × StreamId) := ∅
  streams : Table StreamId Stream := ∅
  /-- The number of the next stream. -/
  fresh : StreamId := 0
  acked : Table String Nat := ∅
  published : Nat := 0
  refusing : Bool := false
  closed : Bool := false

namespace Broker

def subscribe (b : Broker) (binding : Binding) : Except BrokerError StreamId × Broker :=
  if b.closed then (.error .closed, b)
  else if b.refusing then (.error (.setup binding.queue "subscriptions disabled"), b)
  else if b.queues.contains binding.queue then (.error (.queueInUse binding.queue), b)
  else
    (.ok b.fresh,
      { b with
        queues := b.queues.insert binding.queue (binding, b.fresh)
        streams := b.streams.insert b.fresh { queue := binding.queue }
        fresh := b.fresh + 1 })

def unsubscribe (b : Broker) (queue : String) : Broker :=
  match b.queues.get? queue with
  | none => b
  | some (_, stream) =>
    { b with
      queues := b.queues.erase queue
      streams := b.streams.adjust stream fun s => { s with fed := false } }

def distribute (exchange key : String) (payload : Bytes) (queues : List (Binding × StreamId))
    (streams : Table StreamId Stream) : Table StreamId Stream :=
  queues.foldl (fun streams (binding, stream) =>
    if binding.reached exchange key then
      streams.adjust stream fun s =>
        { s with waiting := s.waiting ++ [⟨binding.queue, key, payload⟩] }
    else streams) streams

def publish (b : Broker) (exchange key : String) (payload : Bytes) :
    Except BrokerError Unit × Broker :=
  if b.closed then (.error .closed, b)
  else
    (.ok (),
      { b with
        published := b.published + 1
        streams := distribute exchange key payload (b.queues.entries.map Prod.snd) b.streams })

inductive Next where
  | delivery (d : Delivery)
  | waiting
  /-- The queue is gone and everything is read. -/
  | ended

def next (b : Broker) (stream : StreamId) : Next × Broker :=
  match b.streams.get? stream with
  | none => (.ended, b)
  | some s =>
    match s.waiting with
    | d :: rest =>
      (.delivery d, { b with streams := b.streams.insert stream { s with waiting := rest } })
    | [] => (if s.fed then .waiting else .ended, b)

def ack (b : Broker) (d : Delivery) : Broker :=
  { b with acked := b.acked.insert d.queue ((b.acked.get? d.queue).getD 0 + 1) }

/-- Stops reading a stream; what it holds is lost. -/
def discard (b : Broker) (stream : StreamId) : Broker :=
  { b with streams := b.streams.erase stream }

def close (b : Broker) : Broker :=
  { b with
    closed := true
    queues := ∅
    streams := b.queues.entries.foldl
      (fun streams e => streams.adjust e.2.2 fun s => { s with fed := false }) b.streams }

def ackedFor (b : Broker) (queue : String) : Nat := (b.acked.get? queue).getD 0

def totalAcked (b : Broker) : Nat := b.acked.entries.foldr (fun e n => e.2 + n) 0

def bindings (b : Broker) : List Binding :=
  (b.queues.entries.map fun e => e.2.1).mergeSort fun x y => decide (x.queue ≤ y.queue)

end Broker
end LocationRelay
