import LocationRelay.Gateway.Call
import LocationRelay.Gateway.Sweep

/-! # The event loop

One way of running the gateway: on a single thread, first come, first served. A call keeps its turn
until it has to wait, and a relay keeps it for a limited number of deliveries. What a turn makes ready
queues up behind what is ready already, relays before the calls that were granted a lock.

The loop can hold up subscriptions: each queue declared meanwhile then waits for one release before
its call goes on. It also keeps a clock, by which a monitor sweeps the registered connections.
-/
namespace LocationRelay.Gateway

inductive Turn where
  | call (t : Ticket)
  | relay (s : StreamId)
deriving DecidableEq

structure Loop where
  gateway : Gateway
  config : SweepConfig
  ready : List Turn := []
  /-- Relays that used up their turn and go on when nothing else is ready. -/
  rested : List StreamId := []
  holding : Bool := false
  /-- Releases that nobody has used yet. -/
  releases : Nat := 0
  /-- The calls that wait for a release, oldest first. -/
  held : List Ticket := []
  /-- The stream that was opened last for each identity. -/
  latest : Table Identity StreamId := ∅
  /-- The time in milliseconds. -/
  now : Nat := 0
  /-- When the monitor sweeps next, if there is one. -/
  sweepDue : Option Nat := none

/-- How many deliveries a relay hands on in one turn. -/
def relayBudget : Nat := 128

namespace Loop

def wake (l : Loop) : Loop :=
  let g := l.gateway
  let relays := g.relays.keys.filter fun s =>
    g.relayReady s && !l.ready.contains (.relay s) && !l.rested.contains s
  let calls := g.calls.entries.filterMap fun (t, c) =>
    if c.isWaiting && g.locks.holds t && !l.ready.contains (.call t) then some t else none
  { l with ready := l.ready ++ relays.map .relay ++ calls.map .call }

def runCall (t : Ticket) : Nat → Loop → Loop
  | 0, l => l
  | n + 1, l =>
    match l.gateway.step? t with
    | none => l
    | some g =>
      let l := { l with gateway := g }
      match (g.calls.get? t).bind Call.declared? with
      | none => runCall t n l
      | some (i, s) =>
        let l := { l with latest := l.latest.insert i s }
        if !l.holding then runCall t n l
        else if 0 < l.releases then runCall t n { l with releases := l.releases - 1 }
        else { l with held := l.held ++ [t] }

def runRelay (s : StreamId) : Nat → Loop → Loop
  | 0, l => { l with rested := l.rested ++ [s] }
  | n + 1, l =>
    match l.gateway.relayStep? s with
    | none => l
    | some g => runRelay s n { l with gateway := g }

def run (l : Loop) : Turn → Loop
  | .call t => runCall t (2 * l.gateway.consumers.size + 8) l
  | .relay s => runRelay s relayBudget l

def settleWithin : Nat → Loop → Loop
  | 0, l => l
  | n + 1, l =>
    let l := l.wake
    match l.ready, l.rested with
    | turn :: rest, _ => settleWithin n ({ l with ready := rest }.run turn)
    | [], s :: rested => settleWithin n { l with ready := (s :: rested).map .relay, rested := [] }
    | [], [] => l

def turns (l : Loop) : Nat :=
  let g := l.gateway
  let waiting := g.broker.streams.entries.foldr (fun e n => e.2.waiting.length + n) 0
  8 * (l.ready.length + g.calls.size + g.relays.size + waiting + 1)

def settle (l : Loop) : Loop := settleWithin l.turns l

def spawn (l : Loop) (start : Gateway → Ticket × Gateway) : Ticket × Loop :=
  let (t, g) := start l.gateway
  (t, settle { l with gateway := g, ready := l.ready ++ [.call t] })

/-- Lets one held subscription go on, now or when it comes. -/
def release (l : Loop) : Loop :=
  match l.held with
  | [] => { l with releases := l.releases + 1 }
  | t :: held => settle { l with held, ready := l.ready ++ [.call t] }

def update (l : Loop) (f : Gateway → Gateway) : Loop := settle { l with gateway := f l.gateway }

def sweep (l : Loop) : SweepReport × Loop :=
  let (report, g) := l.gateway.sweep l.config
  (report, settle { l with gateway := g })

def startMonitor (l : Loop) : Loop := { l with sweepDue := some (l.now + l.config.period) }

def stopMonitor (l : Loop) : Loop := { l with sweepDue := none }

/-- When a monitor that was due sweeps again: one period later, counted from now if the sweep was
more than five milliseconds late. -/
def nextDue (period now due : Nat) : Nat :=
  if due + 5 < now then now + period else due + period

def advance (l : Loop) (millis : Nat) : Loop :=
  let now := l.now + millis
  let l := { l with now }
  match l.sweepDue with
  | none => l
  | some due =>
    if due ≤ now then
      { l with sweepDue := some (nextDue l.config.period now due) }.sweep.2
    else l

end Loop
end LocationRelay.Gateway
