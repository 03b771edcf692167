import LocationRelay.Gateway.Bridge

/-! # Calls

Binding a connection, giving a binding back, and shutting down. Each call is cut at the points where
it waits for a lock or for the broker; `step?` runs one call from one such point to the next. A
broker operation is a section of its own, so other calls can run before it and after it.
-/
namespace LocationRelay.Gateway

def setCall (g : Gateway) (t : Ticket) (c : Call) : Gateway :=
  { g with calls := g.calls.insert t c }

def finish (g : Gateway) (t : Ticket) (o : Outcome) : Gateway :=
  { g with calls := g.calls.insert t (.done o), locks := g.locks.giveBack t }

/-! ## Starting a call -/

def start (g : Gateway) (c : Call) : Ticket × Gateway :=
  (g.nextTicket, { g.setCall g.nextTicket c with nextTicket := g.nextTicket + 1 })

def askLock (g : Gateway) (t : Ticket) (i : Identity) : Gateway :=
  { g with locks := g.locks.request t i }

def startBind (g : Gateway) (p : Principal) (h : Handle) : Ticket × Gateway :=
  let (t, g) := g.start (.bind p h .waiting)
  (t, g.askLock t p.identity)

def startUnbind (g : Gateway) (i : Identity) (connId : Nat) : Ticket × Gateway :=
  let (t, g) := g.start (.unbind i connId .waiting)
  (t, g.askLock t i)

def startShutdown (g : Gateway) : Ticket × Gateway := g.start (.shutdown .starting)

def startOpen (g : Gateway) (i : Identity) (pattern : String) : Ticket × Gateway :=
  g.start (.open i pattern .begin)

def startLock (g : Gateway) (i : Identity) : Ticket × Gateway :=
  let (t, g) := g.start (.lock i)
  (t, g.askLock t i)

/-! ## Opening a queue -/

def beginOpening (g : Gateway) (i : Identity) : Opening × Gateway :=
  match g.detach i with
  | (some binding, g) => (.clearing binding, g)
  | (none, g) => (.declaring, g)

def declare (g : Gateway) (binding : Binding) : Opening × Gateway :=
  let (answer, broker) := g.broker.subscribe binding
  (.declared answer, { g with broker })

/-! ## Binding -/

/-- What a bind does once it has the lock: nothing during a shutdown, else register the connection,
and begin to tear down the queue of the one registered before, or else to open the queue. -/
def enterBind (g : Gateway) (t : Ticket) (p : Principal) (h : Handle) : Gateway :=
  if g.shuttingDown then (g.close h .shutdown).finish t (.bound (.error .closed))
  else
    let (prior, g) := g.register p.identity h
    let (evicted, g) := if prior.isSome then g.detach p.identity else (none, g)
    match evicted with
    | some binding => g.setCall t (.bind p h (.evicting binding))
    | none =>
      let (o, g) := g.beginOpening p.identity
      g.setCall t (.bind p h (.opening o))

def abandonBind (g : Gateway) (t : Ticket) (p : Principal) (h : Handle) (reason : CloseReason)
    (e : BrokerError) : Gateway :=
  let (_, g) := g.release p.identity h.connId
  (g.close h reason).finish t (.bound (.error e))

def completeBind (g : Gateway) (t : Ticket) (p : Principal) (h : Handle) (s : StreamId) : Gateway :=
  let g := g.attach p.identity (g.bindingFor p.identity p.bindingPattern) s
  if g.shuttingDown then
    match g.detach p.identity with
    | (some binding, g) => g.setCall t (.bind p h (.retracting binding))
    | (none, g) => g.abandonBind t p h .shutdown .closed
  else g.finish t (.bound (.ok p.identity))

def stepBind? (g : Gateway) (t : Ticket) (p : Principal) (h : Handle) :
    BindStage → Option Gateway
  | .waiting => if g.locks.holds t then some (g.enterBind t p h) else none
  | .evicting binding =>
    some ((g.deleteQueue binding.queue).setCall t (.bind p h (.opening .begin)))
  | .opening .begin =>
    let (o, g) := g.beginOpening p.identity
    some (g.setCall t (.bind p h (.opening o)))
  | .opening (.clearing binding) =>
    some ((g.deleteQueue binding.queue).setCall t (.bind p h (.opening .declaring)))
  | .opening .declaring =>
    let (o, g) := g.declare (g.bindingFor p.identity p.bindingPattern)
    some (g.setCall t (.bind p h (.opening o)))
  | .opening (.declared (.error e)) => some (g.abandonBind t p h .setupFailed e)
  | .opening (.declared (.ok s)) => some (g.completeBind t p h s)
  | .retracting binding =>
    some ((g.deleteQueue binding.queue).setCall t (.bind p h .retracted))
  | .retracted => some (g.abandonBind t p h .shutdown .closed)

/-! ## Giving a binding back -/

/-- What an unbind does once it has the lock: nothing for a connection that is not registered any
more, else remove the registration and begin to tear down the queue. -/
def enterUnbind (g : Gateway) (t : Ticket) (i : Identity) (connId : Nat) : Gateway :=
  match g.release i connId with
  | (false, g) => g.finish t (.unbound false)
  | (true, g) =>
    match g.detach i with
    | (some binding, g) => g.setCall t (.unbind i connId (.deleting binding))
    | (none, g) => g.finish t (.unbound true)

def stepUnbind? (g : Gateway) (t : Ticket) (i : Identity) (connId : Nat) :
    UnbindStage → Option Gateway
  | .waiting => if g.locks.holds t then some (g.enterUnbind t i connId) else none
  | .deleting binding =>
    some ((g.deleteQueue binding.queue).setCall t (.unbind i connId .deleted))
  | .deleted => some (g.finish t (.unbound true))

/-! ## Shutting down -/

def stopNext (g : Gateway) (t : Ticket) : List Identity → Gateway
  | [] => g.setCall t (.shutdown .disconnecting)
  | i :: rest =>
    match g.detach i with
    | (some binding, g) => g.setCall t (.shutdown (.deleting binding rest))
    | (none, g) => g.stopNext t rest

def closeRegistered (g : Gateway) : Gateway :=
  g.registry.entries.foldl (fun g e => g.close e.2 .shutdown) g

/-- The first shutdown goes to work; later ones find nothing to do. -/
def enterShutdown (g : Gateway) (t : Ticket) : Gateway :=
  if g.shuttingDown then g.finish t .shutDown
  else
    let g := { g with shuttingDown := true }.closeRegistered
    g.stopNext t g.consumers.keys

def stepShutdown (g : Gateway) (t : Ticket) : ShutdownStage → Gateway
  | .starting => g.enterShutdown t
  | .stopping is => g.stopNext t is
  | .deleting binding is =>
    (g.deleteQueue binding.queue).setCall t (.shutdown (.stopping is))
  | .disconnecting => { g with broker := g.broker.close }.finish t .shutDown

/-! ## Opening without a registration -/

def stepOpen (g : Gateway) (t : Ticket) (i : Identity) (pattern : String) : Opening → Gateway
  | .begin =>
    let (o, g) := g.beginOpening i
    g.setCall t (.open i pattern o)
  | .clearing binding => (g.deleteQueue binding.queue).setCall t (.open i pattern .declaring)
  | .declaring =>
    let (o, g) := g.declare (g.bindingFor i pattern)
    g.setCall t (.open i pattern o)
  | .declared (.error e) => g.finish t (.opened (.error e))
  | .declared (.ok s) => (g.attach i (g.bindingFor i pattern) s).finish t (.opened (.ok ()))

/-- Runs a call to its next suspension, if it can go on. -/
def step? (g : Gateway) (t : Ticket) : Option Gateway := do
  match ← g.calls.get? t with
  | .bind p h stage => g.stepBind? t p h stage
  | .unbind i connId stage => g.stepUnbind? t i connId stage
  | .shutdown stage => some (g.stepShutdown t stage)
  | .open i pattern stage => some (g.stepOpen t i pattern stage)
  | .lock _ => if g.locks.holds t then some (g.setCall t (.done .locked)) else none
  | .done _ => none

def outcome? (g : Gateway) (t : Ticket) : Option Outcome :=
  match g.calls.get? t with
  | some (.done o) => some o
  | _ => none

def unlock (g : Gateway) (t : Ticket) : Gateway := { g with locks := g.locks.giveBack t }

end LocationRelay.Gateway
