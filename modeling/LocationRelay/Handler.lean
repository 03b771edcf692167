import LocationRelay.Authentication
import LocationRelay.Broker
import LocationRelay.Frame
import LocationRelay.Outbox
import LocationRelay.Session

/-! # Serving a connection

The handler of one socket takes it from the handshake through authentication and binding to the relay
loop, and gives the binding back when the loop has ended. It is a machine that is told what happened
and answers with what it does. Between two happenings others may use the outbox, so a request to stop
can come at any point: before a command is taken, between taking it and writing, while a frame is being
written, and while a close frame is on its way out.
-/
namespace LocationRelay

def CloseReason.frame : CloseReason → Frame
  | superseded => .close .normal "superseded"
  | shutdown => .close .away "shutdown"
  | setupFailed => .close .error "broker unavailable"
  | subscriptionLost => .close .error "subscription lost"

def CloseReason.event : CloseReason → SessionEvent
  | superseded => .superseded
  | shutdown => .shutdown
  | setupFailed | subscriptionLost => .socketClosed

def Parcel.frame : Parcel → Frame
  | payload content => .ofPayload content
  | probe => .ping []

inductive Inbound where
  | pong
  | close
  /-- Any other frame; it carries no meaning here. -/
  | other
  | gone
deriving DecidableEq

inductive HandlerStage where
  /-- The handshake and the check of the token are under way. -/
  | handshake
  | binding (principal : Principal)
  | serving (identity : Identity)
  /-- A command was taken and is about to be obeyed. -/
  | obeying (identity : Identity) (c : Command)
  | writing (identity : Identity)
  | closing (identity : Identity) (reason : CloseReason)
  | unbinding (identity : Identity)
  | over
deriving DecidableEq

structure Handler where
  connId : Nat
  session : SessionState := .connecting
  stage : HandlerStage := .handshake
  /-- Whether the socket is to be closed in an orderly way. -/
  graceful : Bool := true
deriving DecidableEq

inductive Happening where
  | handshakeExpired
  /-- The upgrade was refused or broke off. -/
  | handshakeFailed
  /-- The upgrade succeeded; the token was judged. -/
  | upgraded (verdict : Except AuthError Principal)
  /-- The gateway answers to the request to bind, during a shutdown or not. -/
  | bound (answer : Except BrokerError Identity) (shuttingDown : Bool)
  /-- It is the outbox's turn; the flag says whether anybody has a handle to it. -/
  | outboxTurn (handles : Bool)
  | inbound (f : Inbound)
  /-- A command that was taken is obeyed. -/
  | resumed
  /-- The writing of a frame goes on, and may have succeeded or failed. -/
  | writing (result : Option Bool)
  /-- A close frame takes too long to be written. -/
  | stalled
  | unbound

inductive Action where
  | apply (event : SessionEvent)
  | write (f : Frame)
  | closeSocket
  | markAlive
  | bind (principal : Principal)
  | unbind (identity : Identity) (connId : Nat)
deriving DecidableEq

namespace Handler

/-- Closing a connection that has no binding: one close frame, whatever becomes of it. -/
def reject (f : Frame) : List Action := [.write f, .closeSocket]

def internalError : Frame := .close .error "internal error"
def unauthorized : Frame := .close .policy "unauthorized"

def enter (h : Handler) (verdict : Except AuthError Principal) : Handler × List Action :=
  match h.session.on? .accepted with
  | none => ({ h with stage := .over }, .apply .accepted :: reject internalError)
  | some s =>
    match verdict with
    | .error _ =>
      ({ h with session := s.after .authRejected, stage := .over },
        .apply .accepted :: .apply .authRejected :: reject unauthorized)
    | .ok p =>
      if s = .authenticating then
        ({ h with session := s, stage := .binding p }, [.apply .accepted, .bind p])
      else ({ h with session := s, stage := .over }, .apply .accepted :: reject internalError)

def settle (h : Handler) (answer : Except BrokerError Identity) (shuttingDown : Bool) :
    Handler × List Action :=
  match answer with
  | .error _ =>
    let reason := if shuttingDown then CloseReason.shutdown else .setupFailed
    match h.session.on? .setupFailed with
    | none => ({ h with stage := .over }, [.apply .setupFailed])
    | some s =>
      ({ h with session := s.after .released, stage := .over },
        .apply .setupFailed :: reject reason.frame ++ [.apply .released])
  | .ok i =>
    match h.session.on? .authenticated with
    | none =>
      ({ h with stage := .over },
        .apply .authenticated :: .unbind i h.connId :: reject internalError)
    | some s => ({ h with session := s, stage := .serving i }, [.apply .authenticated])

/-- The loop ends with an event, unless that leaves the session bound. Then the socket is closed, if
that is to be done in an orderly way, and the binding is given back. -/
def leave (h : Handler) (i : Identity) (e : SessionEvent) : Handler × List Action :=
  let s := h.session.after e
  if h.session.on? e = some .bound then ({ h with session := s, stage := .serving i }, [.apply e])
  else
    let close := if h.graceful then [Action.closeSocket] else []
    ({ h with session := s, stage := .unbinding i },
      .apply e :: close ++ [.unbind i h.connId])

def abruptly (h : Handler) : Handler := { h with graceful := false }

/-- Begins with a command that was taken. A request to stop that is pending goes before the frame. -/
def obey (h : Handler) (o : Outbox) (i : Identity) (c : Command) :
    Handler × Outbox × List Action :=
  match c with
  | .stop .terminate => let (h, as) := h.abruptly.leave i .terminated; (h, o, as)
  | .send p =>
    match o.takeStop with
    | (some s, o) => ({ h with stage := .obeying i (.stop s) }, o, [])
    | (none, o) => ({ h with stage := .writing i }, o, [.write p.frame])
  | .stop (.close r) =>
    match o.takeStop with
    | (some _, o) => let (h, as) := h.abruptly.leave i r.event; (h, o, as)
    | (none, o) => ({ h with stage := .closing i r }, o, [.write r.frame])

def continueWriting (h : Handler) (o : Outbox) (i : Identity) (result : Option Bool) :
    Handler × Outbox × List Action :=
  match o.takeStop, result with
  | (some s, o), _ => ({ h with stage := .obeying i (.stop s) }, o, [])
  | (none, o), none => (h, o, [])
  | (none, o), some true => ({ h with stage := .serving i }, o, [])
  | (none, o), some false => let (h, as) := h.leave i .socketClosed; (h, o, as)

/-- Goes on with a close frame. If it is interrupted, fails or takes too long, the socket is dropped
without further ado. -/
def continueClosing (h : Handler) (o : Outbox) (i : Identity) (r : CloseReason)
    (result : Option Bool) (late : Bool) : Handler × Outbox × List Action :=
  match o.takeStop, result with
  | (none, o), some true => let (h, as) := h.leave i r.event; (h, o, as)
  | (none, o), none =>
    if late then let (h, as) := h.abruptly.leave i r.event; (h, o, as) else (h, o, [])
  | (_, o), _ => let (h, as) := h.abruptly.leave i r.event; (h, o, as)

/-- What a handler does about a happening. One that has no place where the handler stands changes
nothing. -/
def step (h : Handler) (o : Outbox) (e : Happening) : Handler × Outbox × List Action :=
  match h.stage, e with
  | .handshake, .handshakeExpired =>
    ({ h with session := h.session.after .socketClosed, stage := .over }, o,
      [.apply .socketClosed])
  | .handshake, .handshakeFailed => ({ h with stage := .over }, o, [])
  | .handshake, .upgraded verdict => let (h, as) := h.enter verdict; (h, o, as)
  | .binding _, .bound answer shuttingDown =>
    let (h, as) := h.settle answer shuttingDown
    (h, o, as)
  | .serving i, .outboxTurn handles =>
    match o.take handles with
    | (.command c, o) => ({ h with stage := .obeying i c }, o, [])
    | (.waiting, o) => (h, o, [])
    | (.ended, o) => let (h, as) := h.leave i .socketClosed; (h, o, as)
  | .serving _, .inbound .pong => (h, o, [.markAlive])
  | .serving _, .inbound .other => (h, o, [])
  | .serving i, .inbound _ => let (h, as) := h.leave i .socketClosed; (h, o, as)
  | .obeying i c, .resumed => h.obey o i c
  | .writing i, .writing result => h.continueWriting o i result
  | .closing i r, .writing result => h.continueClosing o i r result false
  | .closing i r, .stalled => h.continueClosing o i r none true
  | .unbinding _, .unbound =>
    ({ h with session := h.session.after .released, stage := .over }, o, [.apply .released])
  | _, _ => (h, o, [])

end Handler
end LocationRelay
