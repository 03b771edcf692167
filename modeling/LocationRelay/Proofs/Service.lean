import LocationRelay.Handler
import LocationRelay.Proofs.Channel

/-! # The course of a connection

A handler waits for one happening after the other, and between two of them whoever has a handle to its
outbox may use it. What is done to the outbox, what happens to the handler and what it does about it are
written down in one record, in the order in which they occur.

What a handler can do in one turn is said once, for a handler whose session belongs to the stage at which it
stands. Everything that holds throughout a course is proved from it.
-/
namespace LocationRelay

def Channel.Operation.isOutside : Channel.Operation → Bool
  | .offer _ | .request _ | .clone | .drop => true
  | .take | .takeStop | .abandon => false

namespace HandlerStage

def served? : HandlerStage → Option Identity
  | .serving i | .obeying i _ | .writing i | .closing i _ => some i
  | _ => none

def session? : HandlerStage → Option SessionState
  | .handshake => some .connecting
  | .binding _ => some .authenticating
  | .serving _ | .obeying .. | .writing _ | .closing .. => some .bound
  | .unbinding _ => some .closing
  | .over => none

theorem session?_of_served {stage : HandlerStage} {i : Identity} (h : stage.served? = some i) :
    stage.session? = some .bound := by
  cases stage <;> first | rfl | cases h

end HandlerStage

structure Service where
  handler : Handler
  channel : Channel
deriving DecidableEq

namespace Service

inductive Turn where
  /-- Somebody uses a handle. -/
  | outside (o : Channel.Operation)
  | happens (e : Happening)

abbrev Reading := Channel.Operation × Channel.Answer

inductive Entry where
  | did (r : Reading)
  | happened (e : Happening)
  | acted (a : Action)

abbrev Record := List Entry

def awaits (s : Service) (e : Happening) : Bool :=
  match s.handler.stage, e with
  | .handshake, .handshakeExpired | .handshake, .handshakeFailed | .handshake, .upgraded _ => true
  | .binding _, .bound _ _ => true
  | .serving _, .outboxTurn handles => handles == decide (0 < s.channel.handles)
  | .serving _, .inbound _ => true
  | .obeying _ _, .resumed => true
  | .writing _, .writing _ => true
  | .closing _ _, .writing _ | .closing _ _, .stalled => true
  | .unbinding _, .unbound => true
  | _, _ => false

/-- A handler that is not done waits for something. -/
theorem exists_awaits {s : Service} (hs : s.handler.stage ≠ .over) : ∃ e, s.awaits e = true := by
  cases hstage : s.handler.stage with
  | handshake => exact ⟨.handshakeExpired, by simp [awaits, hstage]⟩
  | binding p => exact ⟨.bound (.error .closed) false, by simp [awaits, hstage]⟩
  | serving i => exact ⟨.inbound .pong, by simp [awaits, hstage]⟩
  | obeying i c => exact ⟨.resumed, by simp [awaits, hstage]⟩
  | writing i => exact ⟨.writing none, by simp [awaits, hstage]⟩
  | closing i r => exact ⟨.stalled, by simp [awaits, hstage]⟩
  | unbinding i => exact ⟨.unbound, by simp [awaits, hstage]⟩
  | «over» => exact absurd hstage hs

def operation? (h : Handler) (e : Happening) : Option Channel.Operation :=
  match h.stage, e with
  | .serving _, .outboxTurn _ => some .take
  | .obeying _ (.stop .terminate), .resumed => none
  | .obeying _ _, .resumed | .writing _, .writing _ => some .takeStop
  | .closing _ _, .writing _ | .closing _ _, .stalled => some .takeStop
  | _, _ => none

def reading? (s : Service) (e : Happening) : Option Reading :=
  (operation? s.handler e).bind fun o => (s.channel.op? o).map fun r => (o, r.1)

def entries (e : Happening) (r : Option Reading) (as : List Action) : Record :=
  .happened e :: (r.toList.map .did ++ as.map .acted)

theorem acted_mem_entries {e : Happening} {r : Option Reading} {as : List Action} {a : Action} :
    .acted a ∈ entries e r as ↔ a ∈ as := by
  simp [entries]

/-- What a turn adds to the record and what it makes of the service, if it can come. -/
def turn? (s : Service) : Turn → Option (Record × Service)
  | .outside o =>
    if o.isOutside then (s.channel.op? o).map fun r => ([.did (o, r.1)], { s with channel := r.2 })
    else none
  | .happens e =>
    if s.awaits e then
      let (handler, outbox, as) := s.handler.step s.channel.outbox e
      some (entries e (s.reading? e) as, ⟨handler, { s.channel with outbox }⟩)
    else none

def goOn (w : Record × Service) (t : Turn) : Option (Record × Service) :=
  (w.2.turn? t).map fun r => (w.1 ++ r.1, r.2)

def run (s : Service) (ts : List Turn) : Option (Record × Service) := ts.foldlM goOn ([], s)

theorem foldlM_goOn (ts : List Turn) (log : Record) (s : Service) :
    ts.foldlM goOn (log, s) = (s.run ts).map fun w => (log ++ w.1, w.2) := by
  induction ts generalizing log s with
  | nil => simp [run]
  | cons t ts ih =>
    rw [run, List.foldlM_cons, List.foldlM_cons, goOn, goOn]
    cases ht : s.turn? t with
    | none => rfl
    | some r => simp [ih, Function.comp_def]

theorem run_cons_eq_some {s s' : Service} {t : Turn} {ts : List Turn} {log : Record} :
    s.run (t :: ts) = some (log, s') ↔ ∃ es s₁ log₁, s.turn? t = some (es, s₁) ∧
      s₁.run ts = some (log₁, s') ∧ log = es ++ log₁ := by
  rw [run, List.foldlM_cons, goOn]
  cases ht : s.turn? t with
  | none => simp
  | some r =>
    obtain ⟨es, s₁⟩ := r
    simp [foldlM_goOn, eq_comm (a := log)]

theorem run_append {s s₁ s' : Service} {ts ts' : List Turn} {log log' : Record}
    (hrun : s.run ts = some (log, s₁)) (hrun' : s₁.run ts' = some (log', s')) :
    s.run (ts ++ ts') = some (log ++ log', s') := by
  rw [run] at hrun
  rw [run, List.foldlM_append, hrun, Option.bind_eq_bind, Option.bind_some, foldlM_goOn, hrun']
  rfl

/-- What is seen at the end of a run, found by carrying the run out. -/
theorem run_shows {α : Type} {s : Service} {ts : List Turn} {w : Record × Service}
    (hrun : s.run ts = some w) (f : Record × Service → α) {a : α} (h : (s.run ts).map f = some a) :
    f w = a := by
  rw [hrun] at h
  exact Option.some.inj h

def new (connId capacity : Nat) : Service := ⟨{ connId }, .new capacity⟩

/-! ## What a handler can do -/

/-- A turn of the loop after which the handler is still in it. -/
inductive LoopTurn (i : Identity) :
    HandlerStage → Happening → Option Reading → List Action → HandlerStage → Prop
  | takes (handles : Bool) (c : Command) :
    LoopTurn i (.serving i) (.outboxTurn handles) (some (.take, .took (.command c))) [] (.obeying i c)
  | waits (handles : Bool) :
    LoopTurn i (.serving i) (.outboxTurn handles) (some (.take, .took .waiting)) [] (.serving i)
  | answered : LoopTurn i (.serving i) (.inbound .pong) none [.markAlive] (.serving i)
  | ignores : LoopTurn i (.serving i) (.inbound .other) none [] (.serving i)
  | writes (p : Parcel) :
    LoopTurn i (.obeying i (.send p)) .resumed (some (.takeStop, .stopped none)) [.write p.frame]
      (.writing i)
  | preempted (p : Parcel) (s : Stop) :
    LoopTurn i (.obeying i (.send p)) .resumed (some (.takeStop, .stopped (some s))) []
      (.obeying i (.stop s))
  | goesOn : LoopTurn i (.writing i) (.writing none) (some (.takeStop, .stopped none)) [] (.writing i)
  | written :
    LoopTurn i (.writing i) (.writing (some true)) (some (.takeStop, .stopped none)) [] (.serving i)
  | interrupted (result : Option Bool) (s : Stop) :
    LoopTurn i (.writing i) (.writing result) (some (.takeStop, .stopped (some s))) []
      (.obeying i (.stop s))
  | closes (r : CloseReason) :
    LoopTurn i (.obeying i (.stop (.close r))) .resumed (some (.takeStop, .stopped none))
      [.write r.frame] (.closing i r)
  | flushes (r : CloseReason) :
    LoopTurn i (.closing i r) (.writing none) (some (.takeStop, .stopped none)) [] (.closing i r)

/-- A turn that ends the loop: what it tells the session, and whether it leaves the socket fit to be closed
in an orderly way. -/
inductive LoopExit (i : Identity) :
    HandlerStage → Happening → Option Reading → SessionEvent → Bool → Prop
  | ends (handles : Bool) :
    LoopExit i (.serving i) (.outboxTurn handles) (some (.take, .took .ended)) .socketClosed true
  | hangsUp {f : Inbound} (hf : f = .close ∨ f = .gone) :
    LoopExit i (.serving i) (.inbound f) none .socketClosed true
  | fails :
    LoopExit i (.writing i) (.writing (some false)) (some (.takeStop, .stopped none)) .socketClosed true
  | terminates : LoopExit i (.obeying i (.stop .terminate)) .resumed none .terminated false
  | overtaken (r : CloseReason) (s : Stop) :
    LoopExit i (.obeying i (.stop (.close r))) .resumed (some (.takeStop, .stopped (some s))) r.event
      false
  | flushed (r : CloseReason) :
    LoopExit i (.closing i r) (.writing (some true)) (some (.takeStop, .stopped none)) r.event true
  | breaksOff (r : CloseReason) {result : Option Bool} {s : Option Stop}
      (hs : s ≠ none ∨ result = some false) :
    LoopExit i (.closing i r) (.writing result) (some (.takeStop, .stopped s)) r.event false
  | stalls (r : CloseReason) (s : Option Stop) :
    LoopExit i (.closing i r) .stalled (some (.takeStop, .stopped s)) r.event false

theorem LoopTurn.served {i : Identity} {stage stage' : HandlerStage} {e : Happening}
    {r : Option Reading} {as : List Action} (h : LoopTurn i stage e r as stage') :
    stage.served? = some i ∧ stage'.served? = some i := by
  cases h <;> exact ⟨rfl, rfl⟩

theorem LoopExit.served {i : Identity} {stage : HandlerStage} {e : Happening} {r : Option Reading}
    {event : SessionEvent} {orderly : Bool} (h : LoopExit i stage e r event orderly) :
    stage.served? = some i := by
  cases h <;> rfl

def parting (connId : Nat) (i : Identity) (event : SessionEvent) (graceful : Bool) : List Action :=
  .apply event :: (if graceful then [.closeSocket] else []) ++ [.unbind i connId]

/-- All that a handler can do in one turn, when its session belongs to its stage. -/
inductive Move (h : Handler) : Happening → Option Reading → List Action → Handler → Prop
  | expires (hs : h.stage = .handshake) :
    Move h .handshakeExpired none [.apply .socketClosed] { h with session := .closed, stage := .over }
  | fails (hs : h.stage = .handshake) : Move h .handshakeFailed none [] { h with stage := .over }
  | rejects (hs : h.stage = .handshake) (e : AuthError) :
    Move h (.upgraded (.error e)) none
      (.apply .accepted :: .apply .authRejected :: Handler.reject Handler.unauthorized)
      { h with session := .closed, stage := .over }
  | admits (hs : h.stage = .handshake) (p : Principal) :
    Move h (.upgraded (.ok p)) none [.apply .accepted, .bind p]
      { h with session := .authenticating, stage := .binding p }
  | refuses {p : Principal} (hs : h.stage = .binding p) (e : BrokerError) (shuttingDown : Bool) :
    Move h (.bound (.error e) shuttingDown) none
      (.apply .setupFailed ::
        Handler.reject (if shuttingDown then CloseReason.shutdown else .setupFailed).frame ++
        [.apply .released])
      { h with session := .closed, stage := .over }
  | grants {p : Principal} (hs : h.stage = .binding p) (i : Identity) (shuttingDown : Bool) :
    Move h (.bound (.ok i) shuttingDown) none [.apply .authenticated]
      { h with session := .bound, stage := .serving i }
  | stays {i : Identity} {e : Happening} {r : Option Reading} {as : List Action}
      {stage stage' : HandlerStage} (hs : h.stage = stage) (turn : LoopTurn i stage e r as stage') :
    Move h e r as { h with stage := stage' }
  | leaves {i : Identity} {e : Happening} {r : Option Reading} {event : SessionEvent} {orderly : Bool}
      {stage : HandlerStage} (hs : h.stage = stage) (exit : LoopExit i stage e r event orderly) :
    Move h e r (parting h.connId i event (orderly && h.graceful))
      { h with session := .closing, stage := .unbinding i, graceful := orderly && h.graceful }
  | returned {i : Identity} (hs : h.stage = .unbinding i) :
    Move h .unbound none [.apply .released] { h with session := .closed, stage := .over }

def Fits (h : Handler) : Prop := ∀ state, h.stage.session? = some state → h.session = state

theorem Move.fits {h h' : Handler} {e : Happening} {r : Option Reading} {as : List Action}
    (hm : Move h e r as h') (hf : Fits h) : Fits h' := by
  cases hm with
  | stays hs turn =>
    intro state hstate
    cases (HandlerStage.session?_of_served turn.served.2).symm.trans hstate
    exact hf _ (hs ▸ HandlerStage.session?_of_served turn.served.1)
  | _ =>
    intro state hstate
    cases hstate <;> rfl

theorem Move.handler_connId {h h' : Handler} {e : Happening} {r : Option Reading} {as : List Action}
    (hm : Move h e r as h') : h'.connId = h.connId := by
  cases hm <;> rfl

def Leads (c : Channel) (r : Option Reading) (c' : Channel) : Prop :=
  match r with
  | none => c' = c
  | some (o, a) => c.op? o = some (a, c')

/-- What a handler does about a happening is a move, and all that it does to its outbox is what it reads. -/
def Moves (s : Service) (e : Happening) : Prop :=
  let (handler, outbox, as) := s.handler.step s.channel.outbox e
  Move s.handler e (s.reading? e) as handler ∧ Leads s.channel (s.reading? e) { s.channel with outbox }

theorem on?_event (r : CloseReason) : SessionState.bound.on? r.event = some .closing := by
  cases r <;> rfl

theorem LoopExit.closing {i : Identity} {stage : HandlerStage} {e : Happening} {r : Option Reading}
    {event : SessionEvent} {orderly : Bool} (h : LoopExit i stage e r event orderly) :
    SessionState.bound.on? event = some .closing := by
  cases h <;> first | rfl | exact on?_event _

variable {s : Service} {e : Happening} {h : Handler} {o : Outbox} {as : List Action} {i : Identity}
  {op : Channel.Operation} {a : Channel.Answer} {event : SessionEvent} {orderly : Bool}

/-- A turn that does nothing to the outbox. -/
theorem moves_of_unread (hop : operation? s.handler e = none)
    (hstep : s.handler.step s.channel.outbox e = (h, s.channel.outbox, as))
    (hm : Move s.handler e none as h) : Moves s e := by
  simp only [Moves, reading?, hop, hstep]
  exact ⟨hm, rfl⟩

/-- A turn in which the handler turns to its outbox. -/
theorem moves_of_read (hop : operation? s.handler e = some op)
    (hread : s.channel.op? op = some (a, { s.channel with outbox := o }))
    (hstep : s.handler.step s.channel.outbox e = (h, o, as))
    (hm : Move s.handler e (some (op, a)) as h) : Moves s e := by
  have hreading : s.reading? e = some (op, a) := by
    rw [reading?, hop, Option.bind_some, hread]
    rfl
  simp only [Moves, hreading, hstep]
  exact ⟨hm, hread⟩

theorem leave_of_bound (hs : h.session = .bound)
    (he : SessionState.bound.on? event = some .closing) :
    (bif orderly then h else h.abruptly).leave i event =
      ({ h with session := .closing, stage := .unbinding i, graceful := orderly && h.graceful },
        parting h.connId i event (orderly && h.graceful)) := by
  cases orderly <;> simp [Handler.leave, Handler.abruptly, SessionState.after, hs, he, parting]

/-- A turn that ends the loop and does nothing to the outbox. -/
theorem moves_of_exit (hop : operation? s.handler e = none) (hs : s.handler.session = .bound)
    (hstep : s.handler.step s.channel.outbox e =
      let (h, as) := (bif orderly then s.handler else s.handler.abruptly).leave i event
      (h, s.channel.outbox, as))
    (exit : LoopExit i s.handler.stage e none event orderly) : Moves s e := by
  rw [leave_of_bound hs exit.closing] at hstep
  exact moves_of_unread hop hstep (.leaves rfl exit)

/-- A turn that ends the loop, in which the handler turns to its outbox. -/
theorem moves_of_read_exit (hop : operation? s.handler e = some op) (hs : s.handler.session = .bound)
    (hread : s.channel.op? op = some (a, { s.channel with outbox := o }))
    (hstep : s.handler.step s.channel.outbox e =
      let (h, as) := (bif orderly then s.handler else s.handler.abruptly).leave i event
      (h, o, as))
    (exit : LoopExit i s.handler.stage e (some (op, a)) event orderly) : Moves s e := by
  rw [leave_of_bound hs exit.closing] at hstep
  exact moves_of_read hop hread hstep (.leaves rfl exit)

theorem moves_handshake (hs : s.handler.stage = .handshake) (hf : Fits s.handler)
    (hawaits : s.awaits e = true) : Moves s e := by
  obtain ⟨⟨connId, session, stage, graceful⟩, channel⟩ := s
  cases hs
  cases hf .connecting rfl
  cases e with
  | handshakeExpired => exact moves_of_unread rfl rfl (.expires rfl)
  | handshakeFailed => exact moves_of_unread rfl rfl (.fails rfl)
  | upgraded verdict =>
    cases verdict with
    | error x => exact moves_of_unread rfl rfl (.rejects rfl x)
    | ok p => exact moves_of_unread rfl rfl (.admits rfl p)
  | _ => cases hawaits

theorem moves_binding {p : Principal} (hs : s.handler.stage = .binding p) (hf : Fits s.handler)
    (hawaits : s.awaits e = true) : Moves s e := by
  obtain ⟨⟨connId, session, stage, graceful⟩, channel⟩ := s
  cases hs
  cases hf .authenticating rfl
  cases e with
  | bound answer shuttingDown =>
    cases answer with
    | error x => exact moves_of_unread rfl rfl (.refuses rfl x shuttingDown)
    | ok i => exact moves_of_unread rfl rfl (.grants rfl i shuttingDown)
  | _ => cases hawaits

theorem moves_unbinding (hs : s.handler.stage = .unbinding i) (hf : Fits s.handler)
    (hawaits : s.awaits e = true) : Moves s e := by
  obtain ⟨⟨connId, session, stage, graceful⟩, channel⟩ := s
  cases hs
  cases hf .closing rfl
  cases e with
  | unbound => exact moves_of_unread rfl rfl (.returned rfl)
  | _ => cases hawaits

theorem moves_serving (hs : s.handler.stage = .serving i) (hf : Fits s.handler)
    (halive : s.channel.outbox.attended = true) (hawaits : s.awaits e = true) : Moves s e := by
  obtain ⟨⟨connId, session, stage, graceful⟩, channel⟩ := s
  cases hs
  cases hf .bound rfl
  cases e with
  | inbound f =>
    cases f with
    | pong => exact moves_of_unread rfl rfl (.stays rfl .answered)
    | other => exact moves_of_unread rfl rfl (.stays rfl .ignores)
    | close => exact moves_of_exit rfl rfl rfl (.hangsUp (.inl rfl))
    | gone => exact moves_of_exit rfl rfl rfl (.hangsUp (.inr rfl))
  | outboxTurn handles =>
    cases beq_iff_eq.mp hawaits
    cases hs : channel.outbox.pendingStop? with
    | some stop =>
      exact moves_of_read rfl (Channel.take_of_pending halive hs)
        (by simp only [Handler.step, Outbox.take_of_pending hs]) (.stays rfl (.takes _ (.stop stop)))
    | none =>
      have hread := Channel.take_of_none halive hs
      have htake := Outbox.take_of_none hs (decide (0 < channel.handles))
      cases hq : channel.outbox.queued with
      | cons p rest =>
        rw [hq] at hread htake
        exact moves_of_read rfl hread (by simp only [Handler.step, htake]) (.stays rfl (.takes _ (.send p)))
      | nil =>
        rw [hq] at hread htake
        by_cases hh : 0 < channel.handles
        · simp only [hh, decide_true, if_true] at hread htake ⊢
          exact moves_of_read rfl hread (by simp only [Handler.step, htake]) (.stays rfl (.waits _))
        · simp only [hh, decide_false, if_false, Bool.false_eq_true] at hread htake ⊢
          exact moves_of_read_exit rfl rfl hread (by simp only [Handler.step, htake, cond_true])
            (.ends _)
  | _ => cases hawaits

theorem moves_obeying {c : Command} (hs : s.handler.stage = .obeying i c) (hf : Fits s.handler)
    (halive : s.channel.outbox.attended = true) (hawaits : s.awaits e = true) : Moves s e := by
  obtain ⟨⟨connId, session, stage, graceful⟩, channel⟩ := s
  cases hs
  cases hf .bound rfl
  cases e with
  | resumed =>
    cases c with
    | send p =>
      cases hs : channel.outbox.pendingStop? with
      | some stop =>
        exact moves_of_read rfl (Channel.takeStop_of_pending halive hs)
          (by simp only [Handler.step, Handler.obey, Outbox.takeStop_of_pending hs])
          (.stays rfl (.preempted p stop))
      | none =>
        exact moves_of_read rfl (Channel.takeStop_of_none halive hs)
          (by simp only [Handler.step, Handler.obey, Outbox.takeStop_of_none hs]) (.stays rfl (.writes p))
    | stop asked =>
      cases asked with
      | terminate => exact moves_of_exit rfl rfl rfl .terminates
      | close r =>
        cases hs : channel.outbox.pendingStop? with
        | some stop =>
          exact moves_of_read_exit rfl rfl (Channel.takeStop_of_pending halive hs)
            (by simp only [Handler.step, Handler.obey, Outbox.takeStop_of_pending hs, cond_false])
            (.overtaken r stop)
        | none =>
          exact moves_of_read rfl (Channel.takeStop_of_none halive hs)
            (by simp only [Handler.step, Handler.obey, Outbox.takeStop_of_none hs])
            (.stays rfl (.closes r))
  | _ => cases hawaits

theorem moves_writing (hs : s.handler.stage = .writing i) (hf : Fits s.handler)
    (halive : s.channel.outbox.attended = true) (hawaits : s.awaits e = true) : Moves s e := by
  obtain ⟨⟨connId, session, stage, graceful⟩, channel⟩ := s
  cases hs
  cases hf .bound rfl
  cases e with
  | writing result =>
    cases hs : channel.outbox.pendingStop? with
    | some stop =>
      exact moves_of_read rfl (Channel.takeStop_of_pending halive hs)
        (by simp only [Handler.step, Handler.continueWriting, Outbox.takeStop_of_pending hs])
        (.stays rfl (.interrupted result stop))
    | none =>
      have hread := Channel.takeStop_of_none halive hs
      have htake := Outbox.takeStop_of_none hs
      match result with
      | none =>
        exact moves_of_read rfl hread (by simp only [Handler.step, Handler.continueWriting, htake])
          (.stays rfl .goesOn)
      | some true =>
        exact moves_of_read rfl hread (by simp only [Handler.step, Handler.continueWriting, htake])
          (.stays rfl .written)
      | some false =>
        exact moves_of_read_exit rfl rfl hread
          (by simp only [Handler.step, Handler.continueWriting, htake, cond_true]) .fails
  | _ => cases hawaits

theorem moves_closing {r : CloseReason} (hs : s.handler.stage = .closing i r) (hf : Fits s.handler)
    (halive : s.channel.outbox.attended = true) (hawaits : s.awaits e = true) : Moves s e := by
  obtain ⟨⟨connId, session, stage, graceful⟩, channel⟩ := s
  cases hs
  cases hf .bound rfl
  cases hs : channel.outbox.pendingStop? with
  | some stop =>
    have hread := Channel.takeStop_of_pending halive hs
    have htake := Outbox.takeStop_of_pending hs
    cases e with
    | writing result =>
      exact moves_of_read_exit rfl rfl hread
        (by simp only [Handler.step, Handler.continueClosing, htake, cond_false])
        (.breaksOff r (.inl (Option.some_ne_none stop)))
    | stalled =>
      exact moves_of_read_exit rfl rfl hread
        (by simp only [Handler.step, Handler.continueClosing, htake, cond_false])
        (.stalls r (some stop))
    | _ => cases hawaits
  | none =>
    have hread := Channel.takeStop_of_none halive hs
    have htake := Outbox.takeStop_of_none hs
    cases e with
    | writing result =>
      match result with
      | none =>
        exact moves_of_read rfl hread
          (by simp only [Handler.step, Handler.continueClosing, htake, Bool.false_eq_true, if_false])
          (.stays rfl (.flushes r))
      | some true =>
        exact moves_of_read_exit rfl rfl hread
          (by simp only [Handler.step, Handler.continueClosing, htake, cond_true]) (.flushed r)
      | some false =>
        exact moves_of_read_exit rfl rfl hread
          (by simp only [Handler.step, Handler.continueClosing, htake, cond_false])
          (.breaksOff r (.inr rfl))
    | stalled =>
      exact moves_of_read_exit rfl rfl hread
        (by simp only [Handler.step, Handler.continueClosing, htake, if_true, cond_false])
        (.stalls r none)
    | _ => cases hawaits

/-- Every turn of a handler is a move. -/
theorem moves_of_awaits (hf : Fits s.handler) (halive : s.channel.outbox.attended = true)
    (hawaits : s.awaits e = true) : Moves s e := by
  cases hs : s.handler.stage with
  | handshake => exact moves_handshake hs hf hawaits
  | binding p => exact moves_binding hs hf hawaits
  | serving i => exact moves_serving hs hf halive hawaits
  | obeying i c => exact moves_obeying hs hf halive hawaits
  | writing i => exact moves_writing hs hf halive hawaits
  | closing i r => exact moves_closing hs hf halive hawaits
  | unbinding i => exact moves_unbinding hs hf hawaits
  | «over» => simp [awaits, hs] at hawaits

/-! ## Whole courses -/

structure Sound (s : Service) : Prop where
  fits : Fits s.handler
  attended : s.channel.outbox.attended = true

inductive Taken (s : Service) : Record → Service → Prop
  | outside {o : Channel.Operation} {a : Channel.Answer} {c : Channel} (ho : o.isOutside = true)
      (hop : s.channel.op? o = some (a, c)) : Taken s [.did (o, a)] { s with channel := c }
  | moves {e : Happening} {r : Option Reading} {as : List Action} {h : Handler} {c : Channel}
      (hm : Move s.handler e r as h) (hc : Leads s.channel r c) : Taken s (entries e r as) ⟨h, c⟩

theorem Sound.moves (hs : s.Sound) {es : Record} {s' : Service} (ht : s.turn? (.happens e) = some (es, s')) :
    ∃ r as, es = entries e r as ∧ Move s.handler e r as s'.handler ∧ Leads s.channel r s'.channel := by
  obtain ⟨hawaits, ht⟩ := Option.ite_none_right_eq_some.mp ht
  injection ht with he
  cases he
  obtain ⟨hm, hc⟩ := moves_of_awaits hs.fits hs.attended hawaits
  exact ⟨_, _, rfl, hm, hc⟩

theorem Sound.taken (hs : s.Sound) {t : Turn} {es : Record} {s' : Service}
    (ht : s.turn? t = some (es, s')) : s.Taken es s' := by
  cases t with
  | outside o =>
    obtain ⟨ho, ht⟩ := Option.ite_none_right_eq_some.mp ht
    obtain ⟨⟨a, c⟩, hop, he⟩ := Option.map_eq_some_iff.mp ht
    cases he
    exact .outside ho hop
  | happens e =>
    obtain ⟨r, as, rfl, hm, hc⟩ := hs.moves ht
    exact .moves hm hc

theorem LoopTurn.reads {stage stage' : HandlerStage} {r : Option Reading}
    (h : LoopTurn i stage e r as stage') : ∀ x ∈ r, x.1 ≠ .abandon := by
  cases h <;> simp

theorem LoopExit.reads {stage : HandlerStage} {r : Option Reading}
    (h : LoopExit i stage e r event orderly) : ∀ x ∈ r, x.1 ≠ .abandon := by
  cases h <;> simp

/-- A handler never does away with its outbox. -/
theorem Move.reads {h' : Handler} {r : Option Reading} (hm : Move h e r as h') :
    ∀ x ∈ r, x.1 ≠ .abandon := by
  cases hm with
  | stays _ turn => exact turn.reads
  | leaves _ exit => exact exit.reads
  | _ => simp

def Entry.did? : Entry → Option Reading
  | .did r => some r
  | _ => none

def Entry.act? : Entry → Option Action
  | .acted a => some a
  | _ => none

def dids (log : Record) : Channel.Log := log.filterMap Entry.did?

def acts (log : Record) : List Action := log.filterMap Entry.act?

@[simp] theorem dids_append (log es : Record) : dids (log ++ es) = dids log ++ dids es :=
  List.filterMap_append

@[simp] theorem acts_append (log es : Record) : acts (log ++ es) = acts log ++ acts es :=
  List.filterMap_append

@[simp] theorem dids_entries (e : Happening) (r : Option Reading) (as : List Action) :
    dids (entries e r as) = r.toList := by
  have hacted : (as.map Entry.acted).filterMap Entry.did? = [] := by
    simp [List.filterMap_map, Function.comp_def, Entry.did?]
  cases r <;> simp [dids, entries, List.filterMap_cons, Entry.did?, hacted]

@[simp] theorem acts_entries (e : Happening) (r : Option Reading) (as : List Action) :
    acts (entries e r as) = as := by
  have hdid : (r.toList.map Entry.did).filterMap Entry.act? = [] := by cases r <;> rfl
  simp [acts, entries, List.filterMap_cons, Entry.act?, hdid, Function.comp_def]

def Kept (capacity : Nat) (log : Record) (c : Channel) : Prop :=
  ∃ os, .abandon ∉ os ∧ Channel.Kept capacity os (dids log) c

theorem Kept.snoc {capacity : Nat} {log es : Record} {c c' : Channel} (hk : Kept capacity log c)
    (hes : dids es = [(op, a)]) (hop : c.op? op = some (a, c')) (hstays : op ≠ .abandon) :
    Kept capacity (log ++ es) c' := by
  obtain ⟨os, hos, hk⟩ := hk
  refine ⟨os ++ [op], by simp [hos, Ne.symm hstays], ?_⟩
  rw [dids_append, hes]
  exact hk.step hop

theorem Kept.taken {capacity : Nat} {log es : Record} {s' : Service}
    (hk : Kept capacity log s.channel) (ht : s.Taken es s') : Kept capacity (log ++ es) s'.channel := by
  cases ht with
  | outside ho hop =>
    refine hk.snoc rfl hop ?_
    rintro rfl
    cases ho
  | @moves e r as h c hm hc =>
    match r with
    | some (o, a) => exact hk.snoc (dids_entries e _ as) hc (hm.reads (o, a) rfl)
    | none =>
      cases hc
      obtain ⟨os, hos, hk⟩ := hk
      refine ⟨os, hos, ?_⟩
      rw [dids_append, dids_entries]
      exact (List.append_nil (dids log)).symm ▸ hk

theorem Taken.fits {es : Record} {s' : Service} (ht : s.Taken es s') (hs : Fits s.handler) :
    Fits s'.handler := by
  cases ht with
  | outside => exact hs
  | moves hm => exact hm.fits hs

/-- What holds when a handler has just been started and is preserved by every turn that can be taken. -/
theorem run_induction {connId capacity : Nat} {P : Record → Service → Prop}
    (hnew : P [] (new connId capacity))
    (hstep : ∀ log s es s', s.Sound → Kept capacity log s.channel → P log s → s.Taken es s' →
      P (log ++ es) s')
    {ts : List Turn} {log : Record} {s : Service}
    (hrun : (new connId capacity).run ts = some (log, s)) :
    Kept capacity log s.channel ∧ Fits s.handler ∧ P log s := by
  induction ts using List.reverseRecOn generalizing log s with
  | nil =>
    cases hrun
    refine ⟨⟨[], List.not_mem_nil, Channel.kept_new capacity⟩, ?_, hnew⟩
    rintro _ ⟨⟩
    rfl
  | append_singleton ts t ih =>
    rw [run, List.foldlM_append, Option.bind_eq_bind, Option.bind_eq_some_iff] at hrun
    obtain ⟨⟨log₁, s₁⟩, hbefore, hlast⟩ := hrun
    rw [List.foldlM_cons, Option.bind_eq_bind, Option.bind_eq_some_iff] at hlast
    obtain ⟨w, hgoes, hw⟩ := hlast
    cases hw
    obtain ⟨⟨es, s₂⟩, ht, he⟩ := Option.map_eq_some_iff.mp hgoes
    cases he
    obtain ⟨hk, hf, hP⟩ := ih hbefore
    obtain ⟨os, hos, hkept⟩ := id hk
    have hs : s₁.Sound := ⟨hf, hkept.attended.mpr hos⟩
    have htaken := hs.taken ht
    exact ⟨hk.taken htaken, htaken.fits hf, hstep log₁ s₁ es s₂ hs hk hP htaken⟩

theorem sound_of_run {connId capacity : Nat} {ts : List Turn} {log : Record} {s : Service}
    (hrun : (new connId capacity).run ts = some (log, s)) : s.Sound := by
  obtain ⟨⟨os, hos, hk⟩, hf, -⟩ := run_induction (P := fun _ _ => True) trivial
    (fun _ _ _ _ _ _ _ _ => trivial) hrun
  exact ⟨hf, hk.attended.mpr hos⟩

theorem Sample.isName_ada : IsName "ada" := by decide

theorem Sample.isName_phone : IsName "phone" := by decide

def Sample.bound : List Turn :=
  [.happens (.upgraded (.ok ⟨⟨"ada", isName_ada⟩, ⟨"phone", isName_phone⟩⟩)),
    .happens (.bound (.ok ⟨"location.ada.phone"⟩) false)]

end Service
end LocationRelay
