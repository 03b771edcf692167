import LocationRelay.Gateway.Call
import LocationRelay.Proofs.LoopEnd

/-! # The brackets of a connection

What a handler tells its session and what it asks of the gateway follow one of a few courses: the handshake
fails or expires, the token is refused, the gateway refuses to bind, or the connection is bound, served for as
long as it lasts, and given back. However long the loop runs, nothing is added to the course before it ends, and
whatever ends it has the binding given back.
-/
namespace LocationRelay.Service

/-- The entries that a course consists of. The others are what is done to the outbox, what reaches the
handler while it serves, and what goes out over the socket. -/
def Entry.isMilestone : Entry → Bool
  | .happened .handshakeExpired | .happened .handshakeFailed | .happened (.upgraded _)
  | .happened (.bound ..) | .happened .unbound => true
  | .acted (.apply _) | .acted (.bind _) | .acted (.unbind ..) => true
  | _ => false

def milestones (log : Record) : Record := log.filter Entry.isMilestone

theorem milestones_append (log es : Record) : milestones (log ++ es) = milestones log ++ milestones es :=
  List.filter_append ..

theorem mem_milestones {log : Record} {x : Entry} (hx : x.isMilestone = true) :
    x ∈ milestones log ↔ x ∈ log := by
  simp [milestones, hx]

def admission (p : Principal) : Record :=
  [.happened (.upgraded (.ok p)), .acted (.apply .accepted), .acted (.bind p)]

def grant (p : Principal) (i : Identity) (shuttingDown : Bool) : Record :=
  admission p ++ [.happened (.bound (.ok i) shuttingDown), .acted (.apply .authenticated)]

def surrender (connId : Nat) (p : Principal) (i : Identity) (shuttingDown : Bool) (e : SessionEvent) :
    Record :=
  grant p i shuttingDown ++ [.acted (.apply e), .acted (.unbind i connId)]

/-- The milestones that lead to a stage and to a state of the session. -/
inductive Course (connId : Nat) : HandlerStage → SessionState → Record → Prop
  | started : Course connId .handshake .connecting []
  | expired :
    Course connId .over .closed [.happened .handshakeExpired, .acted (.apply .socketClosed)]
  | failed : Course connId .over .connecting [.happened .handshakeFailed]
  | rejected (e : AuthError) :
    Course connId .over .closed
      [.happened (.upgraded (.error e)), .acted (.apply .accepted), .acted (.apply .authRejected)]
  | admitted (p : Principal) : Course connId (.binding p) .authenticating (admission p)
  | refused (p : Principal) (e : BrokerError) (shuttingDown : Bool) :
    Course connId .over .closed (admission p ++ [.happened (.bound (.error e) shuttingDown),
      .acted (.apply .setupFailed), .acted (.apply .released)])
  | granted (p : Principal) {i : Identity} (shuttingDown : Bool) {stage : HandlerStage}
      (hs : stage.served? = some i) : Course connId stage .bound (grant p i shuttingDown)
  | surrendered (p : Principal) (i : Identity) (shuttingDown : Bool) {e : SessionEvent}
      (he : SessionState.bound.on? e = some .closing) :
    Course connId (.unbinding i) .closing (surrender connId p i shuttingDown e)
  | ended (p : Principal) (i : Identity) (shuttingDown : Bool) {e : SessionEvent}
      (he : SessionState.bound.on? e = some .closing) :
    Course connId .over .closed (surrender connId p i shuttingDown e ++
      [.happened .unbound, .acted (.apply .released)])

variable {connId capacity : Nat} {log es : Record} {s s' : Service} {h h' : Handler} {e : Happening}
  {r : Option Reading} {as : List Action} {i : Identity}

theorem milestones_entries (e : Happening) (r : Option Reading) (as : List Action) :
    milestones (entries e r as) = milestones [.happened e] ++ milestones (as.map .acted) := by
  have hread : (r.toList.map Entry.did).filter Entry.isMilestone = [] := by cases r <;> rfl
  rw [milestones, entries, List.filter_cons, List.filter_append, hread, List.nil_append]
  cases hm : (Entry.happened e).isMilestone <;> simp [milestones, hm]

theorem LoopTurn.milestones {stage stage' : HandlerStage} (h : LoopTurn i stage e r as stage') :
    milestones (entries e r as) = [] := by
  cases h <;> rfl

theorem LoopExit.milestones {stage : HandlerStage} {event : SessionEvent} {orderly : Bool}
    (h : LoopExit i stage e r event orderly) : milestones [.happened e] = [] := by
  cases h <;> rfl

theorem milestones_parting (connId : Nat) (i : Identity) (event : SessionEvent) (graceful : Bool) :
    milestones ((parting connId i event graceful).map .acted) =
      [.acted (.apply event), .acted (.unbind i connId)] := by
  cases graceful <;> rfl

section Inversion

variable {session : SessionState} {ms : Record}

theorem Course.of_handshake (hc : Course connId .handshake session ms) :
    session = .connecting ∧ ms = [] := by
  cases hc with
  | started => exact ⟨rfl, rfl⟩
  | granted _ _ hs => cases hs

theorem Course.of_binding {p : Principal} (hc : Course connId (.binding p) session ms) :
    ms = admission p := by
  cases hc with
  | admitted => rfl
  | granted _ _ hs => cases hs

theorem Course.of_served {stage : HandlerStage} (hc : Course connId stage session ms)
    (hs : stage.served? = some i) :
    session = .bound ∧ ∃ p shuttingDown, ms = grant p i shuttingDown := by
  cases hc with
  | granted p b hs' =>
    cases hs.symm.trans hs'
    exact ⟨rfl, p, b, rfl⟩
  | _ => cases hs

theorem Course.of_unbinding (hc : Course connId (.unbinding i) session ms) : session = .closing ∧
    ∃ p shuttingDown e, SessionState.bound.on? e = some .closing ∧
      ms = surrender connId p i shuttingDown e := by
  cases hc with
  | surrendered p _ b he => exact ⟨rfl, p, b, _, he, rfl⟩
  | granted _ _ hs => cases hs

end Inversion

/-- A course goes on with every turn of the handler. -/
theorem Course.move {ms : Record} (hc : Course connId h.stage h.session ms) (hid : h.connId = connId)
    (hm : Move h e r as h') : Course connId h'.stage h'.session (ms ++ milestones (entries e r as)) := by
  cases hm with
  | expires hs =>
    obtain ⟨-, rfl⟩ := (hs ▸ hc).of_handshake
    exact .expired
  | fails hs =>
    obtain ⟨hsession, rfl⟩ := (hs ▸ hc).of_handshake
    rw [hsession]
    exact .failed
  | rejects hs x =>
    obtain ⟨-, rfl⟩ := (hs ▸ hc).of_handshake
    exact .rejected x
  | admits hs p =>
    obtain ⟨-, rfl⟩ := (hs ▸ hc).of_handshake
    exact .admitted p
  | @refuses p hs x b =>
    cases (hs ▸ hc).of_binding
    exact .refused p x b
  | @grants p hs i b =>
    cases (hs ▸ hc).of_binding
    exact .granted p b rfl
  | stays hs turn =>
    obtain ⟨hsession, p, b, rfl⟩ := (hs ▸ hc).of_served turn.served.1
    rw [turn.milestones, List.append_nil, hsession]
    exact .granted p b turn.served.2
  | leaves hs exit =>
    obtain ⟨-, p, b, rfl⟩ := (hs ▸ hc).of_served exit.served
    rw [milestones_entries, exit.milestones, milestones_parting, hid]
    exact .surrendered p _ b exit.closing
  | returned hs =>
    obtain ⟨-, p, b, x, hx, rfl⟩ := (hs ▸ hc).of_unbinding
    exact .ended p _ b hx

/-! ## What a course says -/

def Entry.event? : Entry → Option SessionEvent
  | .acted (.apply e) => some e
  | _ => none

def events (log : Record) : List SessionEvent := log.filterMap Entry.event?

theorem events_milestones (log : Record) : events (milestones log) = events log := by
  rw [events, milestones, List.filterMap_filter]
  congr 1
  funext x
  cases x with
  | acted a => cases a <;> rfl
  | _ => exact ite_self none

/-- Every event has a place in the state in which it comes. -/
theorem Course.accepted {stage : HandlerStage} {session : SessionState} {ms : Record}
    (hc : Course connId stage session ms) :
    (events ms).foldlM SessionState.on? .connecting = some session := by
  cases hc with
  | surrendered p _ b he => exact congrArg (Option.bind · some) he
  | ended p _ b he => exact congrArg (Option.bind · fun state => (state.on? .released).bind some) he
  | _ => rfl

/-- What is said of every entry of a list and of what comes before it and after it. -/
theorem forall_split_cons {α : Type} {P : List α → α → List α → Prop} {a : α} {l : List α} :
    (∀ before x after, a :: l = before ++ x :: after → P before x after) ↔
      P [] a l ∧ ∀ before x after, l = before ++ x :: after → P (a :: before) x after := by
  refine ⟨fun h => ⟨h [] a l rfl, fun before x after hl => h _ x after (congrArg (a :: ·) hl)⟩,
    fun ⟨hhead, htail⟩ before x after hl => ?_⟩
  cases before with
  | nil =>
    cases hl
    exact hhead
  | cons b before =>
    cases hl
    exact htail before x after rfl

/-- A bind comes after a good verdict, and an unbind of the same connection after a good answer; neither
comes twice. -/
def Entry.Bracketed (connId : Nat) (before : Record) (x : Entry) (after : Record) : Prop :=
  (∀ p, x = .acted (.bind p) →
    .happened (.upgraded (.ok p)) ∈ before ∧ ∀ q, .acted (.bind q) ∉ before ++ after) ∧
  ∀ i n, x = .acted (.unbind i n) → n = connId ∧
    (∃ shuttingDown, .happened (.bound (.ok i) shuttingDown) ∈ before) ∧
    ∀ j m, .acted (.unbind j m) ∉ before ++ after

theorem Course.bracketed {stage : HandlerStage} {session : SessionState} {ms : Record}
    (hc : Course connId stage session ms) (before : Record) (x : Entry) (after : Record)
    (hms : ms = before ++ x :: after) : x.Bracketed connId before after := by
  revert before x after
  cases hc <;>
    simp [forall_split_cons, Entry.Bracketed, surrender, grant, admission]

theorem Course.bracketed_log {stage : HandlerStage} {session : SessionState}
    (hc : Course connId stage session (milestones log)) {before after : Record} {x : Entry}
    (hlog : log = before ++ x :: after) : x.Bracketed connId before after := by
  have hmilestones (hx : x.isMilestone = true) :
      milestones log = milestones before ++ x :: milestones after := by
    rw [hlog, milestones, List.filter_append, List.filter_cons_of_pos hx]
    rfl
  refine ⟨fun p hx => ?_, fun i n hx => ?_⟩
  · obtain ⟨hverdict, honce⟩ := (hc.bracketed _ _ _ (hmilestones (hx ▸ rfl))).1 p hx
    refine ⟨(mem_milestones rfl).mp hverdict, fun q hq => honce q ?_⟩
    rwa [← milestones_append, mem_milestones rfl]
  · obtain ⟨hn, ⟨b, hanswer⟩, honce⟩ := (hc.bracketed _ _ _ (hmilestones (hx ▸ rfl))).2 i n hx
    refine ⟨hn, ⟨b, (mem_milestones rfl).mp hanswer⟩, fun j m hj => honce j m ?_⟩
    rwa [← milestones_append, mem_milestones rfl]

theorem Course.gives_back {session : SessionState} {ms : Record} (hc : Course connId .over session ms)
    {shuttingDown : Bool} (hbound : .happened (.bound (.ok i) shuttingDown) ∈ ms) :
    .acted (.unbind i connId) ∈ ms := by
  cases hc with
  | granted _ _ hs => cases hs
  | ended p j b he =>
    obtain ⟨rfl, -⟩ : i = j ∧ shuttingDown = b := by simpa [surrender, grant, admission] using hbound
    simp [surrender]
  | _ => simp [admission] at hbound

theorem Course.closes {session : SessionState} {ms : Record} (hc : Course connId .over session ms)
    (hupgrade : .happened .handshakeExpired ∈ ms ∨ ∃ verdict, .happened (.upgraded verdict) ∈ ms) :
    session = .closed := by
  cases hc with
  | failed => simp at hupgrade
  | granted _ _ hs => cases hs
  | _ => rfl

/-- What can still come when the binding is given back: the answer to that, the last event of the session, and
what others do to the outbox. -/
def Entry.isLate : Entry → Bool
  | .happened .unbound | .acted (.apply .released) => true
  | .did r => r.1.isOutside
  | _ => false

def carryOut (k : Handle) (g : Gateway) : Action → Gateway
  | .bind p => (g.startBind p k).2
  | .unbind i connId => (g.startUnbind i connId).2
  | .markAlive => g.adjust k fun c => { c with liveness := c.liveness.markAlive }
  | .apply _ | .write _ | .closeSocket => g

theorem frame_ne_internalError (p : Parcel) : p.frame ≠ Handler.internalError := by
  cases p with
  | payload content =>
    rw [Parcel.frame, Frame.ofPayload]
    split <;> rintro ⟨⟩
  | probe => rintro ⟨⟩

theorem reason_ne_internalError (r : CloseReason) : r.frame ≠ Handler.internalError := by
  cases r <;> simp [CloseReason.frame, Handler.internalError]

/-- No frame tells a device of an internal error. -/
theorem Move.frames (hm : Move h e r as h') : .write Handler.internalError ∉ as := by
  cases hm with
  | stays hs turn =>
    cases turn with
    | writes p => simpa using (frame_ne_internalError p).symm
    | closes r => simpa using (reason_ne_internalError r).symm
    | _ => simp
  | leaves => simp [parting]
  | refuses hs x b => simpa [Handler.reject] using (reason_ne_internalError _).symm
  | rejects => simp [Handler.reject, Handler.unauthorized, Handler.internalError]
  | _ => simp

structure Framed (connId : Nat) (log : Record) (s : Service) : Prop where
  number : s.handler.connId = connId
  course : Course connId s.handler.stage s.handler.session (milestones log)
  frames : .acted (.write Handler.internalError) ∉ log
  late : log.Pairwise fun x y => (∃ i n, x = .acted (.unbind i n)) → y.isLate = true
  aloof : (∀ p, .happened (.upgraded (.ok p)) ∉ log) →
    ∀ (k : Handle) (g : Gateway), (acts log).foldl (carryOut k) g = g

/-- No more than the last entry of a turn gives the binding back. -/
theorem Move.late (hm : Move h e r as h') : (entries e r as).Pairwise fun x y =>
    (∃ i n, x = .acted (.unbind i n)) → y.isLate = true := by
  cases hm with
  | stays hs turn => cases turn <;> simp [entries]
  | @leaves _ _ _ _ orderly _ hs exit =>
    cases r <;> cases orderly && h.graceful <;> simp [entries, parting]
  | _ => simp [entries, Handler.reject]

/-- Where the binding has been given back, only late entries follow. -/
theorem Course.late_move {ms : Record} {n : Nat} (hc : Course connId h.stage h.session ms)
    (hmem : .acted (.unbind i n) ∈ ms) (hm : Move h e r as h') : ∀ y ∈ entries e r as, y.isLate = true := by
  cases hm with
  | expires hs | fails hs | rejects hs | admits hs =>
    obtain ⟨-, rfl⟩ := (hs ▸ hc).of_handshake
    cases hmem
  | refuses hs | grants hs =>
    cases (hs ▸ hc).of_binding
    simp [admission] at hmem
  | stays hs turn =>
    obtain ⟨-, p, b, rfl⟩ := (hs ▸ hc).of_served turn.served.1
    simp [grant, admission] at hmem
  | leaves hs exit =>
    obtain ⟨-, p, b, rfl⟩ := (hs ▸ hc).of_served exit.served
    simp [grant, admission] at hmem
  | returned hs => simp [entries, Entry.isLate]

/-- Nothing is asked of the gateway as long as no token has been found good. -/
theorem Course.aloof_move {ms : Record} (hc : Course connId h.stage h.session ms)
    (hms : ∀ p, .happened (.upgraded (.ok p)) ∉ ms)
    (hes : ∀ p, .happened (.upgraded (.ok p)) ∉ entries e r as) (hm : Move h e r as h')
    (k : Handle) (g : Gateway) : (acts (entries e r as)).foldl (carryOut k) g = g := by
  cases hm with
  | expires hs | fails hs | rejects hs => rfl
  | admits hs p => exact absurd List.mem_cons_self (hes p)
  | refuses hs | grants hs =>
    cases (hs ▸ hc).of_binding
    exact absurd List.mem_cons_self (hms _)
  | stays hs turn =>
    obtain ⟨-, p, b, rfl⟩ := (hs ▸ hc).of_served turn.served.1
    exact absurd List.mem_cons_self (hms p)
  | leaves hs exit =>
    obtain ⟨-, p, b, rfl⟩ := (hs ▸ hc).of_served exit.served
    exact absurd List.mem_cons_self (hms p)
  | returned hs => rfl

theorem framed_new (connId capacity : Nat) : Framed connId [] (new connId capacity) :=
  ⟨rfl, .started, List.not_mem_nil, .nil, fun _ _ _ => rfl⟩

theorem Framed.taken (hf : Framed connId log s) (ht : s.Taken es s') :
    Framed connId (log ++ es) s' := by
  cases ht with
  | @outside o a c ho hop =>
    refine ⟨hf.number, ?_, ?_, ?_, fun hno k g => ?_⟩
    · rw [milestones_append]
      exact (List.append_nil _).symm ▸ hf.course
    · simpa using hf.frames
    · refine List.pairwise_append.mpr ⟨hf.late, List.pairwise_singleton _ _, fun x _ y hy _ => ?_⟩
      cases List.mem_singleton.mp hy
      exact ho
    · rw [acts_append]
      exact (List.append_nil (acts log)).symm ▸ hf.aloof (fun p hp => hno p (List.mem_append_left _ hp)) k g
  | @moves e r as h c hm hc =>
    refine ⟨hm.handler_connId.trans hf.number, ?_, ?_, ?_, fun hno k g => ?_⟩
    · rw [milestones_append]
      exact hf.course.move hf.number hm
    · rw [List.mem_append, not_or, acted_mem_entries]
      exact ⟨hf.frames, hm.frames⟩
    · refine List.pairwise_append.mpr ⟨hf.late, hm.late, ?_⟩
      rintro _ hx y hy ⟨i, n, rfl⟩
      exact hf.course.late_move ((mem_milestones rfl).mpr hx) hm y hy
    · have hlog p hp := hno p (List.mem_append_left _ hp)
      have hes p hp := hno p (List.mem_append_right _ hp)
      have hms p hp := hlog p ((mem_milestones rfl).mp hp)
      rw [acts_append, List.foldl_append]
      calc (acts (entries e r as)).foldl (carryOut k) ((acts log).foldl (carryOut k) g)
        _ = (acts (entries e r as)).foldl (carryOut k) g := by rw [hf.aloof hlog k g]
        _ = g := hf.course.aloof_move hms hes hm k g

theorem framed_of_run {ts : List Turn} (hrun : (new connId capacity).run ts = some (log, s)) :
    Framed connId log s :=
  (run_induction (P := Framed connId) (framed_new connId capacity)
    (fun _ _ _ _ _ _ hf ht => hf.taken ht) hrun).2.2

/-- Whatever becomes of the handshake, of the token, of the bind, and of the loop, for as long as it runs. -/
theorem handler_brackets {ts : List Turn} (hrun : (new connId capacity).run ts = some (log, s)) :
    ((events log).foldlM SessionState.on? .connecting = some s.handler.session ∧
      .acted (.write Handler.internalError) ∉ log ∧
      ∀ i, s.handler.stage = .unbinding i → s.handler.session = .closing) ∧
    ((∀ before p after, log = before ++ .acted (.bind p) :: after →
        .happened (.upgraded (.ok p)) ∈ before ∧ ∀ q, .acted (.bind q) ∉ before ++ after) ∧
      ((∀ p, .happened (.upgraded (.ok p)) ∉ log) →
        ∀ (k : Handle) (g : Gateway), (acts log).foldl (carryOut k) g = g)) ∧
    ((∀ before i n after, log = before ++ .acted (.unbind i n) :: after →
        n = connId ∧ (∃ shuttingDown, .happened (.bound (.ok i) shuttingDown) ∈ before) ∧
        (∀ j m, .acted (.unbind j m) ∉ before ++ after) ∧ ∀ x ∈ after, x.isLate = true) ∧
      (s.handler.stage = .over → ∀ i shuttingDown, .happened (.bound (.ok i) shuttingDown) ∈ log →
        .acted (.unbind i connId) ∈ log)) ∧
    ((s.handler.stage ≠ .over → ∃ e, (s.turn? (.happens e)).isSome = true) ∧
      (s.handler.stage = .over →
        (.happened .handshakeExpired ∈ log ∨ ∃ verdict, .happened (.upgraded verdict) ∈ log) →
        s.handler.session = .closed)) ∧
    (∀ e es s', s.turn? (.happens e) = some (es, s') → s.LeadsTo e s'.handler.stage ∧
      (∀ p, s'.handler.stage = .binding p → .acted (.bind p) ∈ es) ∧
      ∀ i, s'.handler.stage = .unbinding i → .acted (.unbind i connId) ∈ es) ∧
    ∀ i, s.handler.stage.served? = some i → Channel.asked (dids log) ≠ [] →
      ∀ ts' log' s', s.run ts' = some (log', s') → 3 ≤ ts'.countP Turn.isForward →
        .acted (.unbind i connId) ∈ log' := by
  have hf := framed_of_run hrun
  refine ⟨⟨?_, hf.frames, fun i hi => ?_⟩, ⟨fun before p after hlog => ?_, hf.aloof⟩,
    ⟨fun before i n after hlog => ?_, fun hover i b hbound => ?_⟩,
    ⟨fun hstands => ?_, fun hover hupgrade => ?_⟩, fun e es s' ht => ?_,
    fun i hserved hasked ts' log' s' hrun' hturns => ?_⟩
  · rw [← events_milestones]
    exact hf.course.accepted
  · exact (hi ▸ hf.course).of_unbinding.1
  · exact (hf.course.bracketed_log hlog).1 p rfl
  · obtain ⟨hn, hanswer, honce⟩ := (hf.course.bracketed_log hlog).2 i n rfl
    have hlate := hf.late
    rw [hlog, List.pairwise_append] at hlate
    exact ⟨hn, hanswer, honce, fun x hx => List.rel_of_pairwise_cons hlate.2.1 hx ⟨i, n, rfl⟩⟩
  · have hc := hover ▸ hf.course
    rw [← mem_milestones rfl] at hbound ⊢
    exact hc.gives_back hbound
  · obtain ⟨e, he⟩ := exists_awaits hstands
    exact ⟨e, by simp [turn?, he]⟩
  · refine (hover ▸ hf.course).closes (hupgrade.imp (mem_milestones rfl).mpr ?_)
    exact fun ⟨verdict, hverdict⟩ => ⟨verdict, (mem_milestones rfl).mpr hverdict⟩
  · exact hf.number ▸ leadsTo_of_turn (sound_of_run hrun) ht
  · exact hf.number ▸ unbinds_of_asked hrun hserved hasked hrun' (Nat.le_trans (patience_le _) hturns)

/-- A device is bound, and superseded while a payload is written to it. -/
def Sample.writing : List Turn := Sample.bound ++
  [.outside (.offer (.payload [7])), .happens (.outboxTurn true), .happens .resumed,
    .outside (.request (.close .superseded))]

def Sample.superseded : List Turn :=
  [.happens (.writing (some true)), .happens .resumed, .happens (.writing (some true)), .happens .unbound]

theorem handler_brackets_superseded : ∃ log s log' s', (new 3 1).run Sample.writing = some (log, s) ∧
    s.handler.stage.served? = some ⟨"location.ada.phone"⟩ ∧ s.run Sample.superseded = some (log', s') ∧
    .acted (.unbind ⟨"location.ada.phone"⟩ 3) ∈ log' ∧ s'.handler.stage = .over ∧
    events (log ++ log') = [.accepted, .authenticated, .superseded, .released] ∧
    s'.handler.session = .closed := by
  obtain ⟨⟨log, s⟩, hrun⟩ := Option.isSome_iff_exists.mp
    (show ((new 3 1).run Sample.writing).isSome = true by decide +kernel)
  have hserved : s.handler.stage.served? = some ⟨"location.ada.phone"⟩ :=
    run_shows hrun (fun w => w.2.handler.stage.served?) (by decide +kernel)
  have hasked : Channel.asked (dids log) = [.close .superseded] :=
    run_shows hrun (fun w => Channel.asked (dids w.1)) (by decide +kernel)
  have hgoes : (s.run Sample.superseded).isSome = true :=
    run_shows hrun (fun w => (w.2.run Sample.superseded).isSome) (by decide +kernel)
  obtain ⟨⟨log', s'⟩, hrun'⟩ := Option.isSome_iff_exists.mp hgoes
  have hwhole := run_append hrun hrun'
  have hover : s'.handler.stage = .over :=
    run_shows hwhole (fun w => w.2.handler.stage) (by decide +kernel)
  have hevents : events (log ++ log') = [.accepted, .authenticated, .superseded, .released] :=
    run_shows hwhole (fun w => events w.1) (by decide +kernel)
  obtain ⟨⟨haccepted, -⟩, -⟩ := handler_brackets hwhole
  obtain ⟨-, -, -, -, -, hleaves⟩ := handler_brackets hrun
  rw [hevents] at haccepted
  have hunbind := hleaves _ hserved (hasked ▸ List.cons_ne_nil _ _) _ _ _ hrun' (by decide)
  exact ⟨log, s, log', s', hrun, hserved, hrun', hunbind, hover, hevents, (Option.some.inj haccepted).symm⟩

end LocationRelay.Service
