import LocationRelay.Proofs.Writing

/-! # How a handler gets to its end

Whether a happening ends the loop is read off the place at which the handler stands and off its outbox, before
the handler has done anything about it. A happening that ends the loop has the binding given back at once, and
one that does not leaves the handler in the loop. When somebody has asked a connection to stop, three turns of
its handler are enough, whatever else is done to the outbox meanwhile.
-/
namespace LocationRelay

namespace Channel

variable {c c' : Channel} {a : Answer}

theorem stopped_of_takeStop (h : c.op? .takeStop = some (a, c')) : a = .stopped c.outbox.pendingStop? := by
  have halive := (Option.ite_none_right_eq_some.mp h).1
  cases hs : c.outbox.pendingStop? with
  | some stop =>
    cases (takeStop_of_pending halive hs).symm.trans h
    rfl
  | none =>
    cases (takeStop_of_none halive hs).symm.trans h
    rfl

theorem command_of_take {s : Stop} (h : c.op? .take = some (a, c')) (hs : c.outbox.pendingStop? = some s) :
    a = .took (.command (.stop s)) := by
  cases (take_of_pending (Option.ite_none_right_eq_some.mp h).1 hs).symm.trans h
  rfl

theorem ended_iff_of_take (h : c.op? .take = some (a, c')) :
    a = .took .ended ↔ c.outbox.pendingStop? = none ∧ c.outbox.queued = [] ∧ c.handles = 0 := by
  cases hs : c.outbox.pendingStop? with
  | some stop => simp [command_of_take h hs]
  | none =>
    cases (take_of_none (Option.ite_none_right_eq_some.mp h).1 hs).symm.trans h
    cases c.outbox.queued <;> simp [Nat.pos_iff_ne_zero]

end Channel

namespace Service

/-- What ends the loop: nothing can come out of the outbox any more, the device hangs up or is lost, a write
fails, or a request to stop has been obeyed as far as it can be. -/
def EndsLoop (s : Service) (e : Happening) : Prop :=
  match s.handler.stage, e with
  | .serving _, .outboxTurn _ =>
    s.channel.outbox.pendingStop? = none ∧ s.channel.outbox.queued = [] ∧ s.channel.handles = 0
  | .serving _, .inbound f => f = .close ∨ f = .gone
  | .obeying _ (.stop .terminate), .resumed => True
  | .obeying _ (.stop (.close _)), .resumed => s.channel.outbox.pendingStop? ≠ none
  | .writing _, .writing result => result = some false ∧ s.channel.outbox.pendingStop? = none
  | .closing .., .writing result => result ≠ none ∨ s.channel.outbox.pendingStop? ≠ none
  | .closing .., .stalled => True
  | _, _ => False

def LeadsTo (s : Service) (e : Happening) (stage : HandlerStage) : Prop :=
  match e with
  | .upgraded (.ok p) => stage = .binding p
  | .bound (.ok i) _ => stage = .serving i
  | .handshakeExpired | .handshakeFailed | .upgraded (.error _) | .bound (.error _) _ | .unbound =>
    stage = .over
  | .outboxTurn _ | .inbound _ | .resumed | .writing _ | .stalled =>
    ∃ i, s.handler.stage.served? = some i ∧
      (s.EndsLoop e → stage = .unbinding i) ∧ (¬ s.EndsLoop e → stage.served? = some i)

variable {connId capacity : Nat} {log es : Record} {s s' : Service} {h' : Handler} {e : Happening}
  {r : Option Reading} {as : List Action} {i : Identity} {c' : Channel}

theorem Leads.pendingStop {c : Channel} {stop : Option Stop}
    (hc : Leads c (some (.takeStop, .stopped stop)) c') : c.outbox.pendingStop? = stop := by
  injection Channel.stopped_of_takeStop hc with hs
  exact hs.symm

theorem LoopTurn.not_endsLoop {stage' : HandlerStage} (turn : LoopTurn i s.handler.stage e r as stage')
    (hc : Leads s.channel r c') : ¬ s.EndsLoop e := by
  obtain ⟨⟨connId, session, stage, graceful⟩, channel⟩ := s
  cases turn with
  | takes handles c => exact fun hends => nomatch (Channel.ended_iff_of_take hc).mpr hends
  | waits handles => exact fun hends => nomatch (Channel.ended_iff_of_take hc).mpr hends
  | answered | ignores => rintro (hf | hf) <;> cases hf
  | writes | preempted => exact id
  | goesOn | written => rintro ⟨⟨⟩, -⟩
  | interrupted result stop => exact fun hends => nomatch hc.pendingStop.symm.trans hends.2
  | closes reason => exact fun hends => hends hc.pendingStop
  | flushes reason => exact fun hends => hends.elim (· rfl) (· hc.pendingStop)

theorem LoopExit.endsLoop {event : SessionEvent} {orderly : Bool}
    (exit : LoopExit i s.handler.stage e r event orderly) (hc : Leads s.channel r c') : s.EndsLoop e := by
  obtain ⟨⟨connId, session, stage, graceful⟩, channel⟩ := s
  cases exit with
  | ends handles => exact (Channel.ended_iff_of_take hc).mp rfl
  | hangsUp hf => exact hf
  | fails => exact ⟨rfl, hc.pendingStop⟩
  | terminates | stalls => trivial
  | overtaken reason stop => exact fun hnone => nomatch hc.pendingStop.symm.trans hnone
  | flushed reason => exact .inl (Option.some_ne_none true)
  | breaksOff reason hcause =>
    rcases hcause with hstop | rfl
    · exact .inr (hc.pendingStop.symm ▸ hstop)
    · exact .inl (Option.some_ne_none false)

/-- A move takes the handler where its happening leads, and asks the gateway for what is due there. -/
theorem Move.leadsTo (hm : Move s.handler e r as h') (hc : Leads s.channel r c') :
    s.LeadsTo e h'.stage ∧ (∀ p, h'.stage = .binding p → .bind p ∈ as) ∧
      ∀ i, h'.stage = .unbinding i → .unbind i s.handler.connId ∈ as := by
  obtain ⟨⟨connId, session, stage, graceful⟩, channel⟩ := s
  cases hm with
  | expires | fails | rejects | refuses | returned => exact ⟨rfl, nofun, nofun⟩
  | admits hs p =>
    refine ⟨rfl, ?_, nofun⟩
    rintro _ ⟨⟩
    simp
  | grants => exact ⟨rfl, nofun, nofun⟩
  | @stays i _ _ _ _ stage' hs turn =>
    cases hs
    obtain ⟨hserved, hserved'⟩ := turn.served
    have hnot := turn.not_endsLoop hc
    refine ⟨?_, ?_, ?_⟩
    · cases turn <;> exact ⟨i, hserved, fun hends => absurd hends hnot, fun _ => hserved'⟩
    · rintro p rfl
      cases hserved'
    · rintro j rfl
      cases hserved'
  | @leaves i _ _ _ _ _ hs exit =>
    cases hs
    have hserved := exit.served
    have hends := exit.endsLoop hc
    refine ⟨?_, nofun, ?_⟩
    · cases exit <;> exact ⟨i, hserved, fun _ => rfl, fun hnot => absurd hends hnot⟩
    · rintro j ⟨⟩
      simp [parting]

theorem leadsTo_of_turn (hs : s.Sound) (ht : s.turn? (.happens e) = some (es, s')) :
    s.LeadsTo e s'.handler.stage ∧ (∀ p, s'.handler.stage = .binding p → .acted (.bind p) ∈ es) ∧
      ∀ i, s'.handler.stage = .unbinding i → .acted (.unbind i s.handler.connId) ∈ es := by
  obtain ⟨r, as, rfl, hm, hc⟩ := hs.moves ht
  obtain ⟨hleads, hbind, hunbind⟩ := hm.leadsTo hc
  exact ⟨hleads, fun p hp => acted_mem_entries.mpr (hbind p hp),
    fun i hi => acted_mem_entries.mpr (hunbind i hi)⟩

/-! ## When somebody has asked to stop -/

/-- Whether a turn gets the handler on: the outbox has its turn, a command is obeyed, or it is known what became
of a frame. -/
def Turn.isForward : Turn → Bool
  | .happens (.outboxTurn _) | .happens .resumed | .happens (.writing (some _)) | .happens .stalled => true
  | _ => false

/-- After how many such turns at most a handler that has been asked to stop is out of the loop. -/
def patience : HandlerStage → Nat
  | .serving _ | .writing _ | .obeying _ (.send _) => 3
  | .obeying _ (.stop _) => 2
  | .closing .. => 1
  | _ => 0

theorem patience_pos {stage : HandlerStage} (hs : stage.served? = some i) : 0 < patience stage := by
  cases stage with
  | obeying j c => cases c <;> exact Nat.zero_lt_succ _
  | serving | writing | closing => exact Nat.zero_lt_succ _
  | _ => cases hs

theorem patience_le (stage : HandlerStage) : patience stage ≤ 3 := by
  cases stage with
  | obeying j c => cases c <;> simp [patience]
  | _ => simp [patience]

/-- As long as the handler has learned of no request to stop, one that was made is pending. -/
theorem Kept.pendingStop_ne_none (hk : Kept capacity log s.channel) (hasked : Channel.asked (dids log) ≠ [])
    (hstops : stops log = []) : s.channel.outbox.pendingStop? ≠ none := by
  obtain ⟨os, -, hk⟩ := hk
  cases hr : s.channel.outbox.requested with
  | none =>
    rw [hk.requested, Channel.inEffect] at hr
    split at hr
    · cases hr
    · exact absurd (List.head?_eq_none_iff.mp hr) hasked
  | some stop =>
    have hnot : stop ∉ stops log := hstops ▸ List.not_mem_nil
    rw [hk.pending hr hnot]
    exact Option.some_ne_none stop

theorem LoopTurn.wanes {stage' : HandlerStage} (turn : LoopTurn i s.handler.stage e r as stage')
    (hc : Leads s.channel r c') (hw : Written log s.handler.stage)
    (hasked : stops log = [] → s.channel.outbox.pendingStop? ≠ none) :
    patience stage' + (Turn.happens e).isForward.toNat ≤ patience s.handler.stage := by
  obtain ⟨⟨connId, session, stage, graceful⟩, channel⟩ := s
  cases turn with
  | takes handles c =>
    obtain ⟨stop, hs⟩ := Option.ne_none_iff_exists'.mp (hasked hw.1)
    cases Channel.command_of_take hc hs
    exact Nat.le_refl 3
  | waits handles =>
    obtain ⟨stop, hs⟩ := Option.ne_none_iff_exists'.mp (hasked hw.1)
    cases Channel.command_of_take hc hs
  | writes | written => exact absurd hc.pendingStop (hasked hw.1)
  | interrupted result stop => cases result <;> simp [patience, Turn.isForward]
  | preempted | closes | answered | ignores | goesOn | flushes => exact Nat.le_refl _

/-- A handler that has been asked to stop gives the binding back or stays in its loop, where a turn that gets it
on uses its patience up. -/
theorem unbinds_or_wanes {t : Turn} (hs : s.Sound) (hk : Kept capacity log s.channel)
    (hw : Written log s.handler.stage) (hasked : Channel.asked (dids log) ≠ [])
    (hserved : s.handler.stage.served? = some i) (ht : s.turn? t = some (es, s')) :
    .acted (.unbind i s.handler.connId) ∈ es ∨
      s'.handler.connId = s.handler.connId ∧ s'.handler.stage.served? = some i ∧
        patience s'.handler.stage + t.isForward.toNat ≤ patience s.handler.stage := by
  cases t with
  | outside o =>
    obtain ⟨-, ht⟩ := Option.ite_none_right_eq_some.mp ht
    obtain ⟨⟨a, c⟩, -, he⟩ := Option.map_eq_some_iff.mp ht
    cases he
    exact .inr ⟨rfl, hserved, Nat.le_refl _⟩
  | happens e =>
    obtain ⟨r, as, rfl, hm, hc⟩ := hs.moves ht
    have hid := hm.handler_connId
    generalize s'.handler = h' at hm hid
    cases hm with
    | stays hstage turn =>
      subst hstage
      cases hserved.symm.trans turn.served.1
      exact .inr ⟨hid, turn.served.2, turn.wanes hc hw (hk.pendingStop_ne_none hasked)⟩
    | leaves hstage exit =>
      subst hstage
      cases hserved.symm.trans exit.served
      exact .inl (acted_mem_entries.mpr (by simp [parting]))
    | expires hstage | fails hstage | rejects hstage | admits hstage | refuses hstage | grants hstage
    | returned hstage =>
      cases (congrArg HandlerStage.served? hstage).symm.trans hserved

/-- Wherever in its loop a handler stands when somebody has asked to stop, it takes no more turns than its
patience says until it gives the binding back. -/
theorem unbinds_of_asked {ts ts' : List Turn} {log' : Record}
    (hrun : (new connId capacity).run ts = some (log, s)) (hserved : s.handler.stage.served? = some i)
    (hasked : Channel.asked (dids log) ≠ []) (hrun' : s.run ts' = some (log', s'))
    (hturns : patience s.handler.stage ≤ ts'.countP Turn.isForward) :
    .acted (.unbind i s.handler.connId) ∈ log' := by
  induction ts' generalizing ts log s log' with
  | nil => exact absurd hturns (Nat.not_le.mpr (patience_pos hserved))
  | cons t ts' ih =>
    obtain ⟨es, s₁, log₁, ht, hrest, rfl⟩ := run_cons_eq_some.mp hrun'
    obtain ⟨hk, -, hout⟩ := run_induction (P := Output) (output_new connId capacity)
      (fun _ _ _ _ _ _ hout ht => hout.taken ht) hrun
    rcases unbinds_or_wanes (sound_of_run hrun) hk hout.written hasked hserved ht with hunbind | ⟨hid, hserved₁, hle⟩
    · exact List.mem_append_left _ hunbind
    · have hrun₁ : (new connId capacity).run (ts ++ [t]) = some (log ++ es, s₁) :=
        run_append hrun (run_cons_eq_some.mpr ⟨es, s₁, [], ht, rfl, (List.append_nil es).symm⟩)
      have hasked₁ : Channel.asked (dids (log ++ es)) ≠ [] := by
        rw [dids_append, Channel.asked, List.filterMap_append]
        exact List.append_ne_nil_of_left_ne_nil hasked _
      have hturns₁ : patience s₁.handler.stage ≤ ts'.countP Turn.isForward := by
        rw [List.countP_cons] at hturns
        cases hforward : t.isForward <;> simp [hforward] at hturns hle <;> omega
      exact List.mem_append_right _ (hid ▸ ih hrun₁ hserved₁ hasked₁ hrest hturns₁)

end Service
end LocationRelay
