import LocationRelay.Proofs.Run

/-! # What happens at the connections alone

Reading an outbox, asking a connection to stop, probing it and sweeping all of them change nothing but
connections. None of them withdraws a request to stop, whatever is asked for afterwards.
-/
namespace LocationRelay

theorem Outbox.requested_request (o : Outbox) (s : Stop) : (o.request s).requested ≠ none := by
  unfold Outbox.request
  split <;> simp_all

@[simp] theorem Outbox.requested_take (o : Outbox) (handles : Bool) :
    (o.take handles).2.requested = o.requested := by
  unfold Outbox.take
  split
  · rfl
  · split <;> rfl

@[simp] theorem Outbox.requested_takeStop (o : Outbox) : o.takeStop.2.requested = o.requested := by
  unfold Outbox.takeStop
  split <;> rfl

theorem Outbox.requested_offer {o o' : Outbox} {p : Parcel} (h : o.offer? p = some o') :
    o'.requested = o.requested := by
  unfold Outbox.offer? at h
  split at h
  · cases h
    rfl
  · cases h

namespace Gateway

def stopOf (g : Gateway) (h : Handle) : Option Stop :=
  (g.connection? h).bind fun c => c.outbox.requested

def Stopped (g : Gateway) (h : Handle) : Prop := g.stopOf h ≠ none

def Opened (g : Gateway) (h : Handle) : Prop := g.connection? h ≠ none

/-- Nothing but connections changes, none of which disappears or gets rid of a request to stop. -/
structure ConnectionsOnly (g g' : Gateway) : Prop where
  rest : g' = { g with connections := g'.connections }
  size : g'.connections.size = g.connections.size
  opened : ∀ slot, g'.connections.get? slot = none ↔ g.connections.get? slot = none
  stopped : ∀ h, g.Stopped h → g'.Stopped h

namespace ConnectionsOnly

theorem refl (g : Gateway) : g.ConnectionsOnly g := ⟨rfl, rfl, fun _ => .rfl, fun _ h => h⟩

theorem trans {g₁ g₂ g₃ : Gateway} (h : g₁.ConnectionsOnly g₂) (h' : g₂.ConnectionsOnly g₃) :
    g₁.ConnectionsOnly g₃ where
  rest := by rw [h'.rest, h.rest]
  size := h'.size.trans h.size
  opened slot := (h'.opened slot).trans (h.opened slot)
  stopped k hk := h'.stopped k (h.stopped k hk)

theorem adjust {g : Gateway} {h : Handle} {f : Connection → Connection}
    (hf : ∀ c, g.connection? h = some c → c.outbox.requested ≠ none →
      (f c).outbox.requested ≠ none) : g.ConnectionsOnly (g.adjust h f) where
  rest := rfl
  size := List.length_map _
  opened slot := by
    simp only [Gateway.adjust, Table.get?_adjust]
    split <;> simp
  stopped k hk := by
    unfold Stopped stopOf connection? at hk ⊢
    simp only [Gateway.adjust, Table.get?_adjust]
    split
    · next he =>
      cases hc : g.connections.get? k.slot with
      | none => simp [hc] at hk
      | some c =>
        rw [hc] at hk
        exact hf c (by rw [connection?, ← he, hc]) hk
    · exact hk

theorem adjustOutbox {g : Gateway} {h : Handle} {f : Outbox → Outbox}
    (hf : ∀ c, g.connection? h = some c → c.outbox.requested ≠ none →
      (f c.outbox).requested ≠ none) : g.ConnectionsOnly (g.adjustOutbox h f) :=
  adjust hf

theorem close (g : Gateway) (h : Handle) (reason : CloseReason) :
    g.ConnectionsOnly (g.close h reason) :=
  adjustOutbox fun _ _ _ => Outbox.requested_request _ _

theorem terminate (g : Gateway) (h : Handle) : g.ConnectionsOnly (g.terminate h) :=
  adjustOutbox fun _ _ _ => Outbox.requested_request _ _

theorem offer (g : Gateway) (h : Handle) (p : Parcel) : g.ConnectionsOnly (g.offer h p).2 := by
  unfold Gateway.offer
  split
  · next o ho =>
    obtain ⟨c, hc, ho⟩ := Option.bind_eq_some_iff.mp ho
    change g.ConnectionsOnly (g.adjustOutbox h fun _ => o)
    refine adjustOutbox fun c' hc' hr => ?_
    rw [hc] at hc'
    cases hc'
    rw [Outbox.requested_offer ho]
    exact hr
  · exact refl g

theorem forward (g : Gateway) (i : Identity) (payload : Text.Bytes) :
    g.ConnectionsOnly (g.forward i payload).2 := by
  unfold Gateway.forward
  split
  · exact refl g
  · next h _ =>
    have hoffer := offer g h (.payload payload)
    split <;> next he => rw [he] at hoffer; exact hoffer

theorem loseSubscription (g : Gateway) (s : StreamId) (r : Relay) :
    (g.unrelayed s).ConnectionsOnly (g.loseSubscription s r) := by
  unfold Gateway.loseSubscription
  dsimp only
  split
  · split
    · exact close (g.unrelayed s) _ _
    · exact refl (g.unrelayed s)
  · exact refl (g.unrelayed s)

theorem take (g : Gateway) (h : Handle) : g.ConnectionsOnly (g.take h).2 := by
  unfold Gateway.take
  split
  · exact refl g
  · next c hc =>
    change g.ConnectionsOnly (g.adjustOutbox h fun _ => (c.outbox.take (g.hasHandles h)).2)
    refine adjustOutbox fun c' hc' hr => ?_
    rw [hc] at hc'
    cases hc'
    rw [Outbox.requested_take]
    exact hr

theorem takeStop (g : Gateway) (h : Handle) :
    g.ConnectionsOnly (g.adjustOutbox h fun o => o.takeStop.2) :=
  adjustOutbox fun _ _ hr => by rw [Outbox.requested_takeStop]; exact hr

theorem probeOnce (g : Gateway) (report : SweepReport) (h : Handle) :
    g.ConnectionsOnly (g.probeOnce report h).2 := by
  have harm : g.ConnectionsOnly (g.adjust h fun c => { c with liveness := c.liveness.arm }) :=
    adjust fun _ _ hr => hr
  have hoffer := offer (g.adjust h fun c => { c with liveness := c.liveness.arm }) h .probe
  unfold Gateway.probeOnce
  dsimp only
  split <;> next he =>
    rw [he] at hoffer
    exact harm.trans hoffer

theorem visit (maxMissed : Nat) (g : Gateway) (report : SweepReport) (h : Handle) :
    g.ConnectionsOnly (Gateway.visit maxMissed g report h).2 := by
  unfold Gateway.visit
  split
  · exact refl g
  · split
    · exact probeOnce g report h
    · next c _ _ =>
      have hmiss : g.ConnectionsOnly
          (g.adjust h fun c' => { c' with liveness := c.liveness.recordMiss.2 }) :=
        adjust fun _ _ hr => hr
      dsimp only
      split
      · exact hmiss.trans (terminate _ h)
      · exact hmiss.trans (probeOnce _ report h)

/-- A sweep visits the registered connections and then prunes the locks. -/
theorem sweep (g : Gateway) (config : SweepConfig) :
    ∃ g₁, g.ConnectionsOnly g₁ ∧ (g.sweep config).2 = g₁.prune := by
  have hfold : ∀ (es : List (Identity × Handle)) (acc : SweepReport × Gateway),
      acc.2.ConnectionsOnly (es.foldl (fun acc e =>
        Gateway.visit config.maxMissed acc.2 acc.1 e.2) acc).2 := by
    intro es
    induction es with
    | nil => exact fun acc => refl acc.2
    | cons e es ih => exact fun acc => (visit config.maxMissed acc.2 acc.1 e.2).trans (ih _)
  exact ⟨_, hfold g.registry.entries ({}, g), rfl⟩

end ConnectionsOnly

theorem stopped_close {g : Gateway} {h : Handle} (reason : CloseReason) (ho : g.Opened h) :
    (g.close h reason).Stopped h := by
  obtain ⟨c, hc⟩ := Option.ne_none_iff_exists'.mp ho
  have hget : (g.close h reason).stopOf h = (c.outbox.close reason).requested := by
    unfold connection? at hc
    simp [stopOf, connection?, Gateway.close, Gateway.adjustOutbox, Gateway.adjust, hc]
  rw [Stopped, hget]
  exact Outbox.requested_request _ _

theorem closeRegistered_stops (g : Gateway) : g.ConnectionsOnly g.closeRegistered ∧
    ∀ i h, g.registry.get? i = some h → g.Opened h → g.closeRegistered.Stopped h := by
  have hfold : ∀ (es : List (Identity × Handle)) (g : Gateway),
      let after := es.foldl (fun g e => g.close e.2 .shutdown) g
      g.ConnectionsOnly after ∧ ∀ e ∈ es, g.Opened e.2 → after.Stopped e.2 := by
    intro es
    induction es with
    | nil => exact fun g => ⟨.refl g, List.forall_mem_nil _⟩
    | cons e es ih =>
      intro g
      have hclose := ConnectionsOnly.close g e.2 .shutdown
      obtain ⟨hrest, hstop⟩ := ih (g.close e.2 .shutdown)
      refine ⟨hclose.trans hrest, ?_⟩
      intro e' he' ho
      rcases List.mem_cons.mp he' with rfl | he'
      · exact hrest.stopped _ (stopped_close .shutdown ho)
      · exact hstop e' he' fun hn => ho ((hclose.opened _).mp hn)
  obtain ⟨hrest, hstop⟩ := hfold g.registry.entries g
  exact ⟨hrest, fun i h hi => hstop (i, h) (g.registry.mem_entries_iff.mpr hi)⟩

theorem connectionsOnly_flagged (g : Gateway) :
    ConnectionsOnly { g with shuttingDown := true } g.flagged :=
  (closeRegistered_stops _).1

theorem flagged_stopped {g : Gateway} {i : Identity} {h : Handle}
    (hi : g.registry.get? i = some h) (ho : g.Opened h) : g.flagged.Stopped h :=
  (closeRegistered_stops { g with shuttingDown := true }).2 i h hi ho

/-! ## What can happen at all -/

inductive BrokerStep (b : Broker) : Broker → Prop
  | publishes (exchange key : String) (payload : Text.Bytes) :
      BrokerStep b (b.publish exchange key payload).2
  | refuses (on : Bool) : BrokerStep b { b with refusing := on }
  | loses (queue : String) : BrokerStep b (b.unsubscribe queue)
  | closes : BrokerStep b b.close

inductive Asking (g : Gateway) : Call → Identity → Prop
  | bind {p : Principal} {h : Handle} (ho : g.Opened h) : Asking g (.bind p h .waiting) p.identity
  | unbind (i : Identity) (connId : Nat) : Asking g (.unbind i connId .waiting) i

/-- What happens without any call. -/
inductive Aside (g : Gateway) : Gateway → Prop
  | visits {g₁ : Gateway} (h : g.ConnectionsOnly g₁) : Aside g g₁
  | prunes {g₁ : Gateway} (h : g.ConnectionsOnly g₁) : Aside g g₁.prune
  | connects (connId capacity : Nat) : Aside g (g.connect connId capacity).2
  | relays {s : StreamId} {r : Relay} {g' : Gateway} (hr : g.relays.get? s = some r)
      (hs : RelayStep g s r g') : Aside g g'
  | brokers {b : Broker} (hb : BrokerStep g.broker b) : Aside g { g with broker := b }

/-- The actions sorted by what they touch. -/
inductive Happening (g : Gateway) : Gateway → Prop
  | aside {g' : Gateway} (h : Aside g g') : Happening g g'
  | asks {c : Call} {i : Identity} (hc : g.Asking c i) :
      Happening g ((g.start c).2.askLock g.nextTicket i)
  | startsShutdown : Happening g g.startShutdown.2
  | goesOn {t : Ticket} {c : Call} {g' : Gateway} (ht : g.calls.get? t = some c)
      (hs : CallStep g t c g') : Happening g g'

def Action.isCall : Action → Bool
  | .bind .. | .unbind .. | .shutdown | .advance _ => true
  | _ => false

theorem aside_of_act {g g' : Gateway} {a : Action} (ha : g.act? a = some g')
    (hcall : a.isCall = false) : Aside g g' := by
  cases a with
  | connect connId capacity => cases ha; exact .connects connId capacity
  | relay s =>
    obtain ⟨r, hr, hs⟩ := relayStep_of_step ha
    exact .relays hr hs
  | publish exchange key payload => cases ha; exact .brokers (.publishes exchange key payload)
  | take h => cases ha; exact .visits (.take g h)
  | takeStop h => cases ha; exact .visits (.takeStop g h)
  | dropHandle h => cases ha; exact .visits (.adjust fun _ _ hr => hr)
  | dropOutbox h => cases ha; exact .visits (.adjustOutbox fun _ _ hr => hr)
  | close h reason => cases ha; exact .visits (.close g h reason)
  | terminate h => cases ha; exact .visits (.terminate g h)
  | answer h => cases ha; exact .visits (.adjust fun _ _ hr => hr)
  | sweep config =>
    cases ha
    obtain ⟨g₁, hg₁, he⟩ := ConnectionsOnly.sweep g config
    exact he ▸ .prunes hg₁
  | prune => cases ha; exact .prunes (.refl g)
  | refuse on => cases ha; exact .brokers (.refuses on)
  | deleteQueue queue => cases ha; exact .brokers (.loses queue)
  | closeBroker => cases ha; exact .brokers .closes
  | _ => cases hcall

theorem happening_of_act {g g' : Gateway} {a : Action} (ha : g.act? a = some g')
    (hpub : ∀ t c, g.calls.get? t = some c → c.isPublic = true) : Happening g g' := by
  cases a with
  | bind p h =>
    obtain ⟨ho, ha⟩ := Option.ite_none_right_eq_some.mp ha
    cases ha
    exact .asks (.bind (Option.isSome_iff_ne_none.mp ho))
  | unbind i connId => cases ha; exact .asks (.unbind i connId)
  | shutdown => cases ha; exact .startsShutdown
  | advance t =>
    obtain ⟨c, hc, hs⟩ := callStep_of_step ha (hpub t)
    exact .goesOn hc hs
  | _ => exact .aside (aside_of_act ha rfl)

end Gateway
end LocationRelay
