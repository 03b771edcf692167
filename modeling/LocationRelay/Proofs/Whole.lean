import LocationRelay.Proofs.Acknowledgement
import LocationRelay.Proofs.Quiescence
import LocationRelay.Proofs.Replay

/-! # Whoever is registered is served

As long as nobody shuts the gateway down and the broker loses no queue, a consumer keeps its queue and its
relay until a call stops it, and a connection that is registered for an identity on which no call works has
a consumer, whether or not it has been told to stop.
-/
namespace LocationRelay.Gateway

def Action.isLoss : Action → Bool
  | .shutdown | .deleteQueue _ | .closeBroker => true
  | _ => false

/-- What a connection relies on is there: a consumer has its queue and its relay, a bind has the queue that it
has just declared, and where no call works, whoever is registered has a consumer. -/
structure Whole (g : Gateway) (j : Identity) : Prop where
  consumed : ∀ c, g.consumers.get? j = some c →
    g.broker.queues.get? j.text = some (c.binding, c.stream) ∧
      ∃ r, g.relays.get? c.stream = some r ∧ r.identity = j
  declared : ∀ t p h s, g.calls.get? t = some (.bind p h (.opening (.declared (.ok s)))) →
    p.identity = j → g.broker.queues.get? j.text = some (p.binding g.exchange, s)
  idle : (∀ t c, g.calls.get? t = some c → c.section? ≠ some j) →
    ∀ h, g.registry.get? j = some h → ∃ c, g.consumers.get? j = some c

variable {g g' : Gateway} {t : Ticket} {d : Call} {j : Identity} {p : Principal} {h : Handle}

/-! ## Steps elsewhere -/

theorem Whole.elsewhere (hw : g.Whole j) (hs : g.Spares j g')
    (hq : g'.broker.queues.get? j.text = g.broker.queues.get? j.text) : g'.Whole j where
  consumed c hc := by
    obtain ⟨hqueue, r, hr, hrj⟩ := hw.consumed c (hs.consumers ▸ hc)
    exact ⟨hq.trans hqueue, r, (hs.relays _ r hrj).mpr hr, hrj⟩
  declared t p h s ht hp := by
    have hsec : (Call.bind p h (.opening (.declared (.ok s)))).section? = some j := congrArg some hp
    rw [hq, hs.exchange]
    exact hw.declared t p h s ((hs.calls t _ hsec).mp ht) hp
  idle hno k hk := by
    rw [hs.consumers]
    exact hw.idle (fun t c ht hc => hno t c ((hs.calls t c hc).mpr ht) hc) k (hs.registry ▸ hk)

/-! ## Steps at the identity itself -/

/-- Where a call works there is no consumer, and the call knows of the queue. -/
theorem Consistent.whole_of_busy (hg : g.Consistent) (ht : g.calls.get? t = some d)
    (hd : d.section? = some j) (hdeclared : ∀ p h s, d = .bind p h (.opening (.declared (.ok s))) →
      g.broker.queues.get? j.text = some (p.binding g.exchange, s)) : g.Whole j where
  consumed c hc := by cases ((hg.each j).no_consumer ht hd).symm.trans hc
  declared u p h s hu hp := by
    have hsec : (Call.bind p h (.opening (.declared (.ok s)))).section? = some j := congrArg some hp
    cases hg.locking.section_unique ht hu hd hsec
    exact hdeclared p h s (Option.some.inj (ht.symm.trans hu))
  idle hno := absurd hd (hno t d ht)

/-- Where nobody is registered and no call works there is nothing to keep. -/
theorem Consistent.whole_of_empty (hg : g.Consistent) (hreg : g.registry.get? j = none)
    (hfree : ∀ t c, g.calls.get? t = some c → c.section? ≠ some j) : g.Whole j where
  consumed c hc := by
    obtain ⟨k, hk⟩ := ((hg.each j).consumed c hc).registered
    cases hreg.symm.trans hk
  declared u p h s hu hp := absurd (congrArg some hp) (hfree u _ hu)
  idle _ k hk := by cases hreg.symm.trans hk

theorem Alone.free_of_finish {g₁ : Gateway} {o : Outcome} (halone : g.Alone t j)
    (hsame : g.SameCalls g₁) (u : Ticket) (c : Call) (hu : (g₁.finish t o).calls.get? u = some c) :
    c.section? ≠ some j := by
  rw [calls_finish, hsame.calls] at hu
  split at hu
  · cases hu
    rintro ⟨⟩
  · next hne => exact fun hc => hne (halone u c hu hc)

/-- A bind that goes on stays at work, gives its registration back, or leaves a consumer. -/
theorem Consistent.whole_bindStep {stage : BindStage} (hg : g.Consistent)
    (hup : g.shuttingDown = false) (hw : g.Whole p.identity)
    (ht : g.calls.get? t = some (.bind p h stage)) (hs : BindStep g t p h stage g') :
    g'.Whole p.identity := by
  have hg' : g'.Consistent := hg.happening (.goesOn ht (.bind hs))
  have hset : ∀ {g₁ : Gateway} {stage' : BindStage}, g' = g₁.setCall t (.bind p h stage') →
      stage' ≠ .waiting → (∀ s, stage' ≠ .opening (.declared (.ok s))) → g'.Whole p.identity := by
    rintro g₁ stage' rfl hne hno
    refine hg'.whole_of_busy ((calls_setCall _ _ _ _).trans (if_pos rfl)) (Call.section_bind hne) ?_
    rintro _ _ s ⟨⟩
    exact absurd rfl (hno s)
  have habandon : ∀ reason e, stage ≠ .waiting → g' = g.abandonBind t p h reason e →
      g'.Whole p.identity := by
    rintro reason e hne rfl
    have hsec := Call.section_bind (p := p) (h := h) hne
    obtain ⟨hreg, -, -⟩ := (hg.each p.identity).busy t _ ht hsec
    have hclose := ConnectionsOnly.close (g.unregistered p.identity) h reason
    rw [abandonBind_eq hreg] at hg' ⊢
    refine hg'.whole_of_empty ?_ ((hg.alone ht hsec).free_of_finish
      ((SameCalls.mk rfl rfl rfl : g.SameCalls (g.unregistered p.identity)).trans hclose.sameCalls))
    rw [finish, hclose.rest]
    exact (Table.get?_erase _ _ _).trans (if_pos rfl)
  cases hs with
  | refused _ hdown => cases hup.symm.trans hdown
  | retracts s hdown => cases hup.symm.trans hdown
  | fails e => exact habandon _ _ (by rintro ⟨⟩) rfl
  | gaveUp => exact habandon _ _ (by rintro ⟨⟩) rfl
  | declares =>
    refine hg'.whole_of_busy ((calls_setCall _ _ _ _).trans (if_pos rfl))
      (Call.section_bind (by rintro ⟨⟩)) ?_
    intro q k s he
    have habsent : g.broker.queues.get? (p.binding g.exchange).queue = none :=
      ((hg.each p.identity).busy t _ ht rfl).2.2
    have hsteady := (BindStage.declared_spec habsent).2
    injection he with hp _ hstage
    cases hp
    -- The binding of which the bind has been told is the one that it has asked for.
    have hanswer : (g.broker.subscribe (p.binding g.exchange)).1 = .ok s :=
      Opening.declared.inj (BindStage.opening.inj hstage)
    rw [hanswer] at hsteady
    exact hsteady
  | succeeds s _ =>
    have hconsumer : (g.consumers.insert p.identity
        ⟨g.bindingFor p.identity p.bindingPattern, s⟩).get? p.identity =
          some ⟨g.bindingFor p.identity p.bindingPattern, s⟩ := by rw [Table.get?_insert, if_pos rfl]
    refine ⟨fun c hc => ?_, fun u q k s' hu hq => ?_, fun _ _ _ => ⟨_, hconsumer⟩⟩
    · cases hconsumer.symm.trans hc
      exact ⟨hw.declared t p h s ht rfl, _, (Table.get?_insert _ _ _ _).trans (if_pos rfl), rfl⟩
    · exact absurd (congrArg some hq)
        ((hg.alone ht rfl).free_of_finish (.attach g _ _ s) u _ hu)
  | _ => exact hset rfl (by rintro ⟨⟩) (by rintro _ ⟨⟩)

theorem Consistent.whole_unbindStep {connId : Nat} {stage : UnbindStage} (hg : g.Consistent)
    (hw : g.Whole j) (ht : g.calls.get? t = some (.unbind j connId stage))
    (hs : UnbindStep g t j connId stage g') : g'.Whole j := by
  have hg' : g'.Consistent := hg.happening (.goesOn ht (.unbind hs))
  have hempty : ∀ {g₁ : Gateway} {o : Outcome}, g' = g₁.finish t o → g.SameCalls g₁ → g.Alone t j →
      g'.registry.get? j = none → g'.Whole j := by
    rintro g₁ o rfl hsame halone hreg
    exact hg'.whole_of_empty hreg (halone.free_of_finish hsame)
  cases hs with
  | stale _ _ =>
    exact hw.elsewhere (.thenFinish ht (by rintro ⟨⟩) (by rintro _ ⟨⟩) (.refl j g) (.refl g) _) rfl
  | forgets hlock _ _ =>
    refine hempty rfl ⟨rfl, rfl, rfl⟩ (fun u c hu hc => ?_) ?_
    · exact absurd hc (hg.free ht rfl rfl hlock u c hu)
    · exact (Table.get?_erase _ _ _).trans (if_pos rfl)
  | ends => exact hempty rfl (.refl g) (hg.alone ht rfl) ((hg.each j).busy t _ ht rfl).1
  | releases _ _ _ =>
    exact hg'.whole_of_busy ((calls_setCall _ _ _ _).trans (if_pos rfl)) rfl (by rintro _ _ _ ⟨⟩)
  | deletes x =>
    exact hg'.whole_of_busy ((calls_setCall _ _ _ _).trans (if_pos rfl)) rfl (by rintro _ _ _ ⟨⟩)

/-! ## Runs without loss -/

/-- A queue is gone when the stream has ended that its relay reads. -/
theorem Consistent.unqueued_of_ended {s : StreamId} {r : Relay} {x : Binding} (hg : g.Consistent)
    (hr : g.relays.get? s = some r) (hended : (g.broker.next s).1 = .ended) :
    g.broker.queues.get? r.identity.text ≠ some (x, s) := by
  intro hx
  obtain ⟨st, hst, -⟩ := Broker.queueOf?_eq_some.mp ((hg.each r.identity).relayed s r hr rfl).queue
  have hempty : st.waiting = [] := by
    have hnone := Broker.deliveriesAt_of_ended hended
    rwa [Broker.deliveriesAt, hst] at hnone
  have hfed := ((hg.broker.read _ x s hx).2 st hst).2
  simp only [Broker.next, hst, hempty, hfed, if_true, reduceCtorEq] at hended

/-- A gateway that nobody shuts down and whose broker has lost no queue. -/
structure Intact (g : Gateway) : Prop where
  consistent : g.Consistent
  serving : g.Serving
  opened : g.broker.closed = false
  whole : ∀ j, g.Whole j

/-- A relay does not come to its end while the queue that it reads is there. -/
theorem Intact.reads_on {s : StreamId} {r : Relay} (hg : g.Intact) (hr : g.relays.get? s = some r) :
    (g.broker.next s).1 ≠ .ended := by
  intro hended
  obtain ⟨-, ⟨c, hc, rfl⟩, -⟩ := (hg.consistent.each r.identity).relayed s r hr rfl
  exact hg.consistent.unqueued_of_ended hr hended ((hg.whole _).consumed c hc).1

theorem Intact.whole_aside (hg : g.Intact) (h : Aside g g')
    (hqueues : g'.broker.queues = g.broker.queues) (j : Identity) : g'.Whole j := by
  have hspared : g.Spares j g' → g'.Whole j := fun hs => (hg.whole j).elsewhere hs (by rw [hqueues])
  cases h with
  | visits h => exact hspared (h.spares j)
  | prunes h => exact hspared ((h.spares j).trans (.ofLocks _ _))
  | connects connId capacity => exact hspared (.connect hg.consistent.handled j connId capacity)
  | brokers hb => exact hspared (.brokerStep hb)
  | @relays s r _ hr hs =>
    cases hs with
    | delivers hnext => exact hspared (.delivers hnext r.identity j)
    | loses hended => exact absurd hended (hg.reads_on hr)

theorem Intact.whole_callStep (hg : g.Intact) {c : Call} (ht : g.calls.get? t = some c)
    (hs : CallStep g t c g') (j : Identity) : g'.Whole j := by
  have hcons := hg.consistent
  cases hs with
  | @bind p h stage _ hs =>
    by_cases hj : j = p.identity
    · exact hj ▸ hcons.whole_bindStep hg.serving.up (hg.whole _) ht hs
    · exact (hg.whole j).elsewhere (hcons.spares_bindStep ht hs hj)
        ((hcons.bindStep_within ht hs).queues j hj)
  | @unbind i connId stage _ hs =>
    by_cases hj : j = i
    · subst hj
      exact hcons.whole_unbindStep (hg.whole j) ht hs
    · exact (hg.whole j).elsewhere (hcons.spares_unbindStep ht hs hj)
        ((hcons.unbindStep_within ht hs).queues j hj)
  | shutdown _ => exact absurd ht (hg.serving.calls t _)

theorem Intact.opened_callStep (hg : g.Intact) {c : Call} (ht : g.calls.get? t = some c)
    (hs : CallStep g t c g') : g'.broker.closed = false := by
  cases hs with
  | bind hs =>
    exact (Broker.closed_of_refusal (hg.consistent.bindStep_within ht hs).refusal).trans hg.opened
  | unbind hs =>
    exact (Broker.closed_of_refusal (hg.consistent.unbindStep_within ht hs).refusal).trans hg.opened
  | shutdown _ => exact absurd ht (hg.serving.calls t _)

/-- Only calls and losses change the queues or close the broker. -/
theorem queues_of_act {a : Action} (ha : g.act? a = some g') (hcall : a.isCall = false)
    (hloss : a.isLoss = false) :
    g'.broker.queues = g.broker.queues ∧ g'.broker.closed = g.broker.closed := by
  cases a with
  | relay s =>
    obtain ⟨r, -, hs⟩ := relayStep_of_step ha
    rcases hs.broker with ⟨d, b, hnext, he⟩ | ⟨-, he⟩ <;> rw [he]
    · exact ⟨(Broker.refills_next hnext).queues, (Broker.refills_next hnext).closed⟩
    · exact ⟨rfl, rfl⟩
  | publish exchange key payload =>
    cases ha
    have hrefills := g.broker.refills_publish exchange key payload
    exact ⟨hrefills.queues, hrefills.closed⟩
  | take h =>
    cases ha
    rw [(ConnectionsOnly.take g h).rest]
    exact ⟨rfl, rfl⟩
  | sweep config =>
    cases ha
    obtain ⟨g₁, hg₁, he⟩ := ConnectionsOnly.sweep g config
    rw [he, prune, hg₁.rest]
    exact ⟨rfl, rfl⟩
  | bind p h => cases hcall
  | unbind i connId => cases hcall
  | advance t => cases hcall
  | shutdown => cases hcall
  | deleteQueue queue => cases hloss
  | closeBroker => cases hloss
  | _ =>
    cases ha
    exact ⟨rfl, rfl⟩

theorem intact_fresh (exchange : String) (refusing : Bool) :
    Intact { exchange, broker := { refusing } } where
  consistent := consistent_fresh exchange refusing
  serving := serving_fresh exchange refusing
  opened := rfl
  whole j := by
    refine ⟨fun c hc => ?_, fun t p h s ht => ?_, fun _ h hh => ?_⟩
    · cases hc
    · cases ht
    · cases hh

theorem Intact.act {a : Action} (hg : g.Intact) (ha : g.act? a = some g') (hloss : a.isLoss = false) :
    g'.Intact where
  consistent := hg.consistent.act ha
  serving := hg.serving.act hg.consistent ha fun he => by cases he ▸ hloss
  opened := by
    cases a with
    | bind p h =>
      obtain ⟨-, ha⟩ := Option.ite_none_right_eq_some.mp ha
      cases ha
      exact hg.opened
    | unbind i connId =>
      cases ha
      exact hg.opened
    | shutdown => cases hloss
    | advance t =>
      obtain ⟨c, ht, hs⟩ := callStep_of_step ha (hg.consistent.locking.isPublic t)
      exact hg.opened_callStep ht hs
    | _ => exact (queues_of_act ha rfl hloss).2.trans hg.opened
  whole j := by
    have hstart : ∀ c i, c.section? ≠ some j → ((g.start c).2.askLock g.nextTicket i).Whole j :=
      fun c i hc => (hg.whole j).elsewhere ((Spares.start hg.consistent.locking hc).trans (.ofLocks _ _)) rfl
    cases a with
    | bind p h =>
      obtain ⟨-, ha⟩ := Option.ite_none_right_eq_some.mp ha
      cases ha
      exact hstart _ _ (by rintro ⟨⟩)
    | unbind i connId =>
      cases ha
      exact hstart _ _ (by rintro ⟨⟩)
    | shutdown => cases hloss
    | advance t =>
      obtain ⟨c, ht, hs⟩ := callStep_of_step ha (hg.consistent.locking.isPublic t)
      exact hg.whole_callStep ht hs j
    | _ => exact hg.whole_aside (aside_of_act ha rfl) (queues_of_act ha rfl hloss).1 j

theorem Intact.run {as : List Action} (hg : g.Intact) (hrun : g.run as = some g') :
    (∀ a ∈ as, a.isLoss = false) → g'.Intact := by
  refine run_induction (P := fun as g' => (∀ a ∈ as, a.isLoss = false) → g'.Intact) (fun _ => hg)
    (fun as g₁ a g₂ _ ih ha hloss => ?_) hrun
  obtain ⟨has, hlast⟩ := List.forall_mem_append.mp hloss
  exact (ih has).act ha (hlast a List.mem_cons_self)

/-- At rest, the queue of whoever is registered is read for the connection. -/
theorem Intact.served (hg : g.Intact) (hsettled : g.Settled) (hrelays : ∀ s, g.relayReady s = false)
    (hreg : g.registry.get? j = some h) : ∃ c, g.Served j h c := by
  have hfree := hsettled.unsectioned j
  obtain ⟨c, hc⟩ := (hg.whole j).idle hfree h hreg
  obtain ⟨-, r, hr, hrj⟩ := (hg.whole j).consumed c hc
  have hquiet : g.Quiet := ⟨fun t stage hat => hg.serving.calls t stage hat.1, hrelays⟩
  exact ⟨c, hg.consistent.served ((hg.consistent.each j).idle hfree) hquiet hc hr hrj hreg⟩

end LocationRelay.Gateway
