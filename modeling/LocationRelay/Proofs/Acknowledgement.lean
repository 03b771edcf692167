import LocationRelay.Proofs.Accounting
import LocationRelay.Proofs.Consistency
import LocationRelay.Proofs.Outboxes

/-! # Every delivery is acknowledged once or torn down

A delivery that was put into a stream is handed to whoever is registered and acknowledged by one step of the
relay, or it is lost when the gateway tears the subscription down, or it still waits. When the broker
removes a queue, its relay goes on until the stream is read to the end, and only then counts the
subscription as lost.
-/
namespace LocationRelay.Gateway

open Text (Bytes)

variable {exchange : String} {refusing : Bool}

def accepted (g : Gateway) : Action → List (StreamId × Delivery)
  | .publish exchange key payload => g.broker.intake exchange key payload
  | _ => []

def acknowledged (g : Gateway) : Action → List (StreamId × Delivery)
  | .relay s =>
    match g.relays.get? s, (g.broker.next s).1 with
    | some _, .delivery d => [(s, d)]
    | _, _ => []
  | _ => []

def discarded (g : Gateway) (a : Action) : List (StreamId × Delivery) :=
  (g.act? a).elim [] fun g' => g.broker.lost g'.broker

/-- What becomes of the offer of a payload to an identity: at most one connection is touched. -/
inductive Offered (g : Gateway) (i : Identity) (payload : Bytes) (g' : Gateway) : Prop
  | nobody (hnone : g.registry.get? i = none) (hsame : g'.connections = g.connections)
  | refused {h : Handle} (hreg : g.registry.get? i = some h)
      (hfull : ∀ c, g.connection? h = some c → c.outbox.accepts = false)
      (hsame : g'.connections = g.connections)
  | forwarded {h : Handle} {c : Connection} (hreg : g.registry.get? i = some h)
      (hc : g.connection? h = some c) (hroom : c.outbox.accepts = true)
      (hqueued : g'.connections = (g.adjustOutbox h fun _ =>
        { c.outbox with queued := c.outbox.queued ++ [.payload payload] }).connections)

/-- A call goes on by tearing down the subscription of a queue, which was read through a stream. -/
inductive TearsDown (g : Gateway) (t : Ticket) (s : StreamId) (queue : String) (g' : Gateway) : Prop
  | consumer {i : Identity} {c : Consumer} (hc : g.consumers.get? i = some c) (hs : c.stream = s)
      (hqueue : c.binding.queue = queue) (hgone : g'.consumers.get? i = none)
  | retracted {p : Principal} {h : Handle}
      (ht : g.calls.get? t = some (.bind p h (.opening (.declared (.ok s)))))
      (hdown : g.shuttingDown = true) (hqueue : p.identity.text = queue)

/-! ## The books are balanced -/

theorem RelayStep.balances {g g' : Gateway} {s : StreamId} {r : Relay}
    (hr : g.relays.get? s = some r) (hs : RelayStep g s r g') :
    g.broker.Balances g'.broker [] (acknowledged g (.relay s)) := by
  rcases hs.broker with ⟨d, b, hnext, he⟩ | ⟨hended, he⟩ <;> rw [he]
  · have hack : acknowledged g (.relay s) = [(s, d)] := by simp only [acknowledged, hr, hnext]
    exact hack ▸ Broker.balances_next hnext
  · have hack : acknowledged g (.relay s) = [] := by simp only [acknowledged, hr, hended]
    exact hack ▸ (Broker.Keeps.discard g.broker s).balances

/-- An action that neither publishes nor lets a relay or a call go on leaves every stream there, with what
waits in it. -/
theorem still_of_act {g g' : Gateway} {a : Action} (ha : g.act? a = some g')
    (hadvance : ∀ t, a ≠ .advance t) (hrelay : ∀ s, a ≠ .relay s)
    (hpublish : ∀ exchange key payload, a ≠ .publish exchange key payload) :
    g.broker.Keeps g'.broker ∧ ∀ s, g'.broker.queueOf? s = g.broker.queueOf? s := by
  have hsame : g.broker.Keeps g.broker ∧ ∀ s, g.broker.queueOf? s = g.broker.queueOf? s :=
    ⟨.refl g.broker, fun _ => rfl⟩
  cases a with
  | bind p h =>
    obtain ⟨-, ha⟩ := Option.ite_none_right_eq_some.mp ha
    cases ha
    exact hsame
  | advance t => exact absurd rfl (hadvance t)
  | relay s => exact absurd rfl (hrelay s)
  | publish exchange key payload => exact absurd rfl (hpublish exchange key payload)
  | take h =>
    cases ha
    rw [(ConnectionsOnly.take g h).rest]
    exact hsame
  | sweep config =>
    cases ha
    obtain ⟨g₁, hg₁, he⟩ := ConnectionsOnly.sweep g config
    rw [he, hg₁.rest]
    exact hsame
  | refuse on => cases ha; exact ⟨.of_streams rfl rfl rfl, fun _ => rfl⟩
  | deleteQueue queue =>
    cases ha
    exact ⟨.unsubscribe g.broker queue, Broker.queueOf_unsubscribe g.broker queue⟩
  | closeBroker => cases ha; exact ⟨.close g.broker, Broker.queueOf_close g.broker⟩
  | _ => cases ha; exact hsame

theorem Consistent.balances {g g' : Gateway} {a : Action} (hg : g.Consistent)
    (ha : g.act? a = some g') :
    g.broker.Balances g'.broker (accepted g a) (acknowledged g a) := by
  cases a with
  | advance t =>
    obtain ⟨c, -, hs⟩ := callStep_of_step ha (hg.locking.isPublic t)
    exact (hs.used.keeps hg.broker).balances
  | relay s =>
    obtain ⟨r, hr, hs⟩ := relayStep_of_step ha
    exact hs.balances hr
  | publish exchange key payload =>
    cases ha
    exact hg.broker.balances_publish exchange key payload
  | _ =>
    refine (still_of_act ha ?_ ?_ ?_).1.balances
    · rintro _ ⟨⟩
    · rintro _ ⟨⟩
    · rintro _ _ _ ⟨⟩

theorem balanced_of_run {as : List Action} {g : Gateway}
    (hrun : run { exchange, broker := { refusing } } as = some g) :
    g.broker.Balanced (noted accepted { exchange, broker := { refusing } } as)
      (noted acknowledged { exchange, broker := { refusing } } as)
      (noted discarded { exchange, broker := { refusing } } as) := by
  refine run_induction (P := fun as g => g.broker.Balanced
    (noted accepted { exchange, broker := { refusing } } as)
    (noted acknowledged { exchange, broker := { refusing } } as)
    (noted discarded { exchange, broker := { refusing } } as))
    (Broker.balanced_fresh refusing) (fun as g a g' has ih ha => ?_) hrun
  have hg := (consistent_fresh exchange refusing).run has
  rw [noted_snoc _ has, noted_snoc _ has, noted_snoc _ has]
  have hstep := ih.step hg.broker (hg.balances ha)
  rwa [discarded, ha]

/-! ## Offers -/

theorem offered_forward (g : Gateway) (b : Broker) (i : Identity) (d : Delivery) :
    g.Offered i d.payload (relayDelivery { g with broker := b } i d) := by
  have hconn : (relayDelivery { g with broker := b } i d).connections =
      (forward { g with broker := b } i d.payload).2.connections := rfl
  cases hreg : g.registry.get? i with
  | none =>
    refine .nobody hreg ?_
    rw [hconn, forward, hreg]
  | some h =>
    rw [forward_registered (g := { g with broker := b }) hreg] at hconn
    cases hc : g.connection? h with
    | none =>
      refine .refused hreg (fun c hc' => ?_) ?_
      · rw [hc] at hc'
        cases hc'
      · rw [hconn, offer, show connection? { g with broker := b } h = none from hc]
        rfl
    | some c =>
      have hbind : ((connection? { g with broker := b } h).bind fun c =>
          c.outbox.offer? (.payload d.payload)) = c.outbox.offer? (.payload d.payload) := by
        rw [show connection? { g with broker := b } h = some c from hc, Option.bind_some]
      rw [offer, hbind, Outbox.offer?] at hconn
      by_cases hroom : c.outbox.accepts = true
      · rw [if_pos hroom] at hconn
        exact .forwarded hreg hc hroom hconn
      · rw [if_neg hroom] at hconn
        refine .refused hreg (fun c' hc' => ?_) hconn
        cases hc.symm.trans hc'
        simpa using hroom

/-- Every action acknowledges nothing and forwards nothing, or is the step of a relay that acknowledges one
delivery and offers it to whoever is registered. -/
theorem Consistent.acknowledges {g g' : Gateway} {a : Action} (hg : g.Consistent)
    (ha : g.act? a = some g') :
    (acknowledged g a = [] ∧ ∀ slot, appended slot g a = []) ∨
      ∃ s r d, a = .relay s ∧ g.relays.get? s = some r ∧ acknowledged g a = [(s, d)] ∧
        g.Offered r.identity d.payload g' := by
  by_cases hrelay : ∃ s, a = .relay s
  · obtain ⟨s, rfl⟩ := hrelay
    obtain ⟨r, hr, hs⟩ := relayStep_of_step ha
    cases hs with
    | @delivers d b hnext =>
      exact .inr ⟨s, r, d, rfl, hr, by simp only [acknowledged, hr, hnext], offered_forward g b _ d⟩
    | loses hnext =>
      refine .inl ⟨by simp only [acknowledged, hr, hnext], fun slot => ?_⟩
      rcases appended_relay ha hr slot with hnil | ⟨d, b, h, hdelivery, -⟩
      · exact hnil
      · rw [hdelivery] at hnext
        cases hnext
  · have hno : ∀ s, a ≠ .relay s := fun s he => hrelay ⟨s, he⟩
    refine .inl ⟨?_, appended_other ha hg.locking.isPublic hno⟩
    cases a with
    | relay s => exact absurd rfl (hno s)
    | _ => rfl

/-! ## Tearing down -/

theorem stream_of_detached {g : Gateway} {i : Identity} {c : Consumer} {s : StreamId}
    (hin : g.broker.queueOf? s ≠ none) (hout : (g.detached i c).broker.queueOf? s = none) :
    c.stream = s := by
  unfold detached at hout
  dsimp only at hout
  split at hout
  · rw [Broker.queueOf_discard] at hout
    split at hout
    · next he => exact he.symm
    · exact absurd hout hin
  · exact absurd hout hin

/-- A call makes a stream disappear only by stopping the consumer that reads it. -/
theorem Consistent.tearsDown {g g' : Gateway} (hg : g.Consistent) {t : Ticket} {c : Call}
    (ht : g.calls.get? t = some c) (hs : CallStep g t c g') {s : StreamId} {q : String}
    (hin : g.broker.queueOf? s = some q) (hout : g'.broker.queueOf? s = none) :
    g.TearsDown t s q g' := by
  have hstay : ∀ {b : Broker}, b.queueOf? s = g.broker.queueOf? s → b.queueOf? s ≠ none :=
    fun h hn => Option.some_ne_none q (hin.symm.trans (h.symm.trans hn))
  have hconsumer : ∀ (g₁ : Gateway) {i : Identity} {c : Consumer}, g.consumers.get? i = some c →
      g₁.broker = g.broker → g'.consumers = g₁.consumers.erase i →
      (g₁.detached i c).broker.queueOf? s = none → g.TearsDown t s q g' := by
    intro g₁ i c hc hb hgone hout
    have hstream := stream_of_detached (hb ▸ hstay rfl) hout
    have hserves := (hg.each i).consumed c hc
    refine .consumer hc hstream (hserves.named.trans (hserves.queue q (hstream ▸ hin)).symm) ?_
    rw [hgone, Table.get?_erase, if_pos rfl]
  cases hs with
  | @bind p h stage _ hs =>
    have habandon : ∀ reason e, (g.abandonBind t p h reason e).broker = g.broker := by
      intro reason e
      change (g.release p.identity h.connId).2.broker = g.broker
      rcases release_eq g p.identity h.connId with he | he <;> rw [he]
      rfl
    cases hs with
    | evicts _ _ _ hc => exact hconsumer _ hc (broker_registered g _ h) rfl hout
    | clears _ _ _ hc => exact hconsumer _ hc (broker_registered g _ h) rfl hout
    | finds hc => exact hconsumer g hc rfl rfl hout
    | retracts s' hdown =>
      obtain ⟨-, -, hqueue, -⟩ := (hg.each p.identity).busy t _ ht rfl
      cases stream_of_detached (g := g.attach p.identity _ s') (i := p.identity) (hstay rfl) hout
      exact .retracted ht hdown (Option.some.inj (hqueue.symm.trans hin))
    | enters _ _ _ => exact absurd hout (hstay (congrArg (·.queueOf? s) (broker_registered g _ h)))
    | fails e => exact absurd hout (hstay (congrArg (·.queueOf? s) (habandon _ e)))
    | gaveUp => exact absurd hout (hstay (congrArg (·.queueOf? s) (habandon _ _)))
    | evicted x => exact absurd hout (hstay (Broker.queueOf_unsubscribe _ _ _))
    | cleared x => exact absurd hout (hstay (Broker.queueOf_unsubscribe _ _ _))
    | retracted x => exact absurd hout (hstay (Broker.queueOf_unsubscribe _ _ _))
    | declares =>
      exact absurd hout (hstay ((hg.broker.queueOf_subscribe _ hin).trans hin.symm))
    | _ => exact absurd hout (hstay rfl)
  | @unbind i connId stage _ hs =>
    cases hs with
    | releases _ _ hc => exact hconsumer (g.unregistered i) hc rfl rfl hout
    | deletes x => exact absurd hout (hstay (Broker.queueOf_unsubscribe _ _ _))
    | _ => exact absurd hout (hstay rfl)
  | @shutdown stage _ hs =>
    have hstop : ∀ {g₁ : Gateway} {is : List Identity}, g₁.broker = g.broker →
        g₁.consumers = g.consumers → StopStep g₁ t is g' → g.TearsDown t s q g' := by
      intro g₁ is hb hcons hs
      cases hs with
      | none_left _ _ => exact absurd hout (hstay (congrArg (·.queueOf? s) hb))
      | stops _ _ _ hc => exact hconsumer g₁ (hcons ▸ hc) hb rfl hout
    cases hs with
    | begins _ hs =>
      have hrest := (connectionsOnly_flagged g).rest
      exact hstop (by rw [hrest]) (by rw [hrest]) hs
    | goesOn is hs => exact hstop rfl rfl hs
    | deletes x is => exact absurd hout (hstay (Broker.queueOf_unsubscribe _ _ _))
    | disconnects => exact absurd hout (hstay (Broker.queueOf_close _ _))
    | again _ => exact absurd hout (hstay rfl)

/-- Deliveries are lost only where a call tears their subscription down. -/
theorem Consistent.discards {g g' : Gateway} {a : Action} (hg : g.Consistent)
    (hstamped : g.broker.Stamped) (ha : g.act? a = some g') {s : StreamId} {d : Delivery}
    (hd : (s, d) ∈ discarded g a) : ∃ t, a = .advance t ∧ g.TearsDown t s d.queue g' := by
  rw [discarded, ha, Option.elim_some] at hd
  obtain ⟨hd, hout⟩ := Broker.mem_lost.mp hd
  obtain ⟨st, hst, hwaits⟩ := Broker.mem_deliveriesAt.mp hd
  have hin : g.broker.queueOf? s = some d.queue :=
    Broker.queueOf?_eq_some.mpr ⟨st, hst, (hstamped s st hst d hwaits).symm⟩
  have hout : g'.broker.queueOf? s = none := Option.map_eq_none_iff.mpr hout
  have hstays : g'.broker.queueOf? s ≠ g.broker.queueOf? s := by
    rw [hout, hin]
    exact (Option.some_ne_none _).symm
  cases a with
  | advance t =>
    obtain ⟨c, ht, hs⟩ := callStep_of_step ha (hg.locking.isPublic t)
    exact ⟨t, rfl, hg.tearsDown ht hs hin hout⟩
  | relay r =>
    obtain ⟨_, -, hs⟩ := relayStep_of_step ha
    rcases hs.broker with ⟨e, b, hnext, he⟩ | ⟨hended, he⟩ <;> rw [he] at hstays
    · exact absurd (((Broker.refills_next hnext).ack e).queueOf s) hstays
    · -- The stream of a relay that has come to its end is read to the end.
      refine absurd ((Broker.queueOf_discard _ _ _).trans (if_neg ?_)) hstays
      rintro rfl
      rw [Broker.deliveriesAt_of_ended hended] at hd
      cases hd
  | publish exchange key payload =>
    cases ha
    exact absurd ((g.broker.refills_publish exchange key payload).queueOf s) hstays
  | _ =>
    refine absurd ((still_of_act ha ?_ ?_ ?_).2 s) hstays
    · rintro _ ⟨⟩
    · rintro _ ⟨⟩
    · rintro _ _ _ ⟨⟩

/-! ## Reading a stream to its end -/

theorem relays_relayDelivery (g : Gateway) (i : Identity) (d : Delivery) :
    (g.relayDelivery i d).relays = g.relays := by
  change (g.forward i d.payload).2.relays = g.relays
  rw [(ConnectionsOnly.forward g i d.payload).rest]

theorem broker_relayDelivery (g : Gateway) (i : Identity) (d : Delivery) :
    (g.relayDelivery i d).broker = g.broker.ack d := by
  change (g.forward i d.payload).2.broker.ack d = g.broker.ack d
  rw [(ConnectionsOnly.forward g i d.payload).rest]

theorem relay_reads {g : Gateway} {s : StreamId} {r : Relay} {st : Stream} {d : Delivery}
    {rest : List Delivery} (hr : g.relays.get? s = some r)
    (hst : g.broker.streams.get? s = some st) (hw : st.waiting = d :: rest) :
    ∃ g', g.act? (.relay s) = some g' ∧ acknowledged g (.relay s) = [(s, d)] ∧
      g'.relays.get? s = some r ∧
      g'.broker.streams.get? s = some { st with waiting := rest } := by
  have hnext : g.broker.next s = (.delivery d,
      { g.broker with streams := g.broker.streams.insert s { st with waiting := rest } }) := by
    simp only [Broker.next, hst, hw]
  refine ⟨_, by rw [act?, relayStep?, hr, Option.bind_eq_bind, Option.bind_some, hnext],
    by simp only [acknowledged, hr, hnext], ?_, ?_⟩
  · rw [relays_relayDelivery]
    exact hr
  · rw [broker_relayDelivery]
    exact (Table.get?_insert ..).trans (if_pos rfl)

theorem relay_ends {g : Gateway} {s : StreamId} {r : Relay} {st : Stream}
    (hr : g.relays.get? s = some r) (hst : g.broker.streams.get? s = some st) (hw : st.waiting = [])
    (hfed : st.fed = false) : ∃ g', g.act? (.relay s) = some g' ∧ g'.relays.get? s = none := by
  have hnext : g.broker.next s = (.ended, g.broker) := by
    simp only [Broker.next, hst, hw, hfed, Bool.false_eq_true, if_false]
  refine ⟨_, by rw [act?, relayStep?, hr, Option.bind_eq_bind, Option.bind_some, hnext], ?_⟩
  rw [(ConnectionsOnly.loseSubscription g s r).rest]
  exact (Table.get?_erase ..).trans (if_pos rfl)

/-- A relay whose queue is gone acknowledges what is left, in its order, and then stops. -/
theorem relay_drains {s : StreamId} {r : Relay} (ds : List Delivery) {g : Gateway} {st : Stream}
    (hr : g.relays.get? s = some r) (hst : g.broker.streams.get? s = some st) (hw : st.waiting = ds)
    (hfed : st.fed = false) :
    ∃ g₁ g₂, g.run (List.replicate ds.length (.relay s)) = some g₁ ∧
      noted acknowledged g (List.replicate ds.length (.relay s)) = ds.map (fun d => (s, d)) ∧
      g₁.act? (.relay s) = some g₂ ∧ g₂.relays.get? s = none := by
  induction ds generalizing g st with
  | nil =>
    obtain ⟨g₂, ha, hgone⟩ := relay_ends hr hst hw hfed
    exact ⟨g, g₂, rfl, rfl, ha, hgone⟩
  | cons d ds ih =>
    obtain ⟨g', ha, hack, hr', hst'⟩ := relay_reads hr hst hw
    obtain ⟨g₁, g₂, hrun, hnoted, hend⟩ := ih hr' hst' rfl hfed
    refine ⟨g₁, g₂, run_cons_eq_some.mpr ⟨g', ha, hrun⟩, ?_, hend⟩
    simp only [List.length_cons, List.replicate_succ, noted, hack, ha, Option.elim_some, hnoted,
      List.map_cons, List.singleton_append]

/-- A relay that stops of its own accord has read its stream to the end. -/
theorem ended_of_stops {g g' : Gateway} {s : StreamId} (ha : g.act? (.relay s) = some g')
    (hstop : g'.relays.get? s = none) : (g.broker.next s).1 = .ended := by
  obtain ⟨r, hr, hs⟩ := relayStep_of_step ha
  cases hs with
  | loses hended => exact hended
  | @delivers d b _ =>
    rw [relays_relayDelivery] at hstop
    cases hr.symm.trans hstop

/-- A relay whose stream no queue feeds. -/
theorem Consistent.unfed {g : Gateway} (hg : g.Consistent) {s : StreamId} {r : Relay}
    (hr : g.relays.get? s = some r) (hno : ∀ q x, g.broker.queues.get? q ≠ some (x, s)) :
    ∃ st, g.broker.streams.get? s = some st ∧ st.fed = false := by
  obtain ⟨st, hst, -⟩ := Broker.queueOf?_eq_some.mp ((hg.each r.identity).relayed s r hr rfl).queue
  refine ⟨st, hst, Bool.eq_false_iff.mpr fun hfed => ?_⟩
  obtain ⟨x, hx⟩ := (hg.broker.fed s st hst).2 hfed
  exact hno _ x hx

/-! ## The whole run -/

/-- In every state that a run reaches, the deliveries of a queue that were ever put into its streams are
those acknowledged, those that still wait and those lost, and so they are, in order, on every stream. Every
action acknowledges at most one delivery, which it offers to at most one connection, and loses deliveries
only where it tears down their subscription. A subscription counts as lost only when everything that was put
into its stream has been acknowledged, which its relay comes to by its own steps. -/
theorem acknowledgements_balance {as : List Action} {g : Gateway}
    (hrun : run { exchange, broker := { refusing } } as = some g) :
    let put := noted accepted { exchange, broker := { refusing } } as
    let acked := noted acknowledged { exchange, broker := { refusing } } as
    let dropped := noted discarded { exchange, broker := { refusing } } as
    (∀ q, countFor q put = g.broker.ackedFor q + g.broker.heldFor q + countFor q dropped) ∧
    (∀ q, g.broker.ackedFor q = countFor q acked) ∧
    (∀ s, onStream s put = onStream s acked ++ onStream s dropped ++ g.broker.deliveriesAt s) ∧
    (∀ a g', g.act? a = some g' → (acknowledged g a = [] ∧ ∀ slot, appended slot g a = []) ∨
      ∃ s r d, a = .relay s ∧ g.relays.get? s = some r ∧ acknowledged g a = [(s, d)] ∧
        g.Offered r.identity d.payload g') ∧
    (∀ a g' s d, g.act? a = some g' → (s, d) ∈ discarded g a →
      ∃ t, a = .advance t ∧ g.TearsDown t s d.queue g') ∧
    (∀ s g', g.act? (.relay s) = some g' → g'.relays.get? s = none →
      onStream s put = onStream s acked ∧ onStream s dropped = []) ∧
    (∀ s r, g.relays.get? s = some r → (∀ q x, g.broker.queues.get? q ≠ some (x, s)) →
      ∃ g₁ g₂, g.run (List.replicate (g.broker.deliveriesAt s).length (.relay s)) = some g₁ ∧
        noted acknowledged g (List.replicate (g.broker.deliveriesAt s).length (.relay s)) =
          (g.broker.deliveriesAt s).map (fun d => (s, d)) ∧
        g₁.act? (.relay s) = some g₂ ∧ g₂.relays.get? s = none) := by
  have hg := (consistent_fresh exchange refusing).run hrun
  have hb := balanced_of_run hrun
  refine ⟨hb.count, hb.acked, hb.streams, fun a g' => hg.acknowledges,
    fun a g' s d ha hd => hg.discards hb.stamped ha hd, fun s g' ha hstop => ?_, fun s r hr hno => ?_⟩
  · have hended := ended_of_stops ha hstop
    obtain ⟨r, hr, -⟩ := relayStep_of_step ha
    obtain ⟨st, hst, -⟩ := Broker.queueOf?_eq_some.mp ((hg.each r.identity).relayed s r hr rfl).queue
    have hkept := hb.none_lost (s := s) (by rw [hst]; exact Option.some_ne_none st)
    refine ⟨?_, hkept⟩
    rw [hb.streams, hkept, Broker.deliveriesAt_of_ended hended, List.append_nil, List.append_nil]
  · obtain ⟨st, hst, hfed⟩ := hg.unfed hr hno
    have hwaits : g.broker.deliveriesAt s = st.waiting := by rw [Broker.deliveriesAt, hst]; rfl
    rw [hwaits]
    exact relay_drains st.waiting hr hst rfl hfed

/-- A connection that takes one payload gets three, is superseded before all of them are relayed, and its
successor loses the queue to the broker with one more payload in it. -/
def Sample.superseded : List Action :=
  [.connect 1 1, .connect 2 4, .bind ⟨⟨"ada", by decide⟩, ⟨"phone", by decide⟩⟩ ⟨1, 0⟩, .advance 0,
    .advance 0, .advance 0, .publish defaultExchange "location.ada.watch" [1],
    .publish defaultExchange "location.ada.watch" [2],
    .publish defaultExchange "location.ada.watch" [3], .relay 0, .relay 0,
    .bind ⟨⟨"ada", by decide⟩, ⟨"phone", by decide⟩⟩ ⟨2, 1⟩, .advance 1, .advance 1, .advance 1,
    .advance 1, .advance 1, .publish defaultExchange "location.ada.watch" [4],
    .deleteQueue "location.ada.phone"]

/-- Of its four deliveries one is forwarded, one is refused by the full outbox, one is lost with the first
subscription, and the last is still relayed after the broker has removed the queue. -/
theorem acknowledgements_balance_superseded :
    ∃ g g₁ g₂, ({} : Gateway).run Sample.superseded = some g ∧
      countFor "location.ada.phone" (noted accepted {} Sample.superseded) =
        g.broker.ackedFor "location.ada.phone" + g.broker.heldFor "location.ada.phone" +
          countFor "location.ada.phone" (noted discarded {} Sample.superseded) ∧
      g.broker.ackedFor "location.ada.phone" = 2 ∧ g.broker.heldFor "location.ada.phone" = 1 ∧
      countFor "location.ada.phone" (noted discarded {} Sample.superseded) = 1 ∧
      g.run [.relay 1] = some g₁ ∧ noted acknowledged g [.relay 1] =
        [(1, ⟨"location.ada.phone", "location.ada.watch", [4]⟩)] ∧
      g₁.act? (.relay 1) = some g₂ ∧ g₂.relays.get? 1 = none := by
  obtain ⟨g, hrun⟩ := Option.isSome_iff_exists.mp
    (show (({} : Gateway).run Sample.superseded).isSome = true by rfl)
  have hacked : g.broker.ackedFor "location.ada.phone" = 2 :=
    run_shows hrun (fun g => g.broker.ackedFor "location.ada.phone") rfl
  have hheld : g.broker.heldFor "location.ada.phone" = 1 :=
    run_shows hrun (fun g => g.broker.heldFor "location.ada.phone") rfl
  have hrelay : g.relays.get? 1 = some ⟨⟨"location.ada.phone"⟩, some 2⟩ :=
    run_shows hrun (fun g => g.relays.get? 1) rfl
  have hwaits : g.broker.deliveriesAt 1 = [⟨"location.ada.phone", "location.ada.watch", [4]⟩] :=
    run_shows hrun (fun g => g.broker.deliveriesAt 1) rfl
  have hqueues : g.broker.queues.entries = [] :=
    run_shows hrun (fun g => g.broker.queues.entries) rfl
  obtain ⟨hcount, -, -, -, -, -, hdrains⟩ := acknowledgements_balance hrun
  obtain ⟨g₁, g₂, hread, hnoted, hend⟩ := hdrains 1 _ hrelay fun q x hq => by
    rw [Table.get?, hqueues] at hq
    cases hq
  rw [hwaits] at hread hnoted
  exact ⟨g, g₁, g₂, hrun, hcount _, hacked, hheld, rfl, hread, hnoted, hend⟩

end LocationRelay.Gateway
