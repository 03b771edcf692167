import LocationRelay.Proofs.Acknowledgement
import LocationRelay.Proofs.BindOutcome
import LocationRelay.Proofs.Eviction
import LocationRelay.Proofs.Quiescence
import LocationRelay.Proofs.Subscriptions
import LocationRelay.Proofs.Whole

/-! # Subscriptions that are lost

A relay whose stream has ended asks the connection for which the queue was opened to close, as it has lost its
subscription. This happens only when the broker has removed the queue of its own accord, and only to that
connection, whoever is registered for the identity by then.
-/
namespace LocationRelay

/-- A visit of a sweep asks nobody to close. -/
theorem Connection.requested_visited {maxMissed : Nat} {c : Connection} {reason : CloseReason}
    (h : (c.visited maxMissed).outbox.requested = some (.close reason)) :
    c.outbox.requested = some (.close reason) := by
  unfold visited at h
  dsimp only at h
  split at h
  · unfold Outbox.terminate Outbox.request at h
    split at h
    · cases h
    · cases h
    · exact h
  · cases ho : c.outbox.offer? .probe with
    | none => rwa [ho, Option.getD_none] at h
    | some o => rwa [ho, Option.getD_some, Outbox.requested_offer ho] at h

namespace Gateway

variable {g g₁ g₂ g' : Gateway} {t : Ticket} {c : Call} {p : Principal} {h : Handle}

/-! ## Who is told so -/

def Unlost (g g' : Gateway) : Prop :=
  ∀ k, g'.stopOf k = some (.close .subscriptionLost) → g.stopOf k = some (.close .subscriptionLost)

theorem Unlost.trans (h : g.Unlost g₁) (h' : g₁.Unlost g₂) : g.Unlost g₂ :=
  fun k hk => h k (h' k hk)

theorem Unlost.of_stopOf (h : ∀ k, g'.stopOf k = g.stopOf k) : g.Unlost g' :=
  fun k hk => (h k).symm.trans hk

theorem Unlost.adjust {f : Connection → Connection}
    (hf : ∀ c, (f c).outbox.requested = some (.close .subscriptionLost) →
      c.outbox.requested = some (.close .subscriptionLost)) : g.Unlost (g.adjust h f) := by
  intro k hk
  unfold stopOf connection? at hk ⊢
  simp only [Gateway.adjust, Table.get?_adjust] at hk
  split at hk
  · obtain ⟨c', hc', hlost⟩ := Option.bind_eq_some_iff.mp hk
    obtain ⟨c, hc, rfl⟩ := Option.map_eq_some_iff.mp hc'
    exact Option.bind_eq_some_iff.mpr ⟨c, hc, hf c hlost⟩
  · exact hk

theorem Unlost.close (g : Gateway) (h : Handle) {reason : CloseReason}
    (hreason : reason ≠ .subscriptionLost) : g.Unlost (g.close h reason) := by
  refine .adjust fun c hlost => ?_
  rw [Outbox.requested_close] at hlost
  cases hr : c.outbox.requested with
  | none =>
    rw [hr] at hlost
    cases hlost
    exact absurd rfl hreason
  | some s => rwa [hr] at hlost

theorem Unlost.terminate (g : Gateway) (h : Handle) : g.Unlost (g.terminate h) := by
  refine .adjust fun c hlost => ?_
  unfold Outbox.terminate Outbox.request at hlost
  dsimp only at hlost
  split at hlost
  · cases hlost
  · cases hlost
  · exact hlost

theorem Unlost.sweep (g : Gateway) (config : SweepConfig) : g.Unlost (g.sweep config).2 := by
  intro k hk
  unfold stopOf connection? at hk ⊢
  rw [get?_sweep] at hk
  obtain ⟨c', hc', hlost⟩ := Option.bind_eq_some_iff.mp hk
  obtain ⟨c, hc, rfl⟩ := Option.map_eq_some_iff.mp hc'
  refine Option.bind_eq_some_iff.mpr ⟨c, hc, ?_⟩
  generalize g.registry.entries.countP _ = n at hlost
  induction n with
  | zero => exact hlost
  | succ n ih =>
    rw [Function.iterate_succ_apply'] at hlost
    exact ih (Connection.requested_visited hlost)

theorem Unlost.registered (g : Gateway) (i : Identity) (h : Handle) :
    g.Unlost (g.registered i h) := by
  unfold Gateway.registered
  split
  · exact Unlost.close { g with registry := g.registry.insert i h } _ (by rintro ⟨⟩)
  · exact fun _ hk => hk

theorem Unlost.flagged (g : Gateway) : g.Unlost g.flagged := by
  have hfold : ∀ (es : List (Identity × Handle)) (g : Gateway),
      g.Unlost (es.foldl (fun g e => g.close e.2 .shutdown) g) := by
    intro es
    induction es with
    | nil => exact fun _ _ hk => hk
    | cons e es ih => exact fun g => (Unlost.close g e.2 (by rintro ⟨⟩)).trans (ih _)
  exact hfold g.registry.entries { g with shuttingDown := true }

/-- Whatever a call tears down, nobody is told that a subscription is lost. -/
theorem Unlost.callStep (hs : CallStep g t c g') : g.Unlost g' := by
  have hsame : g.Unlost g := fun _ hk => hk
  cases hs with
  | @bind p h stage _ hs =>
    have habandon : ∀ {reason} e, reason ≠ .subscriptionLost →
        g.Unlost (g.abandonBind t p h reason e) := by
      intro reason e hreason
      have hrel : g.Unlost (g.release p.identity h.connId).2 := by
        rcases release_eq g p.identity h.connId with he | he <;> rw [he] <;> exact hsame
      exact hrel.trans (.close _ h hreason)
    cases hs with
    | refused _ _ => exact .close g h (by rintro ⟨⟩)
    | evicts _ _ _ _ => exact .registered g p.identity h
    | clears _ _ _ _ => exact .registered g p.identity h
    | enters _ _ _ => exact .registered g p.identity h
    | fails e => exact habandon e (by rintro ⟨⟩)
    | gaveUp => exact habandon .closed (by rintro ⟨⟩)
    | _ => exact hsame
  | @unbind i connId stage _ hs => cases hs <;> exact hsame
  | @shutdown stage _ hs =>
    have hstop : ∀ {g₁ g' : Gateway} {is : List Identity}, StopStep g₁ t is g' → g₁.Unlost g' := by
      intro g₁ g' is hs
      cases hs <;> exact fun _ hk => hk
    cases hs with
    | begins _ hs => exact (Unlost.flagged g).trans (hstop hs)
    | goesOn is hs => exact hstop hs
    | _ => exact hsame

theorem stopOf_adjust {f : Connection → Connection}
    (hf : ∀ c, g.connection? h = some c → (f c).outbox.requested = c.outbox.requested) (k : Handle) :
    (g.adjust h f).stopOf k = g.stopOf k := by
  unfold stopOf connection?
  simp only [adjust, Table.get?_adjust]
  split
  · next he =>
    cases hc : g.connections.get? k.slot with
    | none => rfl
    | some c => exact hf c (by rw [connection?, ← he, hc])
  · rfl

theorem stopOf_offer (g : Gateway) (h : Handle) (q : Parcel) (k : Handle) :
    (g.offer h q).2.stopOf k = g.stopOf k := by
  unfold offer
  split
  · next o ho =>
    obtain ⟨c, hc, ho⟩ := Option.bind_eq_some_iff.mp ho
    refine stopOf_adjust (fun c' hc' => ?_) k
    cases hc.symm.trans hc'
    exact Outbox.requested_offer ho
  · rfl

theorem stopOf_delivers (g : Gateway) (b : Broker) (i : Identity) (d : Delivery) (k : Handle) :
    (relayDelivery { g with broker := b } i d).stopOf k = g.stopOf k := by
  change (forward { g with broker := b } i d.payload).2.stopOf k = _
  cases hreg : g.registry.get? i with
  | none =>
    rw [forward, hreg]
    rfl
  | some h =>
    rw [forward_registered (g := { g with broker := b }) hreg]
    exact stopOf_offer _ h _ k

/-- But for the relays, only somebody who asks for it makes a connection lose its subscription. -/
theorem Unlost.act {a : Action} (hg : g.Consistent) (ha : g.act? a = some g')
    (hrelay : ∀ s, a ≠ .relay s) (hclose : ∀ k, a ≠ .close k .subscriptionLost) : g.Unlost g' := by
  cases a with
  | connect connId capacity =>
    cases ha
    intro k hk
    unfold stopOf connection? at hk ⊢
    simp only [Gateway.connect, Table.get?_insert] at hk
    split at hk
    · cases hk
    · exact hk
  | bind p h =>
    obtain ⟨-, ha⟩ := Option.ite_none_right_eq_some.mp ha
    cases ha
    exact fun _ hk => hk
  | advance t =>
    obtain ⟨c, -, hs⟩ := callStep_of_step ha (hg.locking.isPublic t)
    exact .callStep hs
  | relay s => exact absurd rfl (hrelay s)
  | take h =>
    cases ha
    refine .of_stopOf fun k => ?_
    unfold take
    split
    · rfl
    · next c hc =>
      refine stopOf_adjust (fun c' hc' => ?_) k
      cases hc.symm.trans hc'
      exact Outbox.requested_take _ _
  | takeStop h =>
    cases ha
    exact .of_stopOf (stopOf_adjust fun _ _ => Outbox.requested_takeStop _)
  | dropHandle h =>
    cases ha
    exact .of_stopOf (stopOf_adjust fun _ _ => rfl)
  | dropOutbox h =>
    cases ha
    exact .of_stopOf (stopOf_adjust fun _ _ => rfl)
  | close h reason =>
    cases ha
    refine .close g h ?_
    rintro rfl
    exact hclose h rfl
  | terminate h => cases ha; exact .terminate g h
  | answer h =>
    cases ha
    exact .of_stopOf (stopOf_adjust fun _ _ => rfl)
  | sweep config => cases ha; exact .sweep g config
  | _ =>
    cases ha
    exact fun _ hk => hk

/-! ## Connections that stay registered -/

def givenBack (g : Gateway) : Action → List (Identity × Handle)
  | .advance t =>
    match g.calls.get? t with
    | some (.unbind i connId .waiting) =>
      ((g.registry.get? i).filter fun h => h.connId == connId).toList.map fun h => (i, h)
    | _ => []
  | _ => []

theorem ShutdownStep.registry {stage : ShutdownStage} (hs : ShutdownStep g t stage g') :
    g'.registry = g.registry := by
  have hstop : ∀ {g₁ g' : Gateway} {is : List Identity}, StopStep g₁ t is g' →
      g'.registry = g₁.registry := by
    intro g₁ g' is hs
    cases hs <;> rfl
  cases hs with
  | begins _ hs => rw [hstop hs, (connectionsOnly_flagged g).rest]
  | goesOn is hs => exact hstop hs
  | _ => rfl

/-- Only calls that go on register connections or remove registrations. -/
theorem registry_act {a : Action} (ha : g.act? a = some g') (hno : ∀ t, a ≠ .advance t) :
    g'.registry = g.registry := by
  cases a with
  | bind p h =>
    obtain ⟨-, ha⟩ := Option.ite_none_right_eq_some.mp ha
    cases ha
    rfl
  | unbind i connId => cases ha; rfl
  | shutdown => cases ha; rfl
  | advance t => exact absurd rfl (hno t)
  | _ =>
    cases aside_of_act ha rfl with
    | visits hv => rw [hv.rest]
    | prunes hv => rw [prune, hv.rest]
    | connects connId capacity => rfl
    | relays _ hs => exact hs.registrations.1
    | brokers _ => rfl

/-- A connection loses its registration to a newer one, by an unbind, or because its bind has failed; only
the unbind leaves it without a request to stop. -/
theorem Consistent.unregisters {i : Identity} (hg : g.Consistent) (ht : g.calls.get? t = some c)
    (hs : CallStep g t c g') (hreg : g.registry.get? i = some h) :
    g'.registry.get? i = some h ∨ g'.Stopped h ∨ c = .unbind i h.connId .waiting := by
  cases hs with
  | @bind q k stage _ hs =>
    by_cases hi : i = q.identity
    · subst hi
      have hsuperseded : (g.registered q.identity k).Stopped h := by
        rw [Stopped, stopOf_registered hg.handled hreg]
        exact Option.some_ne_none _
      have habandoned : stage ≠ .waiting → ∀ reason e, (g.abandonBind t q k reason e).Stopped h := by
        intro hstage reason e
        obtain ⟨hown, -⟩ := (hg.each q.identity).busy t _ ht (Call.section_bind hstage)
        cases hreg.symm.trans hown
        rw [abandonBind_eq hreg]
        exact stopped_close (g := g.unregistered q.identity) reason (hg.handled.registered _ h hreg)
      cases hs with
      | evicts _ _ _ _ => exact .inr (.inl hsuperseded)
      | clears _ _ _ _ => exact .inr (.inl hsuperseded)
      | enters _ _ _ => exact .inr (.inl hsuperseded)
      | fails e => exact .inr (.inl (habandoned (by rintro ⟨⟩) _ _))
      | gaveUp => exact .inr (.inl (habandoned (by rintro ⟨⟩) _ _))
      | _ => exact .inl hreg
    · exact .inl (((hg.bindStep_within ht hs).registry i hi).trans hreg)
  | @unbind j connId stage _ hs =>
    by_cases hi : i = j
    · subst hi
      have hcurrent : g.isCurrent i connId = true → h.connId = connId := by
        intro hcur
        simpa [isCurrent, hreg] using hcur
      cases hs with
      | releases _ hcur _ => exact .inr (.inr (by rw [hcurrent hcur]))
      | forgets _ hcur _ => exact .inr (.inr (by rw [hcurrent hcur]))
      | _ => exact .inl hreg
    · exact .inl (((hg.unbindStep_within ht hs).registry i hi).trans hreg)
  | shutdown hs => exact .inl (hs.registry ▸ hreg)

theorem Consistent.registered_run {i : Identity} {as : List Action} (hg : g.Consistent)
    (hreg : g.registry.get? i = some h) (hrun : g.run as = some g') :
    g'.registry.get? i = some h ∨ g'.Stopped h ∨ (i, h) ∈ noted givenBack g as := by
  refine run_induction (P := fun as g' =>
    g'.registry.get? i = some h ∨ g'.Stopped h ∨ (i, h) ∈ noted givenBack g as) (.inl hreg)
    (fun as g₁ a g₂ has ih ha => ?_) hrun
  have hg₁ := hg.run has
  have hstep := happening_of_act ha hg₁.locking.isPublic
  rw [noted_snoc _ has]
  rcases ih with hreg | hstop | hgiven
  · rcases hg₁.act_cases ha with ⟨t, c, rfl, ht, hs⟩ | hno
    · refine (hg₁.unregisters ht hs hreg).imp_right fun hleft => hleft.imp_right ?_
      rintro rfl
      exact List.mem_append_right _ (by simp [givenBack, ht, hreg])
    · exact .inl (registry_act ha hno ▸ hreg)
  · exact .inr (.inl ((Grows.happening hg₁.locking hg₁.handled hstep).stopped h hstop))
  · exact .inr (.inr (List.mem_append_left _ hgiven))

/-! ## Queues that are removed -/

/-- The broker removes the queue of a subscription of its own accord, while the connection for which it was
opened is registered. -/
structure Loses (g : Gateway) (e : Subscription) (a : Action) : Prop where
  registered : g.registry.get? e.identity = some e.owner
  stands : g.Stands e
  removed : a = .deleteQueue e.identity.text ∨ a = .closeBroker

def Lost (g : Gateway) (as : List Action) (e : Subscription) : Prop :=
  ∃ before a after g₁, as = before ++ a :: after ∧ g.run before = some g₁ ∧
    e ∈ noted subscribed g before ∧ g₁.Loses e a

theorem Lost.append {as : List Action} {e : Subscription} (hl : g.Lost as e) (bs : List Action) :
    g.Lost (as ++ bs) e := by
  obtain ⟨before, a, after, g₁, rfl, hbefore, he, hloses⟩ := hl
  exact ⟨before, a, after ++ bs, g₁, by simp, hbefore, he, hloses⟩

variable {exchange : String} {refusing : Bool} {as : List Action} {e f : Subscription}

/-- Of a connection that is bound once there is one bind, and that opens one queue. -/
theorem ticket_eq (hrun : run { exchange, broker := { refusing } } as = some g)
    (hnodup : ((binds as).map fun e => e.2.slot).Nodup)
    (he : e ∈ noted subscribed { exchange, broker := { refusing } } as)
    (hlog : (t, p, e.owner) ∈ noted asked { exchange, broker := { refusing } } as) : t = e.ticket := by
  obtain ⟨q, hasked, -⟩ := (recorded_of_run hrun).bound e he
  exact ticket_unique hrun hnodup hasked _ hlog rfl

theorem subscription_eq (hrun : run { exchange, broker := { refusing } } as = some g)
    (hnodup : ((binds as).map fun e => e.2.slot).Nodup)
    (he : e ∈ noted subscribed { exchange, broker := { refusing } } as)
    (hf : f ∈ noted subscribed { exchange, broker := { refusing } } as) (ho : f.owner = e.owner) :
    f = e := by
  have hrec := recorded_of_run hrun
  obtain ⟨q, hasked, -⟩ := hrec.bound f hf
  exact List.inj_on_of_nodup_map hrec.tickets hf he (ticket_eq hrun hnodup he (ho ▸ hasked))

/-- While nobody shuts the gateway down, no bind removes the queue of a connection that stays registered. -/
theorem Consistent.stands_bindStep {stage : BindStage} (hg : g.Consistent)
    (ht : g.calls.get? t = some (.bind p h stage)) (hs : BindStep g t p h stage g')
    (hup : g'.shuttingDown ≠ true) (hmine : h = e.owner → t = e.ticket)
    (hanswered : g.Answered e.ticket e.stream) (hold : g.registry.get? e.identity = some e.owner)
    (hreg : g'.registry.get? e.identity = some e.owner) (hstands : g.Stands e) : g'.Stands e := by
  have hdown : g.shuttingDown ≠ true := fun hdown =>
    hup ((Grows.happening hg.locking hg.handled (.goesOn ht (.bind hs))).shuttingDown hdown)
  by_cases hi : e.identity = p.identity
  · by_cases hstage : stage = .waiting
    · subst hstage
      have hother : (g.registered p.identity h).registry.get? e.identity ≠ some e.owner := by
        rw [registry_registered, if_pos hi]
        intro hk
        exact (hmine (Option.some.inj hk) ▸ hanswered).not_waiting ht
      cases hs with
      | refused _ hrefuses => exact absurd hrefuses hdown
      | _ => exact absurd hreg hother
    · obtain ⟨hown, -⟩ := (hg.each p.identity).busy t _ ht (Call.section_bind hstage)
      rw [hi, hown] at hold
      rw [← hmine (Option.some.inj hold)] at hanswered
      cases hanswered with
      | declared hu =>
        cases ht.symm.trans hu
        cases hs with
        | succeeds _ _ => exact hstands
        | retracts _ hretracts => exact absurd hretracts hdown
      | retracting hretracts _ => exact absurd hretracts hdown
      | retracted hretracts _ => exact absurd hretracts hdown
      | ended hu => cases ht.symm.trans hu
  · obtain ⟨x, hx⟩ := hstands
    exact ⟨x, ((hg.bindStep_within ht hs).queues _ hi).trans hx⟩

/-- An unbind removes no queue of a connection that it leaves registered. -/
theorem Consistent.stands_unbindStep {i : Identity} {connId : Nat} {stage : UnbindStage}
    (hg : g.Consistent) (ht : g.calls.get? t = some (.unbind i connId stage))
    (hs : UnbindStep g t i connId stage g') (hold : g.registry.get? e.identity = some e.owner)
    (hreg : g'.registry.get? e.identity = some e.owner) (hstands : g.Stands e) : g'.Stands e := by
  by_cases hi : e.identity = i
  · by_cases hstage : stage = .waiting
    · subst hstage
      have hgone : (g.unregistered i).registry.get? e.identity ≠ some e.owner := by
        rw [unregistered, Table.get?_erase, if_pos hi]
        rintro ⟨⟩
      cases hs with
      | stale _ _ => exact hstands
      | _ => exact absurd hreg hgone
    · obtain ⟨hnone, -⟩ := (hg.each i).busy t _ ht (Call.section_unbind hstage)
      rw [hi, hnone] at hold
      cases hold
  · obtain ⟨x, hx⟩ := hstands
    exact ⟨x, ((hg.unbindStep_within ht hs).queues _ hi).trans hx⟩

/-- No step of a call removes the queue of a connection that stays registered without being asked to stop. -/
theorem stands_callStep (hrun : run { exchange, broker := { refusing } } as = some g)
    (hnodup : ((binds as).map fun e => e.2.slot).Nodup)
    (he : e ∈ noted subscribed { exchange, broker := { refusing } } as)
    (ht : g.calls.get? t = some c) (hs : CallStep g t c g')
    (hreg : g'.registry.get? e.identity = some e.owner) (hopen : ¬ g'.Stopped e.owner) :
    g.registry.get? e.identity = some e.owner ∧ (g.Stands e → g'.Stands e) := by
  have hg : g.Consistent := (consistent_fresh exchange refusing).run hrun
  have hup : g'.shuttingDown ≠ true := fun hdown =>
    hopen ((hg.happening (.goesOn ht hs)).handled.flagged hdown _ _ hreg)
  have hanswered := (recorded_of_run hrun).answered e he
  have hmine : ∀ {q k stage}, c = .bind q k stage → k = e.owner → t = e.ticket := by
    rintro q _ stage rfl rfl
    exact ticket_eq hrun hnodup he ((ledger_of_run hrun).calls t q _ stage ht)
  have hold : g.registry.get? e.identity = some e.owner := by
    rcases hs.registry hreg with hold | ⟨q, stage, hc, -⟩
    · exact hold
    · -- The bind that has the connection registered would be the one that has opened its queue.
      subst hc
      exact ((hmine rfl rfl ▸ hanswered).not_waiting ht).elim
  refine ⟨hold, fun hstands => ?_⟩
  cases hs with
  | bind hs => exact hg.stands_bindStep ht hs hup (hmine rfl) hanswered hold hreg hstands
  | unbind hs => exact hg.stands_unbindStep ht hs hold hreg hstands
  | shutdown hs => exact absurd (hs.raises hg.phased ht) hup

/-- Other actions remove it only where the broker does so of its own accord. -/
theorem stands_act {a : Action} (ha : g.act? a = some g') (hno : ∀ t, a ≠ .advance t)
    (hs : g.Stands e) : g'.Stands e ∨ a = .deleteQueue e.identity.text ∨ a = .closeBroker := by
  obtain ⟨x, hx⟩ := hs
  cases a with
  | bind p h =>
    obtain ⟨-, ha⟩ := Option.ite_none_right_eq_some.mp ha
    cases ha
    exact .inl ⟨x, hx⟩
  | unbind i connId => cases ha; exact .inl ⟨x, hx⟩
  | shutdown => cases ha; exact .inl ⟨x, hx⟩
  | advance t => exact absurd rfl (hno t)
  | deleteQueue queue =>
    by_cases hq : e.identity.text = queue
    · exact .inr (.inl (by rw [hq]))
    · cases ha
      exact .inl ⟨x, by rw [deleteQueue, Broker.queues_unsubscribe, if_neg hq, hx]⟩
  | closeBroker => exact .inr (.inr rfl)
  | _ => exact .inl ⟨x, (queues_of_act ha rfl rfl).1 ▸ hx⟩

/-- The queue of a connection that is still registered and has not been asked to stop is there, unless the
broker has removed it of its own accord. -/
theorem standing_of_run (hrun : run { exchange, broker := { refusing } } as = some g) :
    ((binds as).map fun e => e.2.slot).Nodup →
      ∀ e ∈ noted subscribed { exchange, broker := { refusing } } as,
        g.registry.get? e.identity = some e.owner →
          g.Stopped e.owner ∨ g.Stands e ∨ Lost { exchange, broker := { refusing } } as e := by
  refine run_induction (P := fun as g => ((binds as).map fun e => e.2.slot).Nodup →
    ∀ e ∈ noted subscribed { exchange, broker := { refusing } } as,
      g.registry.get? e.identity = some e.owner →
        g.Stopped e.owner ∨ g.Stands e ∨ Lost { exchange, broker := { refusing } } as e)
    (fun _ e he => by cases he) (fun as g a g' has ih ha hnodup e he hreg => ?_) hrun
  replace hnodup := nodup_binds_of_append hnodup
  have hg : g.Consistent := (consistent_fresh exchange refusing).run has
  have hstep := happening_of_act ha hg.locking.isPublic
  refine or_iff_not_imp_left.mpr fun hopen => ?_
  have hopen₁ : ¬ g.Stopped e.owner := fun hstop =>
    hopen ((Grows.happening hg.locking hg.handled hstep).stopped _ hstop)
  rw [noted_snoc _ has] at he
  rcases hg.act_cases ha with ⟨t, c, rfl, ht, hs⟩ | hno
  · rcases List.mem_append.mp he with he | he
    · obtain ⟨hreg₁, hkeeps⟩ := stands_callStep has hnodup he ht hs hreg hopen
      exact ((ih hnodup e he hreg₁).resolve_left hopen₁).imp hkeeps (·.append _)
    · exact .inl (stands_of_subscribed hs ht he)
  · have hnone : subscribed g a = [] := by
      cases a <;> first | rfl | exact absurd rfl (hno _)
    rw [hnone, List.append_nil] at he
    have hreg₁ := registry_act ha hno ▸ hreg
    rcases (ih hnodup e he hreg₁).resolve_left hopen₁ with hstands | hlost
    · refine (stands_act ha hno hstands).imp_right fun hremoved => ?_
      exact ⟨as, a, [], g, rfl, has, he, hreg₁, hstands, hremoved⟩
    · exact .inr (hlost.append _)

/-- A relay reads the queue that was opened for the connection that is registered. -/
theorem relay_spec (hrun : run { exchange, broker := { refusing } } as = some g) {s : StreamId}
    {r : Relay} (hr : g.relays.get? s = some r) :
    ∃ e ∈ noted subscribed { exchange, broker := { refusing } } as, e.stream = s ∧
      e.identity = r.identity ∧ g.registry.get? r.identity = some e.owner ∧
      r.owner = some e.owner.connId := by
  have hg : g.Consistent := (consistent_fresh exchange refusing).run hrun
  obtain ⟨-, ⟨c, hc, rfl⟩, h, hreg, howner⟩ := (hg.each r.identity).relayed s r hr rfl
  obtain ⟨p, hp, -⟩ := ((hg.each r.identity).consumed c hc).binding
  rw [← hp] at hreg hc ⊢
  obtain ⟨e, he, hstream, hidentity, rfl⟩ := (recorded_of_run hrun).feeds p h c.stream (.serving hreg hc)
  exact ⟨e, he, hstream, hidentity, hreg, howner⟩

/-- The relay of a queue asks nobody to close but the connection for which the queue was opened. -/
theorem stopOf_relay (hrun : run { exchange, broker := { refusing } } as = some g)
    (he : e ∈ noted subscribed { exchange, broker := { refusing } } as)
    (ha : g.act? (.relay e.stream) = some g') {k : Handle} (hk : k.slot ≠ e.owner.slot) :
    g'.stopOf k = g.stopOf k := by
  obtain ⟨r, hr, hs⟩ := relayStep_of_step ha
  cases hs with
  | delivers _ => exact stopOf_delivers g _ _ _ k
  | loses _ =>
    obtain ⟨f, hf, hstream, -, hreg, howner⟩ := relay_spec hrun hr
    cases List.inj_on_of_nodup_map (recorded_of_run hrun).streams hf he hstream
    rw [loseSubscription_eq hreg howner]
    exact stopOf_congr (connections_close (g.unrelayed e.stream) e.owner _ hk)

/-- A relay that finds its stream at its end has lost a queue that the broker has removed. -/
theorem lost_of_relay (hrun : run { exchange, broker := { refusing } } as = some g)
    (hnodup : ((binds as).map fun e => e.2.slot).Nodup) {s : StreamId}
    (ha : g.act? (.relay s) = some g') {k : Handle}
    (htold : g'.stopOf k = some (.close .subscriptionLost))
    (hbefore : g.stopOf k ≠ some (.close .subscriptionLost)) :
    ∃ e, e.owner.slot = k.slot ∧ Lost { exchange, broker := { refusing } } as e := by
  have hg : g.Consistent := (consistent_fresh exchange refusing).run hrun
  obtain ⟨r, hr, hs⟩ := relayStep_of_step ha
  cases hs with
  | delivers _ => exact absurd ((stopOf_delivers g _ _ _ k).symm.trans htold) hbefore
  | loses hended =>
    obtain ⟨e, he, rfl, hidentity, hreg, howner⟩ := relay_spec hrun hr
    have hslot : k.slot = e.owner.slot := by
      by_contra hk
      exact hbefore ((stopOf_relay hrun he ha hk).symm.trans htold)
    have hsame : ∀ g : Gateway, g.stopOf k = g.stopOf e.owner := by
      intro g
      unfold stopOf connection?
      rw [hslot]
    refine ⟨e, hslot.symm, ?_⟩
    rcases standing_of_run hrun hnodup e he (hidentity ▸ hreg) with hstop | ⟨x, hx⟩ | hlost
    · -- Whoever was asked to stop before keeps the first request.
      obtain ⟨q, hq⟩ := Option.ne_none_iff_exists'.mp hstop
      have hopened : (g.unrelayed e.stream).Opened e.owner := hg.handled.registered _ _ hreg
      have hkept : (g.unrelayed e.stream).stopOf e.owner = some q := hq
      rw [loseSubscription_eq hreg howner, hsame, stopOf_close hopened, hkept] at htold
      rw [hsame, hq] at hbefore
      exact absurd htold hbefore
    · exact absurd (hidentity ▸ hx) (hg.unqueued_of_ended hr hended)
    · exact hlost

/-- The relay of the stream, if there is one, waits, and no bind is about to start it. -/
structure Waits (g : Gateway) (s : StreamId) : Prop where
  unready : g.relayReady s = false
  started : ∀ t c i, g.calls.get? t = some c → c.declared? ≠ some (i, s)

/-- A connection that is registered while its queue is gone and its relay waits has been asked to stop. -/
theorem stopped_of_gone (hrun : run { exchange, broker := { refusing } } as = some g)
    (hnodup : ((binds as).map fun e => e.2.slot).Nodup)
    (he : e ∈ noted subscribed { exchange, broker := { refusing } } as) (hgone : ¬ g.Stands e)
    (hwaits : g.Waits e.stream) (hreg : g.registry.get? e.identity = some e.owner) :
    g.Stopped e.owner := by
  have hg : g.Consistent := (consistent_fresh exchange refusing).run hrun
  have hrec := recorded_of_run hrun
  by_cases hbusy : ∃ t c, g.calls.get? t = some c ∧ c.section? = some e.identity
  · obtain ⟨t, c, ht, hc⟩ := hbusy
    have hfits := (hg.each e.identity).busy t c ht hc
    have hwanted := Call.wanted_of_section hc
    cases c with
    | bind q k stage =>
      have hidentity : q.identity = e.identity := Option.some.inj hwanted
      obtain ⟨hown, -⟩ := hfits
      rw [hidentity, hreg] at hown
      cases hown
      cases ticket_eq hrun hnodup he ((ledger_of_run hrun).calls t q _ stage ht)
      cases hrec.answered e he with
      | declared hu => exact absurd rfl (hwaits.started _ _ _ hu)
      | retracting hdown _ => exact hg.handled.flagged hdown _ _ hreg
      | retracted hdown _ => exact hg.handled.flagged hdown _ _ hreg
      | ended hu => cases ht.symm.trans hu
    | unbind i connId stage =>
      have hidentity : i = e.identity := Option.some.inj hwanted
      obtain ⟨hnone, -⟩ := hfits
      rw [hidentity, hreg] at hnone
      cases hnone
    | _ => cases hc
  · have hidle := (hg.each e.identity).idle fun t c ht hc => hbusy ⟨t, c, ht, hc⟩
    refine (hidle.registered _ hreg).resolve_right fun ⟨c, r, hc, hr, hri⟩ => hgone ?_
    obtain ⟨f, hf, hstream, -, hreg', -⟩ := relay_spec hrun hr
    rw [hri, hreg] at hreg'
    cases subscription_eq hrun hnodup he hf (Option.some.inj hreg').symm
    rw [← hstream] at hr
    obtain ⟨-, x, hx⟩ := hg.queue_of_unready hr hwaits.unready
    exact ⟨x, hri ▸ hx⟩

theorem Loses.gone {a : Action} (hl : g.Loses e a) (ha : g.act? a = some g') : ¬ g'.Stands e := by
  rintro ⟨x, hx⟩
  rcases hl.removed with rfl | rfl
  · cases ha
    rw [deleteQueue, Broker.queues_unsubscribe, if_pos rfl] at hx
    cases hx
  · cases ha
    cases hx

/-! ## Whole runs -/

/-- Whoever is told that the subscription is lost has lost the queue that was opened for it. -/
theorem lost_of_told (hrun : run { exchange, broker := { refusing } } as = some g) :
    ((binds as).map fun e => e.2.slot).Nodup → (∀ k, .close k .subscriptionLost ∉ as) →
      ∀ k, g.stopOf k = some (.close .subscriptionLost) →
        ∃ e, e.owner.slot = k.slot ∧ Lost { exchange, broker := { refusing } } as e := by
  refine run_induction (P := fun as g => ((binds as).map fun e => e.2.slot).Nodup →
    (∀ k, .close k .subscriptionLost ∉ as) → ∀ k, g.stopOf k = some (.close .subscriptionLost) →
      ∃ e, e.owner.slot = k.slot ∧ Lost { exchange, broker := { refusing } } as e)
    (fun _ _ k hk => by cases hk) (fun as g a g' has ih ha hnodup hasks k hk => ?_) hrun
  replace hnodup := nodup_binds_of_append hnodup
  have hg : g.Consistent := (consistent_fresh exchange refusing).run has
  have hfound : ∃ e, e.owner.slot = k.slot ∧ Lost { exchange, broker := { refusing } } as e := by
    by_cases hbefore : g.stopOf k = some (.close .subscriptionLost)
    · exact ih hnodup (fun k hk => hasks k (List.mem_append_left _ hk)) k hbefore
    · by_cases hrelay : ∃ s, a = .relay s
      · obtain ⟨s, rfl⟩ := hrelay
        exact lost_of_relay has hnodup ha hk hbefore
      · refine absurd (Unlost.act hg ha (fun s he => hrelay ⟨s, he⟩) (fun j he => ?_) k hk) hbefore
        exact hasks j (List.mem_append_right _ (List.mem_singleton.mpr he.symm))
  obtain ⟨e, hslot, hlost⟩ := hfound
  exact ⟨e, hslot, hlost.append _⟩

/-- A queue that the broker has removed does not come back. -/
theorem Loses.not_stands {a : Action} {before after : List Action} (hl : g₁.Loses e a)
    (hbefore : run { exchange, broker := { refusing } } before = some g₁)
    (he : e ∈ noted subscribed { exchange, broker := { refusing } } before)
    (hrest : g₁.run (a :: after) = some g) : ¬ g.Stands e := by
  have hg₁ : g₁.Consistent := (consistent_fresh exchange refusing).run hbefore
  obtain ⟨g₂, ha, hafter⟩ := run_cons_eq_some.mp hrest
  have hmade : e.stream < g₂.broker.fresh :=
    Nat.lt_of_lt_of_le ((recorded_of_run hbefore).made e he)
      (happening_of_act ha hg₁.locking.isPublic).adds.fresh
  exact ((hg₁.act ha).preserves (P := fun g => e.stream < g.broker.fresh ∧ ¬ g.Stands e)
    (fun _ ⟨hmade, hgone⟩ hstep => ⟨Nat.lt_of_lt_of_le hmade hstep.adds.fresh,
      hstep.not_stands hmade hgone⟩) hafter ⟨hmade, hl.gone ha⟩).2

/-- Once its relay waits, a connection that has lost its queue has been asked to stop, or was unbound. -/
theorem Loses.reaches {a : Action} {before after : List Action} (hl : g₁.Loses e a)
    (hbefore : run { exchange, broker := { refusing } } before = some g₁)
    (he : e ∈ noted subscribed { exchange, broker := { refusing } } before)
    (hrest : g₁.run (a :: after) = some g)
    (hnodup : ((binds (before ++ a :: after)).map fun e => e.2.slot).Nodup)
    (hwaits : g.Waits e.stream) :
    g.Stopped e.owner ∨ (e.identity, e.owner) ∈ noted givenBack g₁ (a :: after) := by
  have hg₁ : g₁.Consistent := (consistent_fresh exchange refusing).run hbefore
  have hopened : e ∈ noted subscribed { exchange, broker := { refusing } } (before ++ a :: after) := by
    rw [noted_append subscribed hbefore]
    exact List.mem_append_left _ he
  rcases hg₁.registered_run hl.registered hrest with hreg | hstop | hgiven
  · exact .inl (stopped_of_gone (run_append_eq_some.mpr ⟨g₁, hbefore, hrest⟩) hnodup hopened
      (hl.not_stands hbefore he hrest) hwaits hreg)
  · exact .inl hstop
  · exact .inr hgiven

/-- Any run in which every connection is bound once and nobody makes believe that a subscription is lost. A
connection is told so only if the broker has removed, while it was registered, the queue that was opened for it;
no step of a bind, of an unbind or of a shutdown tells anybody so. Once the relay of a removed queue waits, the
connection has been asked to stop or was unbound, and that relay asks nobody else to stop. -/
theorem subscription_loss (hrun : run { exchange, broker := { refusing } } as = some g)
    (hnodup : ((binds as).map fun e => e.2.slot).Nodup)
    (hasks : ∀ k, .close k .subscriptionLost ∉ as) :
    (∀ k, g.stopOf k = some (.close .subscriptionLost) →
      ∃ e, e.owner.slot = k.slot ∧ Lost { exchange, broker := { refusing } } as e) ∧
    (∀ t g', g.act? (.advance t) = some g' → ∀ k, g'.stopOf k = some (.close .subscriptionLost) →
      g.stopOf k = some (.close .subscriptionLost)) ∧
    (∀ before a after g₁ e, as = before ++ a :: after →
      run { exchange, broker := { refusing } } before = some g₁ →
      e ∈ noted subscribed { exchange, broker := { refusing } } before → g₁.Loses e a →
      g.Waits e.stream →
      g.Stopped e.owner ∨ (e.identity, e.owner) ∈ noted givenBack g₁ (a :: after)) ∧
    (∀ e ∈ noted subscribed { exchange, broker := { refusing } } as,
      ∀ g', g.act? (.relay e.stream) = some g' → ∀ k, k.slot ≠ e.owner.slot →
        g'.stopOf k = g.stopOf k) := by
  refine ⟨lost_of_told hrun hnodup hasks, fun t g' ha => ?_,
    fun before a after g₁ e has hbefore he hloses hwaits => ?_,
    fun e he g' ha k hk => stopOf_relay hrun he ha hk⟩
  · have hg : g.Consistent := (consistent_fresh exchange refusing).run hrun
    obtain ⟨c, -, hs⟩ := callStep_of_step ha (hg.locking.isPublic t)
    exact Unlost.callStep hs
  · subst has
    obtain ⟨g₁', hbefore', hrest⟩ := run_append_eq_some.mp hrun
    cases hbefore.symm.trans hbefore'
    exact hloses.reaches hbefore he hrest hnodup hwaits

theorem Sample.subscribed_superseded : noted subscribed {} Sample.superseded.dropLast =
    [⟨0, 0, ⟨"location.ada.phone"⟩, ⟨1, 0⟩⟩, ⟨1, 1, ⟨"location.ada.phone"⟩, ⟨2, 1⟩⟩] := rfl

theorem waits_of_entries {s : StreamId} (hunready : g.relayReady s = false)
    (hcalls : ∀ e ∈ g.calls.entries, e.2.declared? = none) : g.Waits s := by
  refine ⟨hunready, fun t c i ht => ?_⟩
  rw [hcalls _ ((Table.mem_entries_iff _).mpr ht)]
  rintro ⟨⟩

/-- The broker removes the queue of the second phone, which is told so when its relay has read what was left;
the first phone, which the second one has replaced, is not. -/
theorem subscription_loss_successor : ∃ g₁ g, ({} : Gateway).run Sample.superseded.dropLast = some g₁ ∧
    g₁.Loses ⟨1, 1, ⟨"location.ada.phone"⟩, ⟨2, 1⟩⟩ (.deleteQueue "location.ada.phone") ∧
    ({} : Gateway).run (Sample.superseded ++ [.relay 1, .relay 1]) = some g ∧ g.Waits 1 ∧
    g.stopOf ⟨2, 1⟩ = some (.close .subscriptionLost) ∧
    (∃ e, e.owner.slot = 1 ∧ Lost {} (Sample.superseded ++ [.relay 1, .relay 1]) e) ∧
    (g.Stopped ⟨2, 1⟩ ∨ (⟨"location.ada.phone"⟩, ⟨2, 1⟩) ∈
      noted givenBack g₁ [.deleteQueue "location.ada.phone", .relay 1, .relay 1]) ∧
    g.stopOf ⟨1, 0⟩ = some (.close .superseded) := by
  obtain ⟨g₁, hbefore⟩ := Option.isSome_iff_exists.mp
    (show (({} : Gateway).run Sample.superseded.dropLast).isSome = true by rfl)
  obtain ⟨g, hrun⟩ := Option.isSome_iff_exists.mp
    (show (({} : Gateway).run (Sample.superseded ++ [.relay 1, .relay 1])).isSome = true by rfl)
  have htold : g.stopOf ⟨2, 1⟩ = some (.close .subscriptionLost) :=
    run_shows hrun (stopOf · ⟨2, 1⟩) rfl
  have hspared : g.stopOf ⟨1, 0⟩ = some (.close .superseded) :=
    run_shows hrun (stopOf · ⟨1, 0⟩) rfl
  have hloses : g₁.Loses ⟨1, 1, ⟨"location.ada.phone"⟩, ⟨2, 1⟩⟩ (.deleteQueue "location.ada.phone") :=
    ⟨run_shows hbefore (fun g => g.registry.get? ⟨"location.ada.phone"⟩) rfl,
      ⟨_, run_shows hbefore (fun g => g.broker.queues.get? "location.ada.phone") rfl⟩, .inl rfl⟩
  have hcalls : (g.calls.entries.all fun e => e.2.declared?.isNone) = true :=
    run_shows hrun (fun g => g.calls.entries.all fun e => e.2.declared?.isNone) rfl
  have hwaits : g.Waits 1 := waits_of_entries (run_shows hrun (relayReady · 1) rfl) fun e he =>
    Option.isNone_iff_eq_none.mp (List.all_eq_true.mp hcalls e he)
  obtain ⟨honly, -, hreaches, -⟩ := subscription_loss hrun (by decide) (by simp [Sample.superseded])
  have hopened : (⟨1, 1, ⟨"location.ada.phone"⟩, ⟨2, 1⟩⟩ : Subscription) ∈
      noted subscribed {} Sample.superseded.dropLast := by simp [Sample.subscribed_superseded]
  exact ⟨g₁, g, hbefore, hloses, hrun, hwaits, htold, honly _ htold,
    hreaches Sample.superseded.dropLast _ _ g₁ _ rfl hbefore hopened hloses hwaits, hspared⟩

end Gateway
end LocationRelay
