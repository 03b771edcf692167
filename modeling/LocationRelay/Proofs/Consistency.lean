import LocationRelay.Proofs.BrokerUse

/-! # Registrations, consumers, relays and queues fit together

While a call works on an identity, the identity has no consumer, and the call knows whether there is a
queue. When no call works on it, a queue has its consumer unless a shutdown is about to delete it, and a
registered connection has its queue relayed unless it has been told to stop. Steps at other identities
do not matter, so that every step has to be looked at for one identity only.
-/
namespace LocationRelay

def BindStage.Fits (b : Broker) (own : Binding) : BindStage → Prop
  | .waiting => True
  | .evicting x | .opening (.clearing x) | .retracting x => x.queue = own.queue
  | .opening .begin | .opening .declaring | .opening (.declared (.error _)) | .retracted =>
    b.queues.get? own.queue = none
  | .opening (.declared (.ok s)) =>
    b.queueOf? s = some own.queue ∧ ∀ e, b.queues.get? own.queue = some e → e = (own, s)

def UnbindStage.Fits (b : Broker) (queue : String) : UnbindStage → Prop
  | .waiting => True
  | .deleting x => x.queue = queue
  | .deleted => b.queues.get? queue = none

theorem Broker.Spares.absent {q : String} {b b' : Broker} (h : b.Spares q b')
    (hnone : b.queues.get? q = none) : b'.queues.get? q = none := by
  refine Option.eq_none_iff_forall_ne_some.mpr fun e he => ?_
  rw [h.queue e he] at hnone
  cases hnone

theorem BindStage.Fits.spares {b b' : Broker} {own : Binding} {stage : BindStage}
    (hfits : stage.Fits b own) (h : b.Spares own.queue b') : stage.Fits b' own := by
  cases stage with
  | waiting => trivial
  | evicting x => exact hfits
  | opening o =>
    cases o with
    | «begin» => exact h.absent hfits
    | clearing x => exact hfits
    | declaring => exact h.absent hfits
    | declared answer =>
      cases answer with
      | error e => exact h.absent hfits
      | ok s => exact ⟨h.kept s hfits.1, fun e he => hfits.2 e (h.queue e he)⟩
  | retracting x => exact hfits
  | retracted => exact h.absent hfits

theorem UnbindStage.Fits.spares {b b' : Broker} {queue : String} {stage : UnbindStage}
    (hfits : stage.Fits b queue) (h : b.Spares queue b') : stage.Fits b' queue := by
  cases stage with
  | waiting => trivial
  | deleting x => exact hfits
  | deleted => exact h.absent hfits

namespace Gateway

def Fits (g : Gateway) : Call → Prop
  | .bind p h stage => g.registry.get? p.identity = some h ∧ g.consumers.get? p.identity = none ∧
    stage.Fits g.broker (g.bindingFor p.identity p.bindingPattern)
  | .unbind i _ stage => g.registry.get? i = none ∧ g.consumers.get? i = none ∧
    stage.Fits g.broker i.text
  | _ => True

/-- A consumer stands for the queue of a registered identity, whatever has become of its stream. -/
structure Serves (g : Gateway) (j : Identity) (c : Consumer) : Prop where
  registered : ∃ h, g.registry.get? j = some h
  binding : ∃ p : Principal, p.identity = j ∧ c.binding = g.bindingFor j p.bindingPattern
  made : c.stream < g.broker.fresh
  queue : ∀ q, g.broker.queueOf? c.stream = some q → q = j.text

theorem Serves.named {g : Gateway} {j : Identity} {c : Consumer} (hs : g.Serves j c) :
    c.binding.queue = j.text := by
  obtain ⟨p, -, hb⟩ := hs.binding
  rw [hb, bindingFor]

/-- A relay reads the queue of its identity for the connection that is registered. -/
structure Relays (g : Gateway) (j : Identity) (s : StreamId) (r : Relay) : Prop where
  queue : g.broker.queueOf? s = some j.text
  consumer : ∃ c, g.consumers.get? j = some c ∧ c.stream = s
  owner : ∃ h, g.registry.get? j = some h ∧ r.owner = some h.connId

/-- What is left at an identity on which no call works. -/
structure Rests (g : Gateway) (j : Identity) : Prop where
  queue : ∀ e, g.broker.queues.get? j.text = some e →
    g.consumers.get? j = some ⟨e.1, e.2⟩ ∨ g.Disposing j.text
  registered : ∀ h, g.registry.get? j = some h → g.Stopped h ∨
    ∃ c r, g.consumers.get? j = some c ∧ g.relays.get? c.stream = some r ∧ r.identity = j

structure At (g : Gateway) (j : Identity) : Prop where
  relayed : ∀ s r, g.relays.get? s = some r → r.identity = j → g.Relays j s r
  consumed : ∀ c, g.consumers.get? j = some c → g.Serves j c
  busy : ∀ t c, g.calls.get? t = some c → c.section? = some j → g.Fits c
  idle : (∀ t c, g.calls.get? t = some c → c.section? ≠ some j) → g.Rests j

structure Consistent (g : Gateway) : Prop where
  locking : g.Locking
  handled : g.Handled
  phased : g.Phased
  broker : g.broker.Sound
  each : ∀ j, g.At j

/-! ## Steps elsewhere -/

theorem Fits.spares {g g' : Gateway} {c : Call} {j : Identity} (hfits : g.Fits c)
    (hc : c.section? = some j) (h : g.Spares j g') : g'.Fits c := by
  cases c with
  | bind p k stage =>
    have hj : p.identity = j := Option.some.inj (Call.wanted_of_section hc)
    subst hj
    obtain ⟨hr, hcons, hstage⟩ := hfits
    refine ⟨h.registry.trans hr, h.consumers.trans hcons, ?_⟩
    rw [bindingFor, h.exchange]
    exact hstage.spares h.broker
  | unbind i connId stage =>
    have hj : i = j := Option.some.inj (Call.wanted_of_section hc)
    subst hj
    obtain ⟨hr, hcons, hstage⟩ := hfits
    exact ⟨h.registry.trans hr, h.consumers.trans hcons, hstage.spares h.broker⟩
  | _ => trivial

theorem Serves.spares {g g' : Gateway} {j : Identity} {c : Consumer} (hs : g.Serves j c)
    (h : g.Spares j g') : g'.Serves j c where
  registered := h.registry ▸ hs.registered
  binding := by
    unfold bindingFor
    rw [h.exchange]
    exact hs.binding
  made := Nat.lt_of_lt_of_le hs.made h.broker.fresh
  queue q hq := hs.queue q (h.broker.back _ q hs.made hq)

theorem Rests.spares {g g' : Gateway} {j : Identity} (hr : g.Rests j) (h : g.Spares j g') :
    g'.Rests j where
  queue e he := by
    rcases hr.queue e (h.broker.queue e he) with hc | hd
    · exact .inl (h.consumers.trans hc)
    · refine .inr ((h.disposing hd).resolve_right fun hnone => ?_)
      rw [hnone] at he
      cases he
  registered k hk := by
    rcases hr.registered k (h.registry ▸ hk) with hs | ⟨c, r, hc, hrel, hrj⟩
    · exact .inl (h.stopped k hs)
    · exact .inr ⟨c, r, h.consumers.trans hc, (h.relays _ r hrj).mpr hrel, hrj⟩

theorem At.spares {g g' : Gateway} {j : Identity} (ha : g.At j) (h : g.Spares j g') : g'.At j where
  relayed s r hs hr := by
    obtain ⟨hq, hc, ho⟩ := ha.relayed s r ((h.relays s r hr).mp hs) hr
    exact ⟨h.broker.kept s hq, h.consumers ▸ hc, h.registry ▸ ho⟩
  consumed c hc := (ha.consumed c (h.consumers ▸ hc)).spares h
  busy t c ht hc := (ha.busy t c ((h.calls t c hc).mp ht) hc).spares hc h
  idle hno := by
    refine (ha.idle fun t c ht hc => ?_).spares h
    exact hno t c ((h.calls t c hc).mpr ht) hc

/-! ## Steps at the identity itself -/

theorem At.unrelayed {g : Gateway} {j : Identity} (ha : g.At j) (hc : g.consumers.get? j = none)
    (s : StreamId) (r : Relay) (hs : g.relays.get? s = some r) : r.identity ≠ j := by
  intro hr
  obtain ⟨c, hc', -⟩ := (ha.relayed s r hs hr).consumer
  rw [hc] at hc'
  cases hc'

def Alone (g : Gateway) (t : Ticket) (j : Identity) : Prop :=
  ∀ u c, g.calls.get? u = some c → c.section? = some j → u = t

theorem Alone.same {g g' : Gateway} {t : Ticket} {j : Identity} (h : g.Alone t j)
    (hsame : g.SameCalls g') : g'.Alone t j :=
  fun u c hu hc => h u c (hsame.calls ▸ hu) hc

/-- A call goes on to work on an identity that has no consumer. -/
theorem At.ofBusy {g : Gateway} {t : Ticket} {d : Call} {j : Identity} (halone : g.Alone t j)
    (hd : d.section? = some j) (hc : g.consumers.get? j = none)
    (hr : ∀ s r, g.relays.get? s = some r → r.identity ≠ j) (hfits : g.Fits d) :
    (g.setCall t d).At j where
  relayed s r hs he := absurd he (hr s r hs)
  consumed c hc' := by
    rw [show g.consumers.get? j = some c from hc'] at hc
    cases hc
  busy u c hu hcj := by
    simp only [Gateway.setCall, Table.get?_insert] at hu
    split at hu
    · cases hu
      exact hfits
    · next hne => exact absurd (halone u c hu hcj) hne
  idle hno := by
    refine absurd hd (hno t d ?_)
    simp only [Gateway.setCall, Table.get?_insert, if_true]

theorem At.ofIdle {g : Gateway} {t : Ticket} {j : Identity} (o : Outcome) (halone : g.Alone t j)
    (hrelayed : ∀ s r, g.relays.get? s = some r → r.identity = j → g.Relays j s r)
    (hconsumed : ∀ c, g.consumers.get? j = some c → g.Serves j c)
    (hrests : (g.finish t o).Rests j) : (g.finish t o).At j where
  relayed s r hs hr := by
    obtain ⟨hq, hc, ho⟩ := hrelayed s r hs hr
    exact ⟨hq, hc, ho⟩
  consumed c hc := by
    obtain ⟨hr, hb, hm, hq⟩ := hconsumed c hc
    exact ⟨hr, hb, hm, hq⟩
  busy u c hu hcj := by
    simp only [Gateway.finish, Table.get?_insert] at hu
    split at hu
    · cases hu
      cases hcj
    · next hne => exact absurd (halone u c hu hcj) hne
  idle _ := hrests

theorem At.ofEmpty {g : Gateway} {t : Ticket} {j : Identity} (o : Outcome) (halone : g.Alone t j)
    (hr : ∀ s r, g.relays.get? s = some r → r.identity ≠ j) (hc : g.consumers.get? j = none)
    (hq : g.broker.queues.get? j.text = none) (hreg : g.registry.get? j = none) :
    (g.finish t o).At j := by
  refine .ofIdle o halone (fun s r hs he => absurd he (hr s r hs)) (fun c hc' => ?_)
    ⟨fun e he => ?_, fun h hh => ?_⟩
  · rw [hc] at hc'
    cases hc'
  · rw [show g.broker.queues.get? j.text = some e from he] at hq
    cases hq
  · rw [show g.registry.get? j = some h from hh] at hreg
    cases hreg

theorem At.no_consumer {g : Gateway} {j : Identity} (ha : g.At j) {t : Ticket} {c : Call}
    (ht : g.calls.get? t = some c) (hc : c.section? = some j) : g.consumers.get? j = none := by
  have hfits := ha.busy t c ht hc
  cases c with
  | bind p k stage =>
    cases Call.wanted_of_section hc
    exact hfits.2.1
  | unbind i connId stage =>
    cases Call.wanted_of_section hc
    exact hfits.2.1
  | _ => cases hc

/-- The consumer of one identity reads no stream of another. -/
theorem At.foreign {g : Gateway} {i j : Identity} {c : Consumer} (hi : g.At i) (hj : g.At j)
    (hne : j ≠ i) (hc : g.consumers.get? i = some c) :
    g.broker.queueOf? c.stream ≠ some j.text ∧
      ∀ r, g.relays.get? c.stream = some r → r.identity ≠ j := by
  have hqueue : g.broker.queueOf? c.stream ≠ some j.text :=
    fun hq => hne (Identity.eq_of_text ((hi.consumed c hc).queue _ hq))
  exact ⟨hqueue, fun r hr hrj => hqueue (hj.relayed _ r hr hrj).queue⟩

/-- When its consumer is stopped, nothing is relayed to an identity any more. -/
theorem At.unrelayed_detached {g : Gateway} {i : Identity} {c : Consumer} (hi : g.At i)
    (hc : g.consumers.get? i = some c) (s : StreamId) (r : Relay)
    (hs : (g.relays.erase c.stream).get? s = some r) : r.identity ≠ i := by
  intro hr
  rw [Table.get?_erase, Option.ite_none_left_eq_some] at hs
  obtain ⟨c', hc', he⟩ := (hi.relayed s r hs.2 hr).consumer
  rw [hc] at hc'
  cases hc'
  exact hs.1 he.symm

/-! ## Calls -/

/-- A step of a call that does not work on the identity and is no shutdown. -/
theorem Spares.thenSet {g g₁ : Gateway} {t : Ticket} {c d : Call} {j : Identity}
    (ht : g.calls.get? t = some c) (hc : c.section? ≠ some j) (hno : ∀ stage, c ≠ .shutdown stage)
    (h : g.Spares j g₁) (hsame : g.SameCalls g₁) (hd : d.section? ≠ some j) :
    g.Spares j (g₁.setCall t d) := by
  have ht₁ : g₁.calls.get? t = some c := hsame.calls ▸ ht
  refine h.trans (.setCall (fun e he => ?_) hd fun x is he => ?_) <;> rw [ht₁] at he <;> cases he
  · exact hc
  · exact absurd rfl (hno _)

theorem Spares.thenFinish {g g₁ : Gateway} {t : Ticket} {c : Call} {j : Identity}
    (ht : g.calls.get? t = some c) (hc : c.section? ≠ some j) (hno : ∀ stage, c ≠ .shutdown stage)
    (h : g.Spares j g₁) (hsame : g.SameCalls g₁) (o : Outcome) : g.Spares j (g₁.finish t o) :=
  (Spares.thenSet ht hc hno h hsame (by rintro ⟨⟩)).trans (.ofLocks _ _)

theorem Consistent.alone {g : Gateway} (hg : g.Consistent) {t : Ticket} {c : Call} {i : Identity}
    (ht : g.calls.get? t = some c) (hc : c.section? = some i) : g.Alone t i :=
  fun _ _ hu hd => hg.locking.section_unique hu ht hd hc

/-- When a waiting call gets its lock, no other call works on the identity. -/
theorem Consistent.free {g : Gateway} (hg : g.Consistent) {t : Ticket} {c : Call} {i : Identity}
    (ht : g.calls.get? t = some c) (hwant : c.wanted? = some i) (hc : c.section? = none)
    (hlock : g.locks.holds t = true) (u : Ticket) (d : Call) (hu : g.calls.get? u = some d) :
    d.section? ≠ some i := by
  intro hd
  have he := hg.locking.sound.granted_unique (hg.locking.held u d i hu hd)
    (hg.locking.granted_of_holds ht hwant hlock)
  subst he
  rw [ht] at hu
  cases hu
  rw [hc] at hd
  cases hd

/-- Where no call works and nothing is shut down, there is no queue without a consumer. -/
theorem Consistent.unqueued {g : Gateway} (hg : g.Consistent) (hup : g.shuttingDown = false)
    {i : Identity} (hfree : ∀ t c, g.calls.get? t = some c → c.section? ≠ some i)
    (hc : g.consumers.get? i = none) : g.broker.queues.get? i.text = none := by
  refine Option.eq_none_iff_forall_ne_some.mpr fun e he => ?_
  rcases ((hg.each i).idle hfree).queue e he with hc' | ⟨u, x, is, hu, -⟩
  · rw [hc] at hc'
    cases hc'
  · have hdown := hg.phased.flagged u (.deleting x is) ⟨hu, by rintro ⟨⟩⟩
    rw [hup] at hdown
    cases hdown

theorem Consistent.spares_bindStep {g g' : Gateway} (hg : g.Consistent) {t : Ticket} {p : Principal}
    {h : Handle} {stage : BindStage} (ht : g.calls.get? t = some (.bind p h stage))
    (hs : BindStep g t p h stage g') {j : Identity} (hne : j ≠ p.identity) : g.Spares j g' := by
  have hsec : ∀ {stage' : BindStage}, (Call.bind p h stage').section? ≠ some j := by
    intro stage' hj
    exact hne (Option.some.inj (Call.wanted_of_section hj)).symm
  have hset : ∀ {g₁ : Gateway} {stage' : BindStage}, g.Spares j g₁ → g.SameCalls g₁ →
      g.Spares j (g₁.setCall t (.bind p h stage')) :=
    fun hsp hsame => .thenSet ht hsec (fun _ => by rintro ⟨⟩) hsp hsame hsec
  have hfinish : ∀ {g₁ : Gateway} (o : Outcome), g.Spares j g₁ → g.SameCalls g₁ →
      g.Spares j (g₁.finish t o) :=
    fun o hsp hsame => .thenFinish ht hsec (fun _ => by rintro ⟨⟩) hsp hsame o
  have habandon : ∀ reason e, g.Spares j (g.abandonBind t p h reason e) := by
    intro reason e
    have hclose := ConnectionsOnly.close (g.release p.identity h.connId).2 h reason
    exact hfinish _ ((Spares.release g hne _).trans (hclose.spares j))
      ((SameCalls.release g p.identity h.connId).trans hclose.sameCalls)
  have hregistered := Spares.registered g hne h
  have hcalls := SameCalls.registered g p.identity h
  have hdetached : ∀ {c : Consumer}, g.consumers.get? p.identity = some c →
      g.Spares j ((g.registered p.identity h).detached p.identity c) := by
    intro c hc
    obtain ⟨hqueue, hrelay⟩ := (hg.each p.identity).foreign (hg.each j) hne hc
    refine hregistered.trans (.detached hne ?_ ?_)
    · rw [broker_registered]
      exact hqueue
    · rw [relays_registered]
      exact hrelay
  cases hs with
  | refused _ _ =>
    have hclose := ConnectionsOnly.close g h .shutdown
    exact hfinish _ (hclose.spares j) hclose.sameCalls
  | evicts _ _ _ hc => exact hset (hdetached hc) (hcalls.trans (.detached _ _ _))
  | clears _ _ _ hc => exact hset (hdetached hc) (hcalls.trans (.detached _ _ _))
  | enters _ _ _ => exact hset hregistered hcalls
  | evicted x => exact hset (.deleteQueue g _) (.deleteQueue g _)
  | looks _ => exact hset (.refl j g) (.refl g)
  | finds hc =>
    obtain ⟨hqueue, hrelay⟩ := (hg.each p.identity).foreign (hg.each j) hne hc
    exact hset (.detached hne hqueue hrelay) (.detached g _ _)
  | cleared x => exact hset (.deleteQueue g _) (.deleteQueue g _)
  | declares =>
    obtain ⟨-, -, habsent⟩ := (hg.each p.identity).busy t _ ht rfl
    exact hset (.declare hg.broker habsent fun he => hne (Identity.eq_of_text he)) (.declare g _)
  | fails e => exact habandon _ _
  | succeeds s _ =>
    obtain ⟨-, -, hqueue, -⟩ := (hg.each p.identity).busy t _ ht rfl
    refine hfinish _ (.attach _ hne fun r hr hrj => ?_) (.attach g _ _ _)
    have hrq := ((hg.each j).relayed s r hr hrj).queue
    rw [hqueue] at hrq
    exact hne (Identity.eq_of_text (Option.some.inj hrq).symm)
  | retracts s _ =>
    obtain ⟨-, -, hqueue, -⟩ := (hg.each p.identity).busy t _ ht rfl
    have hforeign : g.broker.queueOf? s ≠ some j.text := by
      rw [hqueue]
      exact fun he => hne (Identity.eq_of_text (Option.some.inj he).symm)
    refine hset ((Spares.attach _ hne fun r hr hrj => ?_).trans (.detached hne hforeign ?_))
      ((SameCalls.attach g _ _ s).trans (.detached _ _ _))
    · exact hforeign ((hg.each j).relayed s r hr hrj).queue
    · simp only [attach, Table.get?_insert, if_true]
      rintro r ⟨⟩
      exact hne.symm
  | retracted x => exact hset (.deleteQueue g _) (.deleteQueue g _)
  | gaveUp => exact habandon _ _

/-- A bind that has failed gives its own registration back. -/
theorem Consistent.at_abandonBind {g : Gateway} (hg : g.Consistent) {t : Ticket} {p : Principal}
    {h : Handle} {stage : BindStage} (ht : g.calls.get? t = some (.bind p h stage))
    (hstage : stage ≠ .waiting) (hq : g.broker.queues.get? p.identity.text = none)
    (reason : CloseReason) (e : BrokerError) : (g.abandonBind t p h reason e).At p.identity := by
  have hsec := Call.section_bind (p := p) (h := h) hstage
  obtain ⟨hreg, hcons, -⟩ := (hg.each p.identity).busy t _ ht hsec
  have hclose := (ConnectionsOnly.close (g.unregistered p.identity) h reason).rest
  have halone : ((g.unregistered p.identity).close h reason).Alone t p.identity :=
    (hg.alone ht hsec).same ⟨rfl, rfl, rfl⟩
  rw [abandonBind_eq hreg]
  refine .ofEmpty _ halone ?_ ?_ ?_ ?_ <;> rw [hclose]
  · exact (hg.each p.identity).unrelayed hcons
  · exact hcons
  · exact hq
  · rw [unregistered, Table.get?_erase, if_pos rfl]

/-- The queue that a bind is rid of is its own. -/
theorem Consistent.at_deleteQueue {g : Gateway} (hg : g.Consistent) {t : Ticket} {p : Principal}
    {h : Handle} {stage stage' : BindStage} (ht : g.calls.get? t = some (.bind p h stage))
    (hstage : stage ≠ .waiting) (hstage' : stage' ≠ .waiting) {queue : String}
    (hqueue : queue = p.identity.text)
    (hfits : ∀ b : Broker, b.queues.get? p.identity.text = none →
      stage'.Fits b (g.bindingFor p.identity p.bindingPattern)) :
    ((g.deleteQueue queue).setCall t (.bind p h stage')).At p.identity := by
  have hsec := Call.section_bind (p := p) (h := h) hstage
  obtain ⟨hreg, hcons, -⟩ := (hg.each p.identity).busy t _ ht hsec
  refine .ofBusy ((hg.alone ht hsec).same (.deleteQueue g queue)) (Call.section_bind hstage') hcons
    ((hg.each p.identity).unrelayed hcons) ⟨hreg, hcons, hfits _ ?_⟩
  rw [deleteQueue, Broker.queues_unsubscribe, if_pos hqueue.symm]

/-- The broker's answer to a bind is what the bind takes it for. -/
theorem BindStage.fits_declared {b : Broker} {own : Binding} (hq : b.queues.get? own.queue = none) :
    (BindStage.opening (.declared (b.subscribe own).1)).Fits (b.subscribe own).2 own := by
  rw [Broker.subscribe_of_absent hq]
  cases b.refusal? own.queue with
  | some e => exact hq
  | none =>
    refine ⟨?_, fun e he => ?_⟩
    · simp only [Broker.queueOf?, Broker.declared, Table.get?_insert, if_true, Option.map_some]
    · simpa only [Broker.declared, Table.get?_insert, if_true, Option.some.injEq] using he.symm

/-- A bind that succeeds leaves a consumer whose stream is relayed to its connection. -/
theorem Consistent.at_attach {g : Gateway} (hg : g.Consistent) {t : Ticket} {p : Principal}
    {h : Handle} {s : StreamId} (ht : g.calls.get? t = some (.bind p h (.opening (.declared (.ok s)))))
    (o : Outcome) : ((g.attach p.identity (g.bindingFor p.identity p.bindingPattern) s).finish t
      o).At p.identity := by
  have hat := hg.each p.identity
  obtain ⟨hreg, hcons, hqueue, hown⟩ := hat.busy t _ ht rfl
  have hconsumer : (g.consumers.insert p.identity
      ⟨g.bindingFor p.identity p.bindingPattern, s⟩).get? p.identity =
        some ⟨g.bindingFor p.identity p.bindingPattern, s⟩ := by rw [Table.get?_insert, if_pos rfl]
  have hrelay : (g.attach p.identity (g.bindingFor p.identity p.bindingPattern) s).relays.get? s =
      some ⟨p.identity, some h.connId⟩ := by
    rw [attach, hreg, Table.get?_insert, if_pos rfl]
    rfl
  refine .ofIdle o ((hg.alone ht rfl).same (.attach g _ _ s)) (fun u r hu hr => ?_) (fun c hc => ?_)
    ⟨fun e he => .inl ?_, fun k _ => .inr ⟨_, _, hconsumer, hrelay, rfl⟩⟩
  · by_cases he : u = s
    · rw [he, hrelay] at hu
      cases hu
      exact ⟨he ▸ hqueue, ⟨_, hconsumer, he.symm⟩, h, hreg, rfl⟩
    · rw [attach, Table.get?_insert, if_neg he] at hu
      exact absurd hr (hat.unrelayed hcons u r hu)
  · cases hconsumer.symm.trans hc
    refine ⟨⟨h, hreg⟩, ⟨p, rfl, rfl⟩, hg.broker.lt_of_queueOf hqueue, fun q hq => ?_⟩
    exact (Option.some.inj (hqueue.symm.trans hq)).symm
  · rw [hown e he]
    exact hconsumer

/-- A bind that takes back what it has opened leaves no consumer and no relay. -/
theorem Consistent.at_retract {g : Gateway} (hg : g.Consistent) {t : Ticket} {p : Principal}
    {h : Handle} {s : StreamId}
    (ht : g.calls.get? t = some (.bind p h (.opening (.declared (.ok s))))) :
    (((g.attach p.identity (g.bindingFor p.identity p.bindingPattern) s).detached p.identity
      ⟨g.bindingFor p.identity p.bindingPattern, s⟩).setCall t
        (.bind p h (.retracting (g.bindingFor p.identity p.bindingPattern)))).At p.identity := by
  have hat := hg.each p.identity
  obtain ⟨hreg, hcons, -⟩ := hat.busy t _ ht rfl
  have hsame := (SameCalls.attach g p.identity (g.bindingFor p.identity p.bindingPattern) s).trans
    (.detached _ p.identity ⟨g.bindingFor p.identity p.bindingPattern, s⟩)
  refine .ofBusy ((hg.alone ht rfl).same hsame) rfl ?_ (fun u r hu => ?_) ⟨hreg, ?_, rfl⟩
  · rw [detached, Table.get?_erase, if_pos rfl]
  · simp only [detached, attach, Table.get?_erase, Table.get?_insert,
      Option.ite_none_left_eq_some] at hu
    rw [if_neg hu.1] at hu
    exact hat.unrelayed hcons u r hu.2
  · rw [detached, Table.get?_erase, if_pos rfl]

theorem Consistent.bindStep_self {g g' : Gateway} (hg : g.Consistent) {t : Ticket} {p : Principal}
    {h : Handle} {stage : BindStage} (ht : g.calls.get? t = some (.bind p h stage))
    (hs : BindStep g t p h stage g') : g'.At p.identity := by
  have hat := hg.each p.identity
  have hfree : g.locks.holds t = true → stage = .waiting → g.Alone t p.identity := by
    rintro hlock rfl u d hu hd
    exact absurd hd (hg.free ht rfl rfl hlock u d hu)
  have hsame := SameCalls.registered g p.identity h
  have hregistry : (g.registered p.identity h).registry.get? p.identity = some h := by
    rw [registry_registered, if_pos rfl]
  cases hs with
  | refused _ _ =>
    have hclose := ConnectionsOnly.close g h .shutdown
    exact hat.spares (.thenFinish ht (by rintro ⟨⟩) (fun _ => by rintro ⟨⟩) (hclose.spares _)
      hclose.sameCalls _)
  | @evicts c hlock _ _ hc =>
    refine .ofBusy ((hfree hlock rfl).same (hsame.trans (.detached _ _ _))) rfl ?_ ?_
      ⟨hregistry, ?_, ?_⟩
    · rw [detached, Table.get?_erase, if_pos rfl]
    · rw [detached, relays_registered]
      exact hat.unrelayed_detached hc
    · rw [detached, Table.get?_erase, if_pos rfl]
    · exact (hat.consumed c hc).named
  | @clears c _ _ hprior hc =>
    obtain ⟨k, hk⟩ := (hat.consumed c hc).registered
    rw [hprior] at hk
    cases hk
  | enters hlock hup hc =>
    refine .ofBusy ((hfree hlock rfl).same hsame) rfl ?_ ?_ ⟨hregistry, ?_, ?_⟩
    · rw [consumers_registered]
      exact hc
    · rw [relays_registered]
      exact hat.unrelayed hc
    · rw [consumers_registered]
      exact hc
    · rw [broker_registered]
      exact hg.unqueued hup (hg.free ht rfl rfl hlock) hc
  | looks hc =>
    obtain ⟨hreg, hcons, hq⟩ := hat.busy t _ ht rfl
    exact .ofBusy (hg.alone ht rfl) rfl hcons (hat.unrelayed hcons) ⟨hreg, hcons, hq⟩
  | finds hc =>
    obtain ⟨-, hcons, -⟩ := hat.busy t _ ht rfl
    rw [hcons] at hc
    cases hc
  | declares =>
    obtain ⟨hreg, hcons, hq⟩ := hat.busy t _ ht rfl
    exact .ofBusy ((hg.alone ht rfl).same (.declare g _)) rfl hcons (hat.unrelayed hcons)
      ⟨hreg, hcons, BindStage.fits_declared hq⟩
  -- The queue that is deleted is known to be that of the identity.
  | evicted x =>
    obtain ⟨-, -, hx⟩ := hat.busy t _ ht rfl
    exact hg.at_deleteQueue ht (by rintro ⟨⟩) (by rintro ⟨⟩) hx fun _ hq => hq
  | cleared x =>
    obtain ⟨-, -, hx⟩ := hat.busy t _ ht rfl
    exact hg.at_deleteQueue ht (by rintro ⟨⟩) (by rintro ⟨⟩) hx fun _ hq => hq
  | retracted x =>
    obtain ⟨-, -, hx⟩ := hat.busy t _ ht rfl
    exact hg.at_deleteQueue ht (by rintro ⟨⟩) (by rintro ⟨⟩) hx fun _ hq => hq
  | fails e =>
    obtain ⟨-, -, hq⟩ := hat.busy t _ ht rfl
    exact hg.at_abandonBind ht (by rintro ⟨⟩) hq _ _
  | gaveUp =>
    obtain ⟨-, -, hq⟩ := hat.busy t _ ht rfl
    exact hg.at_abandonBind ht (by rintro ⟨⟩) hq _ _
  | succeeds s _ => exact hg.at_attach ht _
  | retracts s _ => exact hg.at_retract ht

theorem Consistent.spares_unbindStep {g g' : Gateway} (hg : g.Consistent) {t : Ticket} {i : Identity}
    {connId : Nat} {stage : UnbindStage} (ht : g.calls.get? t = some (.unbind i connId stage))
    (hs : UnbindStep g t i connId stage g') {j : Identity} (hj : j ≠ i) : g.Spares j g' := by
  have hno : ∀ stage', Call.unbind i connId stage ≠ .shutdown stage' := fun _ => by rintro ⟨⟩
  have hsec : ∀ {stage' : UnbindStage}, (Call.unbind i connId stage').section? ≠ some j := by
    intro stage' he
    exact hj (Option.some.inj (Call.wanted_of_section he)).symm
  cases hs with
  | stale _ _ => exact .thenFinish ht hsec hno (.refl j g) (.refl g) _
  | @releases c _ _ hc =>
    obtain ⟨hqueue, hrelay⟩ := (hg.each i).foreign (hg.each j) hj hc
    exact .thenSet ht hsec hno ((Spares.unregistered g hj).trans (.detached hj hqueue hrelay))
      ⟨rfl, rfl, rfl⟩ hsec
  | forgets _ _ _ => exact .thenFinish ht hsec hno (.unregistered g hj) ⟨rfl, rfl, rfl⟩ _
  | deletes x => exact .thenSet ht hsec hno (.deleteQueue g _) (.deleteQueue g _) hsec
  | ends => exact .thenFinish ht hsec hno (.refl j g) (.refl g) _

theorem Consistent.unbindStep {g g' : Gateway} (hg : g.Consistent) {t : Ticket} {i : Identity}
    {connId : Nat} {stage : UnbindStage} (ht : g.calls.get? t = some (.unbind i connId stage))
    (hs : UnbindStep g t i connId stage g') (j : Identity) : g'.At j := by
  have hno : ∀ stage', Call.unbind i connId stage ≠ .shutdown stage' := fun _ => by rintro ⟨⟩
  have hat := hg.each i
  by_cases hj : j = i
  · subst hj
    cases hs with
    | stale _ _ => exact hat.spares (.thenFinish ht (by rintro ⟨⟩) hno (.refl j g) (.refl g) _)
    | @releases c hlock _ hc =>
      refine .ofBusy (g := (g.unregistered j).detached j c) (fun u d hu hd => ?_) rfl ?_
        (hat.unrelayed_detached hc) ⟨?_, ?_, ?_⟩
      · exact absurd hd (hg.free ht rfl rfl hlock u d hu)
      · rw [detached, Table.get?_erase, if_pos rfl]
      · rw [detached, unregistered, Table.get?_erase, if_pos rfl]
      · rw [detached, Table.get?_erase, if_pos rfl]
      · exact (hat.consumed c hc).named
    | forgets hlock _ hc =>
      have hfree := hg.free ht rfl rfl hlock
      have hgone : (g.unregistered j).registry.get? j = none := by
        rw [unregistered, Table.get?_erase, if_pos rfl]
      have hforgot : (g.unregistered j).At j := by
        refine ⟨fun s r hr he => absurd he (hat.unrelayed hc s r hr), fun c hc' => ?_,
          fun u d hu hd => absurd hd (hfree u d hu), fun _ => ⟨(hat.idle hfree).queue, fun k hk => ?_⟩⟩
        · rw [show g.consumers.get? j = some c from hc'] at hc
          cases hc
        · rw [hgone] at hk
          cases hk
      exact hforgot.spares (.thenFinish (g := g.unregistered j) ht (by rintro ⟨⟩) hno (.refl j _)
        (.refl _) _)
    | deletes x =>
      obtain ⟨hreg, hcons, hx⟩ := hat.busy t _ ht rfl
      refine .ofBusy (g := g.deleteQueue x.queue) (hg.alone ht rfl) rfl hcons (hat.unrelayed hcons)
        ⟨hreg, hcons, ?_⟩
      rw [UnbindStage.Fits, deleteQueue, Broker.queues_unsubscribe, if_pos hx.symm]
    | ends =>
      obtain ⟨hreg, hcons, hq⟩ := hat.busy t _ ht rfl
      exact .ofEmpty _ (hg.alone ht rfl) (hat.unrelayed hcons) hcons hq hreg
  · exact (hg.each j).spares (hg.spares_unbindStep ht hs hj)

/-- A shutdown stops a consumer, whose connection has been told to close before. -/
theorem At.stopStep {g g' : Gateway} (hg : ∀ j, g.At j) {t : Ticket} {stage : ShutdownStage}
    (ht : g.calls.get? t = some (.shutdown stage)) (hstage : ∀ x is, stage ≠ .deleting x is)
    (hstopped : ∀ i h, g.registry.get? i = some h → g.Stopped h) {is : List Identity}
    (hs : StopStep g t is g') (j : Identity) : g'.At j := by
  have hset : ∀ {g₁ : Gateway} (stage' : ShutdownStage), g.Spares j g₁ → g.SameCalls g₁ →
      g.Spares j (g₁.setCall t (.shutdown stage')) := by
    intro g₁ stage' hsp hsame
    have ht₁ : g₁.calls.get? t = some (.shutdown stage) := hsame.calls ▸ ht
    refine hsp.trans (.setCall (fun c hc => ?_) (by rintro ⟨⟩) fun x is hc => ?_) <;>
      rw [ht₁] at hc <;> cases hc
    · rintro ⟨⟩
    · exact absurd rfl (hstage x is)
  cases hs with
  | none_left _ _ => exact (hg j).spares (hset _ (.refl j g) (.refl g))
  | @stops i c _ rest _ hc =>
    by_cases hj : j = i
    · subst hj
      have hnone : (g.consumers.erase j).get? j = none := by rw [Table.get?_erase, if_pos rfl]
      have hunrelayed := (hg j).unrelayed_detached hc
      have hbinding := ((hg j).consumed c hc).named
      refine ⟨fun s r hr he => absurd he (hunrelayed s r hr), fun c' hc' => ?_, fun u d hu hd => ?_,
        fun _ => ⟨fun e _ => .inr ⟨t, c.binding, rest, ?_, hbinding⟩, fun k hk => .inl ?_⟩⟩
      · rw [show (g.consumers.erase j).get? j = some c' from hc'] at hnone
        cases hnone
      · -- A call that works on the identity would not have left the consumer there.
        simp only [Gateway.setCall, Table.get?_insert] at hu
        split at hu
        · cases hu
          cases hd
        · have hcons := (hg j).no_consumer hu hd
          rw [hcons] at hc
          cases hc
      · simp only [Gateway.setCall, Table.get?_insert, if_true]
      · exact hstopped j k hk
    · obtain ⟨hqueue, hrelay⟩ := (hg i).foreign (hg j) hj hc
      exact (hg j).spares (hset _ (.detached hj hqueue hrelay) (.detached g i c))

theorem Consistent.shutdownStep {g g' : Gateway} (hg : g.Consistent) {t : Ticket}
    {stage : ShutdownStage} (ht : g.calls.get? t = some (.shutdown stage))
    (hs : ShutdownStep g t stage g') (j : Identity) : g'.At j := by
  cases hs with
  | again _ =>
    refine (hg.each j).spares (.finish (fun c hc => ?_) (fun x is hc => ?_) _) <;> rw [ht] at hc <;>
      cases hc
    rintro ⟨⟩
  | begins _ hs =>
    have hflagged : ∀ j, g.flagged.At j := fun j => (hg.each j).spares (.flagged g j)
    have hstopped : ∀ i h, g.flagged.registry.get? i = some h → g.flagged.Stopped h := by
      refine hg.handled.flag.flagged ?_
      rw [(connectionsOnly_flagged g).rest]
    exact .stopStep hflagged ((SameCalls.flagged g).calls ▸ ht) (fun _ _ => by rintro ⟨⟩) hstopped hs j
  | goesOn is hs =>
    have hdown := hg.phased.flagged t _ ⟨ht, by rintro ⟨⟩⟩
    exact .stopStep hg.each ht (fun _ _ => by rintro ⟨⟩) (hg.handled.flagged hdown) hs j
  | deletes x is =>
    refine (hg.each j).spares ((Spares.deleteQueue g x.queue).trans
      (.setCall (fun c hc => ?_) (by rintro ⟨⟩) fun y is' hc => ?_)) <;>
      rw [show (g.deleteQueue x.queue).calls.get? t = _ from ht] at hc <;> cases hc
    · rintro ⟨⟩
    · rw [deleteQueue, Broker.queues_unsubscribe, if_pos rfl]
  | disconnects =>
    have hclosed : g.Spares j { g with broker := g.broker.close } := .brokerStep .closes
    refine (hg.each j).spares (hclosed.trans (.finish (fun c hc => ?_) (fun x is hc => ?_) _)) <;>
      rw [show g.calls.get? t = _ from ht] at hc <;> cases hc
    rintro ⟨⟩

theorem Spares.delivers {g : Gateway} {s : StreamId} {d : Delivery} {b : Broker}
    (hnext : g.broker.next s = (.delivery d, b)) (i j : Identity) :
    g.Spares j (relayDelivery { g with broker := b } i d) := by
  have hread : g.Spares j { g with broker := b } := .ofBroker ((Broker.refills_next hnext).spares _)
  have hforward := (ConnectionsOnly.forward { g with broker := b } i d.payload).spares j
  have hacked := (Broker.Refills.refl (forward { g with broker := b } i d.payload).2.broker).ack d
  exact (hread.trans hforward).trans (.ofBroker (hacked.spares _))

theorem loseSubscription_eq {g : Gateway} {r : Relay} {h : Handle}
    (hreg : g.registry.get? r.identity = some h) (howner : r.owner = some h.connId) (s : StreamId) :
    g.loseSubscription s r = (g.unrelayed s).close h .subscriptionLost := by
  unfold loseSubscription
  simp only [hreg, howner, if_true]
  rfl

/-- The relay of an identity that ends leaves the connection it served with a request to stop. -/
theorem Consistent.relayStep {g g' : Gateway} (hg : g.Consistent) {s : StreamId} {r : Relay}
    (hr : g.relays.get? s = some r) (hs : RelayStep g s r g') (j : Identity) : g'.At j := by
  cases hs with
  | delivers hnext => exact (hg.each j).spares (.delivers hnext r.identity j)
  | loses _ =>
    have hspec := ConnectionsOnly.loseSubscription g s r
    obtain ⟨hqueue, ⟨c, hc, rfl⟩, h, hreg, howner⟩ := (hg.each r.identity).relayed s r hr rfl
    by_cases hj : j = r.identity
    · subst hj
      have hunrelayed : ∀ u r', (g.unrelayed c.stream).relays.get? u = some r' →
          r'.identity ≠ r.identity := fun u r' hu => (hg.each r.identity).unrelayed_detached hc u r' hu
      have hstopped : (g.loseSubscription c.stream r).Stopped h := by
        rw [loseSubscription_eq hreg howner]
        exact stopped_close _ (hg.handled.registered _ h hreg)
      rw [hspec.rest]
      refine ⟨fun u r' hu he => absurd he (hunrelayed u r' hu), fun c' hc' => ?_,
        fun u d hu hd => ?_, fun hno => ?_⟩
      · obtain ⟨hreg', hb, hm, hq⟩ := (hg.each r.identity).consumed c' hc'
        refine ⟨hreg', hb, hm, fun q hq' => hq q ?_⟩
        rw [unrelayed, Broker.queueOf_discard] at hq'
        split at hq'
        · cases hq'
        · exact hq'
      · have hcons := (hg.each r.identity).no_consumer hu hd
        rw [hcons] at hc
        cases hc
      · refine ⟨((hg.each r.identity).idle hno).queue, fun k hk => .inl ?_⟩
        cases hreg.symm.trans hk
        rw [hspec.rest] at hstopped
        exact hstopped
    · have hforeign : g.broker.queueOf? c.stream ≠ some j.text := by
        rw [hqueue]
        exact fun he => hj (Identity.eq_of_text (Option.some.inj he)).symm
      refine (hg.each j).spares ((Spares.unrelayed hforeign fun r' hr' hrj => ?_).trans (hspec.spares j))
      exact hforeign ((hg.each j).relayed _ r' hr' hrj).queue

/-! ## Everything that can happen -/

/-- A new connection is none of those that have been told to stop. -/
theorem Spares.connect {g : Gateway} (hg : g.Handled) (j : Identity) (connId capacity : Nat) :
    g.Spares j (g.connect connId capacity).2 :=
  ⟨rfl, rfl, rfl, fun _ _ _ => .rfl, .refl _ _, fun _ _ _ => .rfl, fun _ => hg.stopped_connect,
    .inl⟩

theorem Consistent.happening {g g' : Gateway} (hg : g.Consistent) (h : g.Happening g') :
    g'.Consistent where
  locking := hg.locking.happening h
  handled := hg.handled.happening h
  phased := hg.phased.happening hg.locking h
  broker := by
    cases h with
    | aside h =>
      cases h with
      | visits h => rw [h.rest]; exact hg.broker
      | prunes h => rw [h.rest]; exact hg.broker
      | connects connId capacity => exact hg.broker
      | relays _ hs => exact hs.sound hg.broker
      | brokers hb => exact hb.sound hg.broker
    | goesOn _ hs => exact hs.sound hg.broker
    | _ => exact hg.broker
  each j := by
    cases h with
    | aside h =>
      cases h with
      | visits h => exact (hg.each j).spares (h.spares j)
      | prunes h => exact (hg.each j).spares ((h.spares j).trans (.ofLocks _ _))
      | connects connId capacity =>
        exact (hg.each j).spares (.connect hg.handled j connId capacity)
      | relays hr hs => exact hg.relayStep hr hs j
      | brokers hb => exact (hg.each j).spares (.brokerStep hb)
    | asks hc =>
      refine (hg.each j).spares ((Spares.start hg.locking ?_).trans (.ofLocks _ _))
      cases hc <;> rintro ⟨⟩
    | startsShutdown => exact (hg.each j).spares (.start hg.locking (by rintro ⟨⟩))
    | goesOn ht hs =>
      cases hs with
      | @bind p h stage _ hs =>
        by_cases hj : j = p.identity
        · exact hj ▸ hg.bindStep_self ht hs
        · exact (hg.each j).spares (hg.spares_bindStep ht hs hj)
      | unbind hs => exact hg.unbindStep ht hs j
      | shutdown hs => exact hg.shutdownStep ht hs j

theorem consistent_fresh (exchange : String) (refusing : Bool) :
    Consistent { exchange, broker := { refusing } } where
  locking := locking_fresh exchange refusing
  handled := handled_fresh exchange refusing
  phased := phased_fresh exchange refusing
  broker := Broker.sound_empty refusing
  each j := by
    refine ⟨fun s r h => ?_, fun c h => ?_, fun t c h => ?_, fun _ => ⟨fun e h => ?_, fun k h => ?_⟩⟩ <;>
      cases h

theorem Consistent.act {g g' : Gateway} {a : Action} (hg : g.Consistent) (ha : g.act? a = some g') :
    g'.Consistent :=
  hg.happening (happening_of_act ha hg.locking.isPublic)

/-- An action is a step of a call that is under way, or none of a call at all. -/
theorem Consistent.act_cases {g g' : Gateway} {a : Action} (hg : g.Consistent)
    (ha : g.act? a = some g') :
    (∃ t c, a = .advance t ∧ g.calls.get? t = some c ∧ CallStep g t c g') ∨ ∀ t, a ≠ .advance t := by
  by_cases hadvance : ∃ t, a = .advance t
  · obtain ⟨t, rfl⟩ := hadvance
    obtain ⟨c, ht, hs⟩ := callStep_of_step ha (hg.locking.isPublic t)
    exact .inl ⟨t, c, rfl, ht, hs⟩
  · exact .inr fun t he => hadvance ⟨t, he⟩

theorem Consistent.run {g g' : Gateway} {as : List Action} (hg : g.Consistent)
    (hrun : g.run as = some g') : g'.Consistent :=
  run_preserves (fun _ _ _ hg ha => hg.act ha) hrun hg

theorem Consistent.preserves {P : Gateway → Prop} {g g' : Gateway} {as : List Action}
    (hg : g.Consistent) (hstep : ∀ {g g'}, g.Consistent → P g → g.Happening g' → P g')
    (hrun : g.run as = some g') (hP : P g) : P g' := by
  have hboth : g'.Consistent ∧ P g' := by
    refine run_preserves (P := fun g => g.Consistent ∧ P g) (fun g₁ a g₂ h ha => ?_) hrun
      ⟨hg, hP⟩
    have happens := happening_of_act ha h.1.locking.isPublic
    exact ⟨h.1.happening happens, hstep h.1 h.2 happens⟩
  exact hboth.2

end Gateway
end LocationRelay
