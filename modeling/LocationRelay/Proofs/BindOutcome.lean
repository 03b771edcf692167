import LocationRelay.Proofs.Completion

/-! # What a bind comes to

A bind that runs by itself replaces whoever is registered for its identity. Either it leaves its connection
registered, with a consumer and a relay that read the queue it has declared, or it has been refused by the
broker and leaves nothing at the identity at all. Nothing else is touched in either case.
-/
namespace LocationRelay

open Text (Bytes)

namespace Broker

def Apart (q : String) (b b' : Broker) : Prop :=
  ∀ s st, st.queue ≠ q → (b'.streams.get? s = some st ↔ b.streams.get? s = some st)

variable {q : String}

theorem Apart.refl (q : String) (b : Broker) : b.Apart q b := fun _ _ _ => .rfl

theorem Apart.trans {b₁ b₂ b₃ : Broker} (h : b₁.Apart q b₂) (h' : b₂.Apart q b₃) : b₁.Apart q b₃ :=
  fun s st hst => (h' s st hst).trans (h s st hst)

theorem Apart.discard {b : Broker} {s : StreamId} (h : ∀ r, b.queueOf? s = some r → r = q) :
    b.Apart q (b.discard s) := by
  intro u st hst
  simp only [Broker.discard, Table.get?_erase, Option.ite_none_left_eq_some]
  refine ⟨And.right, fun hu => ⟨?_, hu⟩⟩
  rintro rfl
  exact hst (h _ (queueOf?_eq_some.mpr ⟨st, hu, rfl⟩))

theorem Sound.apart_unsubscribe {b : Broker} (hb : b.Sound) (q : String) :
    b.Apart q (b.unsubscribe q) := by
  intro s st hst
  rcases streams_unsubscribe b q s with h | ⟨⟨x, hx⟩, h⟩
  · rw [h]
  · -- The stream that is not fed any more is the one of this queue.
    have hread := (hb.read q x s hx).2
    rw [h, Option.map_eq_some_iff]
    refine ⟨?_, fun hs => absurd (hread st hs).1 hst⟩
    rintro ⟨st', hs, rfl⟩
    exact absurd (hread st' hs).1 hst

theorem Sound.apart_subscribe {b : Broker} (hb : b.Sound) {x : Binding}
    (habsent : b.queues.get? x.queue = none) : b.Apart x.queue (b.subscribe x).2 := by
  rw [subscribe_of_absent habsent]
  cases b.refusal? x.queue with
  | some e => exact .refl _ b
  | none =>
    intro s st hst
    simp only [Broker.declared, Table.get?_insert]
    split
    · next he =>
      refine ⟨?_, fun hs => absurd (hb.fed s st hs).1 (he ▸ Nat.lt_irrefl _)⟩
      rintro ⟨⟩
      exact absurd rfl hst
    · rfl

end Broker

namespace Gateway

variable {g g₁ g₂ g' : Gateway} {t : Ticket} {p : Principal} {h : Handle} {stage : BindStage}

/-- A call gets its lock at once when no other call asks for it. -/
theorem Locking.holds_of_sole (hg : g.Locking) {c : Call} {i : Identity}
    (ht : g.calls.get? t = some c) (hw : c.wanted? = some i)
    (hsole : ∀ u d, g.calls.get? u = some d → d.wanted? = some i → u = t) :
    g.locks.holds t = true := by
  obtain ⟨r, hr, hrt⟩ := hg.asks t c i ht hw
  have hidentity : ∀ q ∈ g.locks.requests, q.lock = r.lock → q.ticket = t := by
    intro q hq hlock
    obtain ⟨d, hd, hdw⟩ := hg.asked q hq
    obtain ⟨c', hc', hcw⟩ := hg.asked r hr
    cases (hrt ▸ hc').symm.trans ht
    have hsame := hg.sound.apart _ _ _ (hg.sound.current q hq) (hlock ▸ hg.sound.current r hr)
    exact hsole _ d hd (hdw.trans ((congrArg some hsame).trans (hcw.symm.trans hw)))
  refine IdentityLocks.holds_iff.mpr ⟨r.identity, r, hr, hrt, rfl, ?_⟩
  cases hfind : g.locks.requests.find? fun q => q.lock == r.lock with
  | none =>
    have hnot := List.find?_eq_none.mp hfind r hr
    simp at hnot
  | some q =>
    rw [IdentityLocks.holder?, hfind, Option.map_some, hidentity q (List.mem_of_find?_eq_some hfind)]
    simpa using List.find?_some hfind

theorem Consistent.bindStep_apart (hg : g.Consistent) (ht : g.calls.get? t = some (.bind p h stage))
    (hs : BindStep g t p h stage g') : g.broker.Apart p.identity.text g'.broker := by
  have habandon : ∀ reason e,
      g.broker.Apart p.identity.text (g.abandonBind t p h reason e).broker := by
    intro reason e
    change g.broker.Apart _ (g.release p.identity h.connId).2.broker
    rcases release_eq g p.identity h.connId with he | he <;> rw [he] <;> exact .refl _ _
  have hdetached : ∀ {g₁ : Gateway} {c : Consumer}, g₁.broker = g.broker →
      (∀ q, g.broker.queueOf? c.stream = some q → q = p.identity.text) →
      g.broker.Apart p.identity.text (g₁.detached p.identity c).broker := by
    intro g₁ c hb hc
    simp only [detached, hb]
    split
    · exact .discard hc
    · exact .refl _ _
  have hqueue : ∀ {c : Consumer}, g.consumers.get? p.identity = some c →
      ∀ q, g.broker.queueOf? c.stream = some q → q = p.identity.text :=
    fun hc => ((hg.each p.identity).consumed _ hc).queue
  have hdeleted : ∀ q, q = p.identity.text →
      g.broker.Apart p.identity.text (g.broker.unsubscribe q) :=
    fun q hq => hq ▸ hg.broker.apart_unsubscribe q
  cases hs with
  | evicts _ _ _ hc => exact hdetached (broker_registered g _ h) (hqueue hc)
  | clears _ _ _ hc => exact hdetached (broker_registered g _ h) (hqueue hc)
  | enters _ _ _ =>
    change g.broker.Apart _ (g.registered p.identity h).broker
    rw [broker_registered]
    exact .refl _ _
  | evicted x =>
    obtain ⟨-, -, hx⟩ := (hg.each p.identity).busy t _ ht rfl
    exact hdeleted x.queue hx
  | finds hc => exact hdetached rfl (hqueue hc)
  | cleared x =>
    obtain ⟨-, -, hx⟩ := (hg.each p.identity).busy t _ ht rfl
    exact hdeleted x.queue hx
  | declares =>
    obtain ⟨-, -, habsent⟩ := (hg.each p.identity).busy t _ ht rfl
    exact hg.broker.apart_subscribe habsent
  | fails e => exact habandon _ _
  | retracts s _ =>
    obtain ⟨-, -, hown, -⟩ := (hg.each p.identity).busy t _ ht rfl
    exact hdetached rfl fun q hq => Option.some.inj (hq.symm.trans hown)
  | retracted x =>
    obtain ⟨-, -, hx⟩ := (hg.each p.identity).busy t _ ht rfl
    exact hdeleted x.queue hx
  | gaveUp => exact habandon _ _
  | _ => exact .refl _ _

/-! ## On the way -/

/-- A bind of its own has got the lock and put its connection in the place of the one before. What it has
not heard from the broker yet is what the broker has been going to answer all along. -/
structure Underway (g : Gateway) (t : Ticket) (p : Principal) (h : Handle) (g₁ : Gateway)
    (stage : BindStage) : Prop where
  consistent : g₁.Consistent
  call : g₁.calls.get? t = some (.bind p h stage)
  entered : stage ≠ .waiting
  connections : g₁.connections = (g.registered p.identity h).connections
  within : g.Within p.identity g₁
  others : ∀ j, j ≠ p.identity → g.Spares j g₁
  streams : g.broker.Apart p.identity.text g₁.broker
  steady : stage.Steady g₁.broker (p.binding g.exchange)
  fault : stage.fault? (g.broker.refusal? p.identity.text) = g.broker.refusal? p.identity.text

/-- What a bind leaves at its identity, by its answer: the broker accepted the subscription, and all is there
for the connection, or refused it, and nothing is there and the connection has to close. -/
def Leaves (g : Gateway) (p : Principal) (h : Handle) (g' : Gateway) :
    Except BrokerError Identity → Prop
  | .ok i =>
    g.broker.refusal? p.identity.text = none ∧ i = p.identity ∧
    g'.registry.get? p.identity = some h ∧
    (∃ s, g'.consumers.get? p.identity = some ⟨p.binding g.exchange, s⟩ ∧
      g'.broker.queues.get? p.identity.text = some (p.binding g.exchange, s) ∧
      g'.relays.get? s = some ⟨p.identity, some h.connId⟩) ∧
    g'.stopOf h = g.stopOf h
  | .error e =>
    g.broker.refusal? p.identity.text = some e ∧
    g'.registry.get? p.identity = none ∧ g'.consumers.get? p.identity = none ∧
    g'.broker.queues.get? p.identity.text = none ∧
    g'.stopOf h = some ((g.stopOf h).getD (.close .setupFailed))

/-- What was there before a bind is replaced at its identity and unchanged elsewhere. -/
structure Replaced (g : Gateway) (p : Principal) (h : Handle) (g' : Gateway) : Prop where
  prior : ∀ k, g.registry.get? p.identity = some k →
    g'.stopOf k = some ((g.stopOf k).getD (.close .superseded))
  unrelayed : ∀ s r, g.relays.get? s = some r → r.identity = p.identity → g'.relays.get? s ≠ some r
  connections : ∀ slot, slot ≠ h.slot → (∀ k, g.registry.get? p.identity = some k → k.slot ≠ slot) →
    g'.connections.get? slot = g.connections.get? slot
  within : g.Within p.identity g'
  relays : ∀ s r, r.identity ≠ p.identity → (g'.relays.get? s = some r ↔ g.relays.get? s = some r)
  streams : g.broker.Apart p.identity.text g'.broker

theorem stopOf_congr (hc : g'.connections.get? h.slot = g.connections.get? h.slot) :
    g'.stopOf h = g.stopOf h := by
  unfold stopOf connection?
  rw [hc]

theorem stopOf_registered (hg : g.Handled) {i : Identity} {k : Handle}
    (hk : g.registry.get? i = some k) (h : Handle) :
    (g.registered i h).stopOf k = some ((g.stopOf k).getD (.close .superseded)) := by
  have hprior : (g.view.entry i).handle = some k := hk
  change (g.registered i h).stopAt k.slot = _
  rw [stopAt_registered hg, View.supersede, hprior]
  exact if_pos rfl

theorem connections_registered {i : Identity} {slot : Nat}
    (hother : ∀ k, g.registry.get? i = some k → k.slot ≠ slot) (h : Handle) :
    (g.registered i h).connections.get? slot = g.connections.get? slot := by
  unfold registered
  split
  · next k hk => exact (Table.get?_adjust _ _ _ _).trans (if_neg (hother k hk).symm)
  · rfl

theorem stopOf_close (ho : g.Opened h) (reason : CloseReason) :
    (g.close h reason).stopOf h = some ((g.stopOf h).getD (.close reason)) :=
  (congrFun (stopAt_close ho reason) h.slot).trans (if_pos rfl)

theorem connections_close (g : Gateway) (h : Handle) (reason : CloseReason) {slot : Nat}
    (hne : slot ≠ h.slot) : (g.close h reason).connections.get? slot = g.connections.get? slot :=
  (Table.get?_adjust _ _ _ _).trans (if_neg hne)

/-- A call that is over does not go on. -/
theorem run_of_done {n : Nat} {o : Outcome} (hdone : g.calls.get? t = some (.done o))
    (hrun : g.run (List.replicate n (.advance t)) = some g') : g' = g := by
  cases n with
  | zero => exact (Option.some.inj hrun).symm
  | succ n =>
    rw [List.replicate_succ] at hrun
    obtain ⟨g₁, ha, -⟩ := run_cons_eq_some.mp hrun
    rw [act?, step?, hdone] at ha
    cases ha

/-- The bind enters its section. -/
theorem Consistent.underway (hg : g.Consistent) (hup : g.shuttingDown = false)
    (ht : g.calls.get? t = some (.bind p h .waiting)) (hs : BindStep g t p h .waiting g') :
    ∃ stage, g.Underway t p h g' stage := by
  have hentered : ∀ stage, g'.calls.get? t = some (.bind p h stage) → stage ≠ .waiting →
      g'.connections = (g.registered p.identity h).connections →
      stage.Steady g'.broker (p.binding g.exchange) →
      (∀ refused, stage.fault? refused = refused) → ∃ stage, g.Underway t p h g' stage :=
    fun stage hcall hne hconnections hsteady hfault => ⟨stage, hg.happening (.goesOn ht (.bind hs)),
      hcall, hne, hconnections, hg.bindStep_within ht hs, fun _ hj => hg.spares_bindStep ht hs hj,
      hg.bindStep_apart ht hs, hsteady, hfault _⟩
  cases hs with
  | refused _ hdown => cases hup.symm.trans hdown
  | @clears c _ _ hprior hc =>
    obtain ⟨k, hk⟩ := ((hg.each p.identity).consumed c hc).registered
    cases hprior.symm.trans hk
  | evicts _ _ _ _ =>
    exact hentered _ ((calls_setCall _ _ _ _).trans (if_pos rfl)) (by rintro ⟨⟩) rfl trivial
      fun _ => rfl
  | enters _ _ _ =>
    exact hentered _ ((calls_setCall _ _ _ _).trans (if_pos rfl)) (by rintro ⟨⟩) rfl trivial
      fun _ => rfl

namespace Underway

theorem fits (hu : g.Underway t p h g₁ stage) : g₁.registry.get? p.identity = some h ∧
    g₁.consumers.get? p.identity = none ∧ stage.Fits g₁.broker (p.binding g.exchange) := by
  obtain ⟨hreg, hcons, hfits⟩ :=
    (hu.consistent.each p.identity).busy t _ hu.call (Call.section_bind hu.entered)
  refine ⟨hreg, hcons, ?_⟩
  rwa [bindingFor, hu.within.exchange] at hfits

/-- Until it has heard from the broker, the bind stays on its way. -/
theorem step (hu : g.Underway t p h g₁ stage) (hup : g.shuttingDown = false)
    (hs : BindStep g₁ t p h stage g₂) : (∃ stage', g.Underway t p h g₂ stage') ∨
      (∃ e, stage = .opening (.declared (.error e)) ∧ g₂ = g₁.abandonBind t p h .setupFailed e) ∨
      ∃ s, stage = .opening (.declared (.ok s)) ∧ g₂ =
        (g₁.attach p.identity (p.binding g.exchange) s).finish t (.bound (.ok p.identity)) := by
  have hown : g₁.bindingFor p.identity p.bindingPattern = p.binding g.exchange := by
    rw [bindingFor, hu.within.exchange]
    rfl
  have hup₁ := hu.within.shuttingDown.trans hup
  have hmoves : ∀ stage', g₂.calls.get? t = some (.bind p h stage') → stage' ≠ .waiting →
      g₂.connections = g₁.connections →
      stage'.Steady g₂.broker (g₁.bindingFor p.identity p.bindingPattern) →
      stage'.fault? (g.broker.refusal? p.identity.text) = g.broker.refusal? p.identity.text →
      ∃ stage', g.Underway t p h g₂ stage' :=
    fun stage' hcall hne hconnections hsteady hfault => ⟨stage',
      hu.consistent.happening (.goesOn hu.call (.bind hs)), hcall, hne,
      hconnections.trans hu.connections, hu.within.trans (hu.consistent.bindStep_within hu.call hs),
      fun j hj => (hu.others j hj).trans (hu.consistent.spares_bindStep hu.call hs hj),
      hu.streams.trans (hu.consistent.bindStep_apart hu.call hs), hown ▸ hsteady, hfault⟩
  cases hs with
  | refused _ _ => exact absurd rfl hu.entered
  | evicts _ _ _ _ => exact absurd rfl hu.entered
  | clears _ _ _ _ => exact absurd rfl hu.entered
  | enters _ _ _ => exact absurd rfl hu.entered
  | finds hc => cases hu.fits.2.1.symm.trans hc
  | retracts s hdown => cases hup₁.symm.trans hdown
  | retracted x => exact absurd hu.steady id
  | gaveUp => exact absurd hu.steady id
  | fails e => exact .inr (.inl ⟨e, rfl, rfl⟩)
  | succeeds s _ => exact .inr (.inr ⟨s, rfl, by rw [hown]⟩)
  | declares =>
    have habsent : g₁.broker.queues.get? (g₁.bindingFor p.identity p.bindingPattern).queue = none :=
      hu.fits.2.2
    obtain ⟨hfault, hsteady⟩ := BindStage.declared_spec habsent
    rw [hu.within.refusal] at hfault
    exact .inl (hmoves _ ((calls_setCall _ _ _ _).trans (if_pos rfl)) (by rintro ⟨⟩) rfl hsteady hfault)
  | _ =>
    exact .inl (hmoves _ ((calls_setCall _ _ _ _).trans (if_pos rfl)) (by rintro ⟨⟩) rfl trivial rfl)

/-- The state in which the bind ends differs from the one before in nothing that others see. -/
theorem replaced (hu : g.Underway t p h g₁ stage) (hg : g.Consistent)
    (hfresh : ∀ k, g.registry.get? p.identity = some k → k.connId ≠ h.connId ∧ k.slot ≠ h.slot)
    (hs : BindStep g₁ t p h stage g₂)
    (hconnections : ∀ slot, slot ≠ h.slot → g₂.connections.get? slot = g₁.connections.get? slot)
    (howner : ∀ s r, g₂.relays.get? s = some r → r.identity = p.identity → r.owner = some h.connId) :
    g.Replaced p h g₂ where
  prior k hk := by
    have hsame : (g₂.stopOf k) = (g.registered p.identity h).stopOf k :=
      stopOf_congr (by rw [hconnections _ (hfresh k hk).2, hu.connections])
    rw [hsame, stopOf_registered hg.handled hk]
  unrelayed s r hr hrj hs := by
    obtain ⟨k, hk, hown⟩ := ((hg.each p.identity).relayed s r hr hrj).owner
    exact (hfresh k hk).1 (Option.some.inj (hown.symm.trans (howner s r hs hrj)))
  connections slot hne hother := by
    rw [hconnections slot hne, hu.connections, connections_registered hother]
  within := hu.within.trans (hu.consistent.bindStep_within hu.call hs)
  relays s r hr :=
    ((hu.others _ hr).trans (hu.consistent.spares_bindStep hu.call hs hr)).relays s r rfl
  streams := hu.streams.trans (hu.consistent.bindStep_apart hu.call hs)

theorem stopOf_own (hu : g.Underway t p h g₁ stage)
    (hslot : ∀ k, g.registry.get? p.identity = some k → k.slot ≠ h.slot) :
    g₁.stopOf h = g.stopOf h :=
  stopOf_congr (by rw [hu.connections, connections_registered hslot])

theorem fails {e : BrokerError} (hu : g.Underway t p h g₁ (.opening (.declared (.error e))))
    (hg : g.Consistent) (ho : g.Opened h)
    (hfresh : ∀ k, g.registry.get? p.identity = some k → k.connId ≠ h.connId ∧ k.slot ≠ h.slot) :
    g.Replaced p h (g₁.abandonBind t p h .setupFailed e) ∧
      g.Leaves p h (g₁.abandonBind t p h .setupFailed e) (.error e) := by
  obtain ⟨hreg, hcons, hqueue⟩ := hu.fits
  have hclose := (ConnectionsOnly.close (g₁.unregistered p.identity) h .setupFailed).rest
  have ho₁ : (g₁.unregistered p.identity).Opened h := fun hn => ho ((hu.within.opened _).mp hn)
  refine ⟨hu.replaced hg hfresh (.fails e) (fun slot hne => ?_) fun s r hr hrj => ?_,
    hu.fault.symm, ?_, ?_, ?_, ?_⟩ <;> rw [abandonBind_eq hreg] at *
  · exact connections_close _ h _ hne
  · rw [finish, hclose] at hr
    exact absurd hrj ((hu.consistent.each p.identity).unrelayed hcons s r hr)
  · rw [finish, hclose]
    exact (Table.get?_erase _ _ _).trans (if_pos rfl)
  · rw [finish, hclose]
    exact hcons
  · rw [finish, hclose]
    exact hqueue
  · refine (stopOf_close ho₁ .setupFailed).trans ?_
    rw [← hu.stopOf_own fun k hk => (hfresh k hk).2]
    rfl

theorem succeeds {s : StreamId} (hu : g.Underway t p h g₁ (.opening (.declared (.ok s))))
    (hg : g.Consistent)
    (hfresh : ∀ k, g.registry.get? p.identity = some k → k.connId ≠ h.connId ∧ k.slot ≠ h.slot)
    (hs : BindStep g₁ t p h (.opening (.declared (.ok s)))
      ((g₁.attach p.identity (p.binding g.exchange) s).finish t (.bound (.ok p.identity)))) :
    let g₂ := (g₁.attach p.identity (p.binding g.exchange) s).finish t (.bound (.ok p.identity))
    g.Replaced p h g₂ ∧ g.Leaves p h g₂ (.ok p.identity) := by
  obtain ⟨hreg, hcons, -⟩ := hu.fits
  intro g₂
  have hrelays : ∀ u, g₂.relays.get? u =
      if u = s then some ⟨p.identity, some h.connId⟩ else g₁.relays.get? u := by
    intro u
    refine (Table.get?_insert g₁.relays s u _).trans ?_
    rw [hreg]
    rfl
  refine ⟨hu.replaced hg hfresh hs (fun _ _ => rfl) fun u r hr hrj => ?_, hu.fault.symm, rfl, hreg,
    ⟨s, ?_, hu.steady, (hrelays s).trans (if_pos rfl)⟩, ?_⟩
  · rw [hrelays] at hr
    split at hr
    · cases hr
      rfl
    · exact absurd hrj ((hu.consistent.each p.identity).unrelayed hcons u r hr)
  · exact (Table.get?_insert _ _ _ _).trans (if_pos rfl)
  · exact hu.stopOf_own fun k hk => (hfresh k hk).2

theorem run {n : Nat} {o : Outcome} (hu : g.Underway t p h g₁ stage)
    (hg : g.Consistent) (hup : g.shuttingDown = false) (ho : g.Opened h)
    (hfresh : ∀ k, g.registry.get? p.identity = some k → k.connId ≠ h.connId ∧ k.slot ≠ h.slot)
    (hrun : g₁.run (List.replicate n (.advance t)) = some g') (hover : g'.outcome? t = some o) :
    ∃ answer, o = .bound answer ∧ g.Replaced p h g' ∧ g.Leaves p h g' answer := by
  induction n generalizing g₁ stage with
  | zero =>
    cases hrun
    cases hu.call.symm.trans (done_of_outcome hover)
  | succ n ih =>
    rw [List.replicate_succ] at hrun
    obtain ⟨g₂, ha, hrest⟩ := run_cons_eq_some.mp hrun
    obtain ⟨c, hc, hs⟩ := callStep_of_step ha (hu.consistent.locking.isPublic t)
    cases hu.call.symm.trans hc
    have hends : ∀ {o'}, g₂.calls.get? t = some (.done o') → g' = g₂ ∧ o = o' := by
      intro o' hdone
      obtain rfl := run_of_done hdone hrest
      exact ⟨rfl, Option.some.inj (hover.symm.trans (outcome_of_done hdone))⟩
    cases hs with
    | bind hs =>
      rcases hu.step hup hs with ⟨stage', hu₂⟩ | ⟨e, rfl, rfl⟩ | ⟨s, rfl, rfl⟩
      · exact ih hu₂ hrest
      · obtain ⟨rfl, he⟩ := hends ((calls_finish _ _ _ _).trans (if_pos rfl))
        exact ⟨_, he, hu.fails hg ho hfresh⟩
      · obtain ⟨rfl, he⟩ := hends ((calls_finish _ _ _ _).trans (if_pos rfl))
        exact ⟨_, he, hu.succeeds hg hfresh hs⟩

end Underway

/-- A bind that waits for its lock comes to its end in this way once it goes on by itself. -/
theorem Consistent.bind_ends {n : Nat} {o : Outcome} (hg : g.Consistent)
    (hup : g.shuttingDown = false) (ho : g.Opened h)
    (hfresh : ∀ k, g.registry.get? p.identity = some k → k.connId ≠ h.connId ∧ k.slot ≠ h.slot)
    (ht : g.calls.get? t = some (.bind p h .waiting))
    (hrun : g.run (List.replicate n (.advance t)) = some g') (hover : g'.outcome? t = some o) :
    ∃ answer, o = .bound answer ∧ g.Replaced p h g' ∧ g.Leaves p h g' answer := by
  cases n with
  | zero =>
    cases hrun
    cases ht.symm.trans (done_of_outcome hover)
  | succ n =>
    rw [List.replicate_succ] at hrun
    obtain ⟨g₁, ha, hrest⟩ := run_cons_eq_some.mp hrun
    obtain ⟨c, hc, hs⟩ := callStep_of_step ha (hg.locking.isPublic t)
    cases ht.symm.trans hc
    cases hs with
    | bind hs =>
      obtain ⟨stage, hu⟩ := hg.underway hup ht hs
      exact hu.run hg hup ho hfresh hrest hover

/-- A bind that is made while nothing else goes on comes to its end if no other call has a claim on the lock,
and whatever it answers is the broker's decision and is what it leaves behind.

The connection is a new one: its number is not registered, and no other number was bound to its outbox. -/
theorem bind_outcome {exchange : String} {refusing : Bool} {as : List Action} {g g₁ : Gateway}
    {p : Principal} {h : Handle} (hrun : run { exchange, broker := { refusing } } as = some g)
    (hup : g.shuttingDown = false)
    (hnew : ∀ i k, g.registry.get? i = some k → k.connId ≠ h.connId)
    (hnumber : ∀ e ∈ binds as, e.2.slot = h.slot → e.2.connId = h.connId)
    (hstart : g.act? (.bind p h) = some g₁) :
    ((∀ t c, g.calls.get? t = some c → c.wanted? ≠ some p.identity) →
      ∃ n g' o, g₁.run (List.replicate n (.advance g.nextTicket)) = some g' ∧
        g'.outcome? g.nextTicket = some o) ∧
    ∀ n g' o, g₁.run (List.replicate n (.advance g.nextTicket)) = some g' →
      g'.outcome? g.nextTicket = some o →
      ∃ answer, o = .bound answer ∧ g.Replaced p h g' ∧ g.Leaves p h g' answer := by
  have hg := (consistent_fresh exchange refusing).run hrun
  have hg₁ := hg.act hstart
  obtain ⟨ho, he⟩ := Option.ite_none_right_eq_some.mp hstart
  cases he
  have ht := (calls_started g (.bind p h .waiting) p.identity g.nextTicket).trans (if_pos rfl)
  refine ⟨fun hfree => ?_, fun n g' o halone hover => ?_⟩
  · refine hg₁.completes ht (.inl ⟨.bind p h, rfl⟩) fun _ => hg₁.locking.holds_of_sole ht rfl ?_
    intro u d hu hd
    by_contra hne
    exact hfree u d ((calls_started g _ _ u).trans (if_neg hne) ▸ hu) hd
  · have hfresh : ∀ k, g.registry.get? p.identity = some k →
        k.connId ≠ h.connId ∧ k.slot ≠ h.slot := by
      intro k hk
      obtain ⟨t, q, hq, -, -⟩ := (ledger_of_run hrun).registered _ k hk
      exact ⟨hnew _ k hk, fun hs => hnew _ k hk (hnumber _ (mem_binds_of_asked hrun hq) hs)⟩
    obtain ⟨answer, he, hreplaced, hleaves⟩ :=
      hg₁.bind_ends hup (Option.isSome_iff_ne_none.mp ho) hfresh ht halone hover
    -- Asking for the lock has changed nothing that is compared.
    obtain ⟨hprior, hunrelayed, hconnections, hwithin, hrelays, hstreams⟩ := hreplaced
    refine ⟨answer, he, ⟨hprior, hunrelayed, hconnections, ?_, hrelays, hstreams⟩, ?_⟩
    · exact ⟨hwithin.opened, hwithin.exchange, hwithin.shuttingDown, hwithin.refusal,
        hwithin.registry, hwithin.consumers, hwithin.queues⟩
    · cases answer with
      | ok i => exact hleaves
      | error e => exact hleaves

/-- The broker begins to refuse, and a second phone takes the place of the first one before it is told to
close itself, while the watch stays. -/
theorem bind_outcome_refused : ∃ g g₁ g', ({} : Gateway).run
      [.connect 1 4, .connect 2 4, .connect 3 4,
        .bind ⟨⟨"ada", by decide⟩, ⟨"phone", by decide⟩⟩ ⟨1, 0⟩, .advance 0, .advance 0, .advance 0,
        .bind ⟨⟨"ada", by decide⟩, ⟨"watch", by decide⟩⟩ ⟨2, 1⟩, .advance 1, .advance 1, .advance 1,
        .refuse true] = some g ∧
    g.act? (.bind ⟨⟨"ada", by decide⟩, ⟨"phone", by decide⟩⟩ ⟨3, 2⟩) = some g₁ ∧
    g₁.run (List.replicate 5 (.advance 2)) = some g' ∧
    g'.outcome? 2 = some (.bound (.error (.setup "location.ada.phone" "subscriptions disabled"))) ∧
    g'.stopOf ⟨1, 0⟩ = some (.close .superseded) ∧ g'.stopOf ⟨3, 2⟩ = some (.close .setupFailed) ∧
    g'.registry.get? ⟨"location.ada.phone"⟩ = none ∧
    g'.registry.get? ⟨"location.ada.watch"⟩ = some ⟨2, 1⟩ := by
  obtain ⟨g', hwhole⟩ := Option.isSome_iff_exists.mp (show (({} : Gateway).run
    ([.connect 1 4, .connect 2 4, .connect 3 4,
        .bind ⟨⟨"ada", by decide⟩, ⟨"phone", by decide⟩⟩ ⟨1, 0⟩, .advance 0, .advance 0, .advance 0,
        .bind ⟨⟨"ada", by decide⟩, ⟨"watch", by decide⟩⟩ ⟨2, 1⟩, .advance 1, .advance 1, .advance 1,
        .refuse true] ++
      .bind ⟨⟨"ada", by decide⟩, ⟨"phone", by decide⟩⟩ ⟨3, 2⟩ ::
        List.replicate 5 (.advance 2))).isSome = true by rfl)
  obtain ⟨g, hrun, hlast⟩ := run_append_eq_some.mp hwhole
  obtain ⟨g₁, hstart, halone⟩ := run_cons_eq_some.mp hlast
  have hover : g'.outcome? 2 = some (.bound (.error (.setup "location.ada.phone"
      "subscriptions disabled"))) := run_shows hwhole (fun g => g.outcome? 2) rfl
  have hticket : g.nextTicket = 2 := run_shows hrun (fun g => g.nextTicket) rfl
  have hregistry : g.registry.entries =
      [(⟨"location.ada.watch"⟩, ⟨2, 1⟩), (⟨"location.ada.phone"⟩, ⟨1, 0⟩)] :=
    run_shows hrun (fun g => g.registry.entries) rfl
  have hstops : (g.stopOf ⟨1, 0⟩, g.stopOf ⟨3, 2⟩) = (none, none) :=
    run_shows hrun (fun g => (g.stopOf ⟨1, 0⟩, g.stopOf ⟨3, 2⟩)) rfl
  obtain ⟨hstop₁, hstop₃⟩ := Prod.mk.inj hstops
  have hentry : ∀ i k, g.registry.get? i = some k ↔ (i, k) ∈ g.registry.entries :=
    fun i k => (g.registry.mem_entries_iff).symm
  rw [hregistry] at hentry
  obtain ⟨answer, ho, hreplaced, hleaves⟩ := (bind_outcome hrun
    (run_shows hrun (fun g => g.shuttingDown) rfl)
    (fun i k hk => by
      have hmem := (hentry i k).mp hk
      simp only [List.mem_cons, Prod.mk.injEq, List.not_mem_nil, or_false] at hmem
      rcases hmem with ⟨-, rfl⟩ | ⟨-, rfl⟩ <;> decide)
    (by decide) hstart).2 5 g' _ (hticket ▸ halone) (hticket ▸ hover)
  cases ho
  obtain ⟨-, hgone, -, -, hstop⟩ := hleaves
  refine ⟨g, g₁, g', hrun, hstart, halone, hover, ?_, ?_, hgone, ?_⟩
  · rw [hreplaced.prior ⟨1, 0⟩ ((hentry _ _).mpr (by decide)), hstop₁]
    rfl
  · rw [hstop, hstop₃]
    rfl
  · rw [hreplaced.within.registry _ (by decide)]
    exact (hentry _ _).mpr (by decide)

end Gateway
end LocationRelay
