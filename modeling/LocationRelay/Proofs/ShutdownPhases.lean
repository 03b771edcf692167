import LocationRelay.Proofs.Queues
import LocationRelay.Proofs.Registrations

/-! # The phases of a shutdown

A shutdown raises its flag, stops the consumers it found one after the other, and closes the broker.
Since no consumer is started while the flag is up, the consumers that are left at any moment are among
those that the shutdown still has before it.
-/
namespace LocationRelay

def ShutdownStage.remaining : ShutdownStage → List Identity
  | .stopping is | .deleting _ is => is
  | _ => []

namespace Gateway

/-- A shutdown has raised its flag and is not over. -/
def ShuttingDownAt (g : Gateway) (t : Ticket) (stage : ShutdownStage) : Prop :=
  g.calls.get? t = some (.shutdown stage) ∧ stage ≠ .starting

structure Phased (g : Gateway) : Prop where
  flagged : ∀ t stage, g.ShuttingDownAt t stage → g.shuttingDown = true
  pending : g.shuttingDown = true → ∀ i c, g.consumers.get? i = some c →
    ∃ t stage, g.ShuttingDownAt t stage ∧ i ∈ stage.remaining
  closing : g.shuttingDown = true → g.broker.closed = true ∨ ∃ t stage, g.ShuttingDownAt t stage

/-- No consumer is started, the flag stays as it is, and a closed broker stays closed. -/
structure Winds (g g' : Gateway) : Prop where
  consumers : ∀ i c, g'.consumers.get? i = some c → g.consumers.get? i = some c
  shuttingDown : g'.shuttingDown = g.shuttingDown
  closed : g.broker.closed = true → g'.broker.closed = true

namespace Winds

theorem refl (g : Gateway) : g.Winds g := ⟨fun _ _ h => h, rfl, fun h => h⟩

theorem trans {g₁ g₂ g₃ : Gateway} (h : g₁.Winds g₂) (h' : g₂.Winds g₃) : g₁.Winds g₃ where
  consumers i c hc := h.consumers i c (h'.consumers i c hc)
  shuttingDown := h'.shuttingDown.trans h.shuttingDown
  closed hc := h'.closed (h.closed hc)

theorem of_eq {g g' : Gateway} (hc : g'.consumers = g.consumers)
    (hd : g'.shuttingDown = g.shuttingDown) (hb : g'.broker.closed = g.broker.closed) :
    g.Winds g' :=
  ⟨fun _ _ h => hc ▸ h, hd, fun h => hb.trans h⟩

theorem detached (g : Gateway) (i : Identity) (c : Consumer) : g.Winds (g.detached i c) where
  consumers j k hk := by
    simp only [Gateway.detached, Table.get?_erase] at hk
    split at hk
    · cases hk
    · exact hk
  shuttingDown := rfl
  closed hc := by
    simp only [Gateway.detached]
    split <;> exact hc

theorem deleteQueue (g : Gateway) (q : String) : g.Winds (g.deleteQueue q) :=
  .of_eq rfl rfl (Broker.closed_unsubscribe g.broker q)

theorem declare (g : Gateway) (x : Binding) : g.Winds (g.declare x).2 := by
  refine .of_eq rfl rfl ?_
  change (g.broker.subscribe x).2.closed = _
  unfold Broker.subscribe
  split
  · rfl
  · split
    · rfl
    · split <;> rfl

theorem close (g : Gateway) : g.Winds { g with broker := g.broker.close } :=
  ⟨fun _ _ h => h, rfl, fun _ => rfl⟩

end Winds

theorem ConnectionsOnly.winds {g g' : Gateway} (h : g.ConnectionsOnly g') : g.Winds g' :=
  .of_eq (by rw [h.rest]) (by rw [h.rest]) (by rw [h.rest])

theorem Winds.registered (g : Gateway) (i : Identity) (h : Handle) : g.Winds (g.registered i h) := by
  have hinsert : g.Winds { g with registry := g.registry.insert i h } := .of_eq rfl rfl rfl
  exact hinsert.trans (registered_spec g i h).winds

theorem Winds.release (g : Gateway) (i : Identity) (connId : Nat) :
    g.Winds (g.release i connId).2 := by
  rcases release_eq g i connId with h | h <;> rw [h] <;> exact .of_eq rfl rfl rfl

theorem Winds.relayStep {g g' : Gateway} {s : StreamId} {r : Relay} (h : RelayStep g s r g') :
    g.Winds g' := by
  cases h with
  | @delivers d b hnext =>
    have hbroker : g.Winds { g with broker := b } := .of_eq rfl rfl (Broker.refills_next hnext).closed
    have hforward := (ConnectionsOnly.forward { g with broker := b } r.identity d.payload).winds
    exact (hbroker.trans hforward).trans (.of_eq rfl rfl rfl)
  | loses _ =>
    have hdropped : g.Winds (g.unrelayed s) := .of_eq rfl rfl rfl
    exact hdropped.trans (ConnectionsOnly.loseSubscription g s r).winds

theorem Winds.brokerStep {g : Gateway} {b : Broker} (h : BrokerStep g.broker b) :
    g.Winds { g with broker := b } := by
  cases h with
  | publishes exchange key payload =>
    exact .of_eq rfl rfl (g.broker.refills_publish exchange key payload).closed
  | refuses on => exact .of_eq rfl rfl rfl
  | loses queue => exact .deleteQueue g queue
  | closes => exact .close g

/-- Whatever starts no consumer and leaves the shutdowns in progress where they are. -/
theorem Phased.winds {g g' : Gateway} (hg : g.Phased) (hw : g.Winds g')
    (hcalls : ∀ t stage, g'.ShuttingDownAt t stage ↔ g.ShuttingDownAt t stage) : g'.Phased where
  flagged t stage ht := hw.shuttingDown.trans (hg.flagged t stage ((hcalls t stage).mp ht))
  pending hd i c hc := by
    obtain ⟨t, stage, ht, hi⟩ := hg.pending (hw.shuttingDown ▸ hd) i c (hw.consumers i c hc)
    exact ⟨t, stage, (hcalls t stage).mpr ht, hi⟩
  closing hd := by
    rcases hg.closing (hw.shuttingDown ▸ hd) with hc | ⟨t, stage, ht⟩
    · exact .inl (hw.closed hc)
    · exact .inr ⟨t, stage, (hcalls t stage).mpr ht⟩

theorem Phased.sameCalls {g g' : Gateway} (hg : g.Phased) (hw : g.Winds g') (hs : g.SameCalls g') :
    g'.Phased :=
  hg.winds hw fun t stage => by rw [ShuttingDownAt, ShuttingDownAt, hs.calls]

/-- A call that is neither at work as a shutdown nor becomes one does not matter. -/
theorem Phased.setCall {g : Gateway} (hg : g.Phased) {t : Ticket} {d : Call}
    (hold : ∀ stage, ¬ g.ShuttingDownAt t stage)
    (hnew : ∀ stage, d = .shutdown stage → stage = .starting) : (g.setCall t d).Phased := by
  refine hg.winds (.of_eq rfl rfl rfl) fun u stage => ?_
  by_cases hu : u = t
  · subst hu
    refine ⟨fun h => ?_, fun h => absurd h (hold stage)⟩
    simp only [ShuttingDownAt, Gateway.setCall, Table.get?_insert, if_true, Option.some.injEq] at h
    exact absurd (hnew stage h.1) h.2
  · simp only [ShuttingDownAt, Gateway.setCall, Table.get?_insert, if_neg hu]

theorem Phased.finish {g : Gateway} (hg : g.Phased) {t : Ticket}
    (hold : ∀ stage, ¬ g.ShuttingDownAt t stage) (o : Outcome) : (g.finish t o).Phased := by
  have hset : (g.setCall t (.done o)).Phased := hg.setCall hold fun _ h => by cases h
  exact hset.winds (.of_eq rfl rfl rfl) fun _ _ => .rfl

theorem ShutdownStage.ne_starting_of_mem {stage : ShutdownStage} {i : Identity}
    (h : i ∈ stage.remaining) : stage ≠ .starting := by
  rintro rfl
  cases h

/-- One shutdown goes on while the others stay where they are. Every consumer has to be before it or
before another one, and it has to be at work unless the broker is closed. -/
theorem Phased.advance {g : Gateway} {t : Ticket} {d : Call} (hdown : g.shuttingDown = true)
    (hpending : ∀ i c, g.consumers.get? i = some c →
      (∃ stage, d = .shutdown stage ∧ i ∈ stage.remaining) ∨
        ∃ u stage, u ≠ t ∧ g.ShuttingDownAt u stage ∧ i ∈ stage.remaining)
    (hclosing : g.broker.closed = true ∨ ∃ stage, d = .shutdown stage ∧ stage ≠ .starting) :
    (g.setCall t d).Phased := by
  have hself : ∀ {stage}, d = .shutdown stage → stage ≠ .starting →
      (g.setCall t d).ShuttingDownAt t stage := by
    intro stage hd hne
    exact ⟨by simp only [Gateway.setCall, Table.get?_insert, if_true, hd], hne⟩
  refine ⟨fun _ _ _ => hdown, fun _ i c hc => ?_, fun _ => ?_⟩
  · rcases hpending i c hc with ⟨stage, hd, hi⟩ | ⟨u, stage, hu, hat, hi⟩
    · exact ⟨t, stage, hself hd (ShutdownStage.ne_starting_of_mem hi), hi⟩
    · refine ⟨u, stage, ?_, hi⟩
      simpa only [ShuttingDownAt, Gateway.setCall, Table.get?_insert, if_neg hu] using hat
  · rcases hclosing with hc | ⟨stage, hd, hne⟩
    · exact .inl hc
    · exact .inr ⟨t, stage, hself hd hne⟩

/-- A consumer that is left is before the shutdown of a given ticket, or before another one. -/
theorem Phased.pending_or {g : Gateway} (hg : g.Phased) {t : Ticket} {stage : ShutdownStage}
    (ht : g.ShuttingDownAt t stage) {i : Identity} {c : Consumer}
    (hc : g.consumers.get? i = some c) : i ∈ stage.remaining ∨
      ∃ u stage', u ≠ t ∧ g.ShuttingDownAt u stage' ∧ i ∈ stage'.remaining := by
  obtain ⟨u, stage', hu, hi⟩ := hg.pending (hg.flagged t stage ht) i c hc
  by_cases hut : u = t
  · subst hut
    have he := ht.1.symm.trans hu.1
    cases he
    exact .inl hi
  · exact .inr ⟨u, stage', hut, hu, hi⟩

theorem Phased.stopStep {g g' : Gateway} {t : Ticket} {is : List Identity}
    (hdown : g.shuttingDown = true) (hpending : ∀ i c, g.consumers.get? i = some c →
      i ∈ is ∨ ∃ u stage, u ≠ t ∧ g.ShuttingDownAt u stage ∧ i ∈ stage.remaining)
    (hs : StopStep g t is g') : g'.Phased := by
  cases hs with
  | none_left _ hgone =>
    refine .advance hdown (fun i c hc => ?_) (.inr ⟨_, rfl, fun h => by cases h⟩)
    rcases hpending i c hc with hi | hother
    · rw [hgone i hi] at hc
      cases hc
    · exact .inr hother
  | @stops j k skipped rest hgone hk =>
    refine .advance (g := g.detached j k) hdown (fun i c hc => ?_)
      (.inr ⟨_, rfl, fun h => by cases h⟩)
    simp only [detached, Table.get?_erase, Option.ite_none_left_eq_some] at hc
    obtain ⟨hij, hc⟩ := hc
    rcases hpending i c hc with hi | hother
    · rcases List.mem_append.mp hi with hi | hi
      · rw [hgone i hi] at hc
        cases hc
      · exact .inl ⟨_, rfl, (List.mem_cons.mp hi).resolve_left hij⟩
    · exact .inr hother

/-- A bind winds down whatever it finds, unless it succeeds while there is no shutdown. -/
theorem BindStep.winds {g g' : Gateway} {t : Ticket} {p : Principal} {h : Handle}
    {stage : BindStage} (hs : BindStep g t p h stage g') :
    g.Winds g' ∨ g.shuttingDown = false ∧ g'.shuttingDown = false := by
  have hset : ∀ {g₁ : Gateway} (d : Call), g.Winds g₁ → g.Winds (g₁.setCall t d) :=
    fun d hw => hw.trans (.of_eq rfl rfl rfl)
  have hfinish : ∀ {g₁ : Gateway} (o : Outcome), g.Winds g₁ → g.Winds (g₁.finish t o) :=
    fun o hw => hw.trans (.of_eq rfl rfl rfl)
  have habandon : ∀ reason e, g.Winds (g.abandonBind t p h reason e) := by
    intro reason e
    exact hfinish _ ((Winds.release g p.identity h.connId).trans
      (ConnectionsOnly.close (g.release p.identity h.connId).2 h reason).winds)
  have hregistered := Winds.registered g p.identity h
  cases hs with
  | refused _ _ => exact .inl (hfinish _ (ConnectionsOnly.close g h .shutdown).winds)
  | evicts _ _ _ _ => exact .inl (hset _ (hregistered.trans (.detached _ _ _)))
  | clears _ _ _ _ => exact .inl (hset _ (hregistered.trans (.detached _ _ _)))
  | enters _ _ _ => exact .inl (hset _ hregistered)
  | evicted x => exact .inl (hset _ (.deleteQueue g _))
  | looks _ => exact .inl (hset _ (.refl g))
  | finds _ => exact .inl (hset _ (.detached g _ _))
  | cleared x => exact .inl (hset _ (.deleteQueue g _))
  | declares => exact .inl (hset _ (.declare g _))
  | fails e => exact .inl (habandon _ _)
  | succeeds s hup => exact .inr ⟨hup, hup⟩
  | retracts s _ =>
    have hback : g.Winds ((g.attach p.identity (g.bindingFor p.identity p.bindingPattern) s).detached
        p.identity ⟨g.bindingFor p.identity p.bindingPattern, s⟩) := by
      refine ⟨fun i c hc => ?_, rfl, (Winds.detached (g.attach p.identity _ s) p.identity _).closed⟩
      simp only [Gateway.detached, attach, Table.get?_erase, Table.get?_insert,
        Option.ite_none_left_eq_some] at hc
      rw [if_neg hc.1] at hc
      exact hc.2
    exact .inl (hset _ hback)
  | retracted x => exact .inl (hset _ (.deleteQueue g _))
  | gaveUp => exact .inl (habandon _ _)

theorem UnbindStep.winds {g g' : Gateway} {t : Ticket} {i : Identity} {connId : Nat}
    {stage : UnbindStage} (hs : UnbindStep g t i connId stage g') : g.Winds g' := by
  have hset : ∀ {g₁ : Gateway} (d : Call), g.Winds g₁ → g.Winds (g₁.setCall t d) :=
    fun d hw => hw.trans (.of_eq rfl rfl rfl)
  have hgone : g.Winds (g.unregistered i) := .of_eq rfl rfl rfl
  cases hs with
  | stale _ _ => exact .of_eq rfl rfl rfl
  | releases _ _ _ => exact hset _ (hgone.trans (.detached _ _ _))
  | forgets _ _ _ => exact .of_eq rfl rfl rfl
  | deletes x => exact hset _ (.deleteQueue g _)
  | ends => exact .of_eq rfl rfl rfl

theorem StopStep.winds {g g' : Gateway} {t : Ticket} {is : List Identity}
    (hs : StopStep g t is g') : g.Winds g' := by
  cases hs with
  | none_left _ _ => exact .of_eq rfl rfl rfl
  | @stops i c _ _ _ _ => exact (Winds.detached g i c).trans (.of_eq rfl rfl rfl)

theorem ShutdownStep.winds {g g' : Gateway} {t : Ticket} {stage : ShutdownStage}
    (hs : ShutdownStep g t stage g') (hdown : g.shuttingDown = true) : g.Winds g' := by
  cases hs with
  | again _ => exact .of_eq rfl rfl rfl
  | begins hup _ => exact absurd (hup.symm.trans hdown) Bool.false_ne_true
  | goesOn is hs => exact hs.winds
  | deletes x is => exact (Winds.deleteQueue g x.queue).trans (.of_eq rfl rfl rfl)
  | disconnects => exact (Winds.close g).trans (.of_eq rfl rfl rfl)

/-- After a step of a shutdown the flag is up. -/
theorem ShutdownStep.raises {g g' : Gateway} {t : Ticket} {stage : ShutdownStage} (hg : g.Phased)
    (ht : g.calls.get? t = some (.shutdown stage)) (hs : ShutdownStep g t stage g') :
    g'.shuttingDown = true := by
  have hraised : stage ≠ .starting → g'.shuttingDown = true := fun hstage =>
    have hdown := hg.flagged t stage ⟨ht, hstage⟩
    (hs.winds hdown).shuttingDown.trans hdown
  cases hs with
  | again hdown => exact hdown
  | begins _ hs =>
    have hflag : g.flagged.shuttingDown = true := by rw [(connectionsOnly_flagged g).rest]
    exact hs.winds.shuttingDown.trans hflag
  | _ => exact hraised (by rintro ⟨⟩)

/-- While the flag is up, whatever happens winds the gateway down. -/
theorem Happening.winds {g g' : Gateway} (h : g.Happening g') (hdown : g.shuttingDown = true) :
    g.Winds g' := by
  cases h with
  | aside h =>
    cases h with
    | visits h => exact h.winds
    | prunes h => exact h.winds.trans (.of_eq rfl rfl rfl)
    | connects connId capacity => exact .of_eq rfl rfl rfl
    | relays _ hs => exact .relayStep hs
    | brokers hb => exact .brokerStep hb
  | asks hc => exact .of_eq rfl rfl rfl
  | startsShutdown => exact .of_eq rfl rfl rfl
  | goesOn ht hs =>
    cases hs with
    | bind hs => exact hs.winds.resolve_right fun hup => by simp [hup.1] at hdown
    | unbind hs => exact hs.winds
    | shutdown hs => exact hs.winds hdown

theorem Moves.shuttingDownAt {g g' : Gateway} {t : Ticket} {c : Call} (hm : Moves g t c g')
    (ht : g.calls.get? t = some c) (hc : ∀ stage, c ≠ .shutdown stage) (u : Ticket)
    (stage : ShutdownStage) : g'.ShuttingDownAt u stage ↔ g.ShuttingDownAt u stage := by
  have hset : ∀ (d : Call), (∀ stage, d ≠ .shutdown stage) →
      ((g.calls.insert t d).get? u = some (.shutdown stage) ↔
        g.calls.get? u = some (.shutdown stage)) := by
    intro d hd
    rw [Table.get?_insert]
    split
    · next he =>
      rw [he, ht]
      exact iff_of_false (fun h => hd _ (Option.some.inj h)) fun h => hc _ (Option.some.inj h)
    · rfl
  unfold ShuttingDownAt
  cases hm with
  | on hsame hd =>
    rw [Gateway.setCall, hsame.calls, hset]
    cases hd with
    | shutdown _ => exact absurd rfl (hc _)
    | _ => exact fun _ => by rintro ⟨⟩
  | out hsame _ =>
    rw [Gateway.finish, hsame.calls, hset]
    exact fun _ => by rintro ⟨⟩

theorem Phased.callStep {g g' : Gateway} (hg : g.Phased) {t : Ticket} {c : Call}
    (ht : g.calls.get? t = some c) (hs : CallStep g t c g') : g'.Phased := by
  have hother : (∀ stage, c ≠ .shutdown stage) →
      g.Winds g' ∨ g.shuttingDown = false ∧ g'.shuttingDown = false → g'.Phased := by
    intro hc hw
    have hcalls := hs.moves.shuttingDownAt ht hc
    rcases hw with hw | ⟨hup, hup'⟩
    · exact hg.winds hw hcalls
    · refine ⟨fun u stage hat => ?_, fun hd => ?_, fun hd => ?_⟩
      · exact absurd (hg.flagged u stage ((hcalls u stage).mp hat)) (by simp [hup])
      · exact absurd (hup'.symm.trans hd) Bool.false_ne_true
      · exact absurd (hup'.symm.trans hd) Bool.false_ne_true
  cases hs with
  | bind hs => exact hother (fun _ => by rintro ⟨⟩) hs.winds
  | unbind hs => exact hother (fun _ => by rintro ⟨⟩) (.inl hs.winds)
  | @shutdown stage _ hs =>
    cases hs with
    | again _ =>
      refine hg.finish (fun stage hat => ?_) _
      cases ht.symm.trans hat.1
      exact hat.2 rfl
    | begins hup hs =>
      have hspec := connectionsOnly_flagged g
      refine .stopStep (by rw [hspec.rest]) (fun i c hc => .inl ?_) hs
      exact (Table.mem_keys_iff _).mpr ⟨c, hc⟩
    | goesOn is hs =>
      have hat : g.ShuttingDownAt t (.stopping is) := ⟨ht, fun h => by cases h⟩
      exact .stopStep (hg.flagged _ _ hat) (fun i c hc => hg.pending_or hat hc) hs
    | deletes x is =>
      have hat : g.ShuttingDownAt t (.deleting x is) := ⟨ht, fun h => by cases h⟩
      refine .advance (g := g.deleteQueue x.queue) (hg.flagged _ _ hat) (fun i c hc => ?_)
        (.inr ⟨_, rfl, fun h => by cases h⟩)
      rcases hg.pending_or hat hc with hi | hother
      · exact .inl ⟨_, rfl, hi⟩
      · exact .inr hother
    | disconnects =>
      have hat : g.ShuttingDownAt t .disconnecting := ⟨ht, fun h => by cases h⟩
      have hset : (Gateway.setCall { g with broker := g.broker.close } t
          (.done .shutDown)).Phased := by
        refine .advance (hg.flagged _ _ hat) (fun i c hc => ?_) (.inl rfl)
        exact .inr ((hg.pending_or hat hc).resolve_left fun hi => by cases hi)
      exact hset.winds (.of_eq rfl rfl rfl) fun _ _ => .rfl

theorem phased_fresh (exchange : String) (refusing : Bool) :
    Phased { exchange, broker := { refusing } } where
  flagged t stage h := by cases h.1
  pending hd := by cases hd
  closing hd := by cases hd

theorem Phased.start {g : Gateway} (hg : g.Phased) (hl : g.Locking) {c : Call}
    (hc : ∀ stage, c = .shutdown stage → stage = .starting) : (g.start c).2.Phased := by
  have hset : (g.setCall g.nextTicket c).Phased := by
    refine hg.setCall (fun stage hat => ?_) hc
    exact absurd (hl.tickets _ _ hat.1) (Nat.lt_irrefl _)
  exact hset.winds (.of_eq rfl rfl rfl) fun _ _ => .rfl

theorem Phased.happening {g g' : Gateway} (hg : g.Phased) (hl : g.Locking)
    (h : g.Happening g') : g'.Phased := by
  cases h with
  | aside h =>
    cases h with
    | visits h => exact hg.sameCalls h.winds h.sameCalls
    | prunes h =>
      exact (hg.sameCalls h.winds h.sameCalls).winds (.of_eq rfl rfl rfl) fun _ _ => .rfl
    | connects connId capacity => exact hg.sameCalls (.of_eq rfl rfl rfl) ⟨rfl, rfl, rfl⟩
    | relays _ hs => exact hg.sameCalls (.relayStep hs) (.relayStep hs)
    | brokers hb => exact hg.sameCalls (.brokerStep hb) ⟨rfl, rfl, rfl⟩
  | asks hc =>
    cases hc <;>
      exact (hg.start hl fun _ h => by cases h).winds (.of_eq rfl rfl rfl) fun _ _ => .rfl
  | startsShutdown => exact hg.start hl fun _ h => by cases h; rfl
  | goesOn ht hs => exact hg.callStep ht hs

end Gateway
end LocationRelay
