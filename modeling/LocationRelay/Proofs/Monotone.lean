import LocationRelay.Proofs.Consistency

/-! # What is never taken back

Connections that were opened stay, and so do the requests that they stop. A call that is over keeps its
outcome, the flag of the shutdown stays up, and a closed broker stays closed.
-/
namespace LocationRelay.Gateway

structure Grows (g g' : Gateway) : Prop where
  exchange : g'.exchange = g.exchange
  opened : ∀ h, g.Opened h → g'.Opened h
  stopped : ∀ h, g.Stopped h → g'.Stopped h
  shuttingDown : g.shuttingDown = true → g'.shuttingDown = true
  closed : g.broker.closed = true → g'.broker.closed = true
  nextTicket : g.nextTicket ≤ g'.nextTicket
  done : ∀ t o, g.calls.get? t = some (.done o) → g'.calls.get? t = some (.done o)

namespace Grows

theorem refl (g : Gateway) : g.Grows g :=
  ⟨rfl, fun _ h => h, fun _ h => h, fun h => h, fun h => h, Nat.le_refl _, fun _ _ h => h⟩

theorem trans {g₁ g₂ g₃ : Gateway} (h : g₁.Grows g₂) (h' : g₂.Grows g₃) : g₁.Grows g₃ where
  exchange := h'.exchange.trans h.exchange
  opened k hk := h'.opened k (h.opened k hk)
  stopped k hk := h'.stopped k (h.stopped k hk)
  shuttingDown hd := h'.shuttingDown (h.shuttingDown hd)
  closed hc := h'.closed (h.closed hc)
  nextTicket := Nat.le_trans h.nextTicket h'.nextTicket
  done t o ho := h'.done t o (h.done t o ho)

theorem of_eq {g g' : Gateway} (hexchange : g'.exchange = g.exchange)
    (hconns : g'.connections = g.connections) (hdown : g'.shuttingDown = g.shuttingDown)
    (hcalls : g'.calls = g.calls) (hnext : g'.nextTicket = g.nextTicket)
    (hclosed : g.broker.closed = true → g'.broker.closed = true) : g.Grows g' where
  exchange := hexchange
  opened h ho := by
    unfold Opened connection? at ho ⊢
    rw [hconns]
    exact ho
  stopped h hh := by
    unfold Stopped stopOf connection? at hh ⊢
    rw [hconns]
    exact hh
  shuttingDown hd := hdown.trans hd
  closed := hclosed
  nextTicket := Nat.le_of_eq hnext.symm
  done t o ho := hcalls ▸ ho

theorem deleteQueue (g : Gateway) (q : String) : g.Grows (g.deleteQueue q) :=
  .of_eq rfl rfl rfl rfl rfl (Winds.deleteQueue g q).closed

theorem declare (g : Gateway) (x : Binding) : g.Grows (g.declare x).2 :=
  .of_eq rfl rfl rfl rfl rfl (Winds.declare g x).closed

theorem detached (g : Gateway) (i : Identity) (c : Consumer) : g.Grows (g.detached i c) :=
  .of_eq rfl rfl rfl rfl rfl (Winds.detached g i c).closed

theorem attach (g : Gateway) (i : Identity) (x : Binding) (s : StreamId) :
    g.Grows (g.attach i x s) := .of_eq rfl rfl rfl rfl rfl fun h => h

theorem unregistered (g : Gateway) (i : Identity) : g.Grows (g.unregistered i) :=
  .of_eq rfl rfl rfl rfl rfl fun h => h

theorem setCall {g : Gateway} {t : Ticket} (d : Call) (hopen : ∀ o, g.calls.get? t ≠ some (.done o)) :
    g.Grows (g.setCall t d) := by
  refine ⟨rfl, fun _ h => h, fun _ h => h, fun h => h, fun h => h, Nat.le_refl _, fun u o ho => ?_⟩
  have hne : u ≠ t := by
    rintro rfl
    exact hopen o ho
  simpa only [Gateway.setCall, Table.get?_insert, if_neg hne] using ho

theorem finish {g : Gateway} {t : Ticket} (o : Outcome)
    (hopen : ∀ o, g.calls.get? t ≠ some (.done o)) : g.Grows (g.finish t o) :=
  (setCall (.done o) hopen).trans (.of_eq rfl rfl rfl rfl rfl fun h => h)

theorem start {g : Gateway} (hg : g.Locking) (c : Call) : g.Grows (g.start c).2 := by
  have hset : g.Grows (g.setCall g.nextTicket c) :=
    setCall c fun o ho => Nat.lt_irrefl _ (hg.tickets _ _ ho)
  exact ⟨rfl, hset.opened, hset.stopped, hset.shuttingDown, hset.closed, Nat.le_succ _, hset.done⟩

theorem brokerStep {g : Gateway} {b : Broker} (h : BrokerStep g.broker b) :
    g.Grows { g with broker := b } :=
  .of_eq rfl rfl rfl rfl rfl (Winds.brokerStep h).closed

end Grows

theorem ConnectionsOnly.grows {g g' : Gateway} (h : g.ConnectionsOnly g') : g.Grows g' := by
  refine ⟨by rw [h.rest], fun k hk hn => hk ((h.opened _).mp hn), h.stopped, fun hd => ?_,
    fun hc => ?_, Nat.le_of_eq ?_, fun t o ho => ?_⟩
  · rw [h.rest]
    exact hd
  · rw [h.rest]
    exact hc
  · rw [h.rest]
  · rw [h.rest]
    exact ho

namespace Grows

theorem registered (g : Gateway) (i : Identity) (h : Handle) : g.Grows (g.registered i h) := by
  have hinsert : g.Grows { g with registry := g.registry.insert i h } :=
    .of_eq rfl rfl rfl rfl rfl fun h => h
  exact hinsert.trans (registered_spec g i h).grows

theorem flagged (g : Gateway) : g.Grows g.flagged := by
  have hraised : g.Grows { g with shuttingDown := true } :=
    ⟨rfl, fun _ h => h, fun _ h => h, fun _ => rfl, fun h => h, Nat.le_refl _, fun _ _ h => h⟩
  exact hraised.trans (connectionsOnly_flagged g).grows

theorem release (g : Gateway) (i : Identity) (connId : Nat) : g.Grows (g.release i connId).2 := by
  rcases release_eq g i connId with h | h <;> rw [h]
  · exact refl g
  · exact unregistered g i

theorem callStep {g g' : Gateway} {t : Ticket} {c : Call} (ht : g.calls.get? t = some c)
    (hs : CallStep g t c g') : g.Grows g' := by
  have hopen : ∀ {g₁ : Gateway}, g.SameCalls g₁ → ∀ o, g₁.calls.get? t ≠ some (.done o) := by
    intro g₁ hsame o ho
    rw [hsame.calls, ht] at ho
    cases ho
    cases hs
  have hset : ∀ {g₁ : Gateway} (d : Call), g.Grows g₁ → g.SameCalls g₁ → g.Grows (g₁.setCall t d) :=
    fun d hgrows hsame => hgrows.trans (.setCall d (hopen hsame))
  have hfinish : ∀ {g₁ : Gateway} (o : Outcome), g.Grows g₁ → g.SameCalls g₁ →
      g.Grows (g₁.finish t o) :=
    fun o hgrows hsame => hgrows.trans (.finish o (hopen hsame))
  cases hs with
  | @bind p h stage _ hs =>
    have habandon : ∀ reason e, g.Grows (g.abandonBind t p h reason e) := by
      intro reason e
      have hclose := ConnectionsOnly.close (g.release p.identity h.connId).2 h reason
      exact hfinish _ ((release g _ _).trans hclose.grows)
        ((SameCalls.release g _ _).trans hclose.sameCalls)
    have hreg := registered g p.identity h
    have hcalls := SameCalls.registered g p.identity h
    cases hs with
    | refused _ _ =>
      exact hfinish _ (ConnectionsOnly.close g h _).grows (ConnectionsOnly.close g h _).sameCalls
    | evicts _ _ _ _ => exact hset _ (hreg.trans (.detached _ _ _)) (hcalls.trans (.detached _ _ _))
    | clears _ _ _ _ => exact hset _ (hreg.trans (.detached _ _ _)) (hcalls.trans (.detached _ _ _))
    | enters _ _ _ => exact hset _ hreg hcalls
    | evicted x => exact hset _ (.deleteQueue g _) (.deleteQueue g _)
    | looks _ => exact hset _ (.refl g) (.refl g)
    | finds _ => exact hset _ (.detached g _ _) (.detached g _ _)
    | cleared x => exact hset _ (.deleteQueue g _) (.deleteQueue g _)
    | declares => exact hset _ (.declare g _) (.declare g _)
    | fails e => exact habandon _ _
    | succeeds s _ => exact hfinish _ (.attach g _ _ s) (.attach g _ _ s)
    | retracts s _ =>
      exact hset _ ((Grows.attach g _ _ s).trans (.detached _ _ _))
        ((SameCalls.attach g _ _ s).trans (.detached _ _ _))
    | retracted x => exact hset _ (.deleteQueue g _) (.deleteQueue g _)
    | gaveUp => exact habandon _ _
  | @unbind i connId stage _ hs =>
    cases hs with
    | stale _ _ => exact hfinish _ (.refl g) (.refl g)
    | releases _ _ _ =>
      exact hset _ ((unregistered g i).trans (.detached _ _ _)) ⟨rfl, rfl, rfl⟩
    | forgets _ _ _ => exact hfinish _ (unregistered g i) ⟨rfl, rfl, rfl⟩
    | deletes x => exact hset _ (.deleteQueue g _) (.deleteQueue g _)
    | ends => exact hfinish _ (.refl g) (.refl g)
  | @shutdown stage _ hs =>
    have hstop : ∀ {g₁ g' : Gateway} {is : List Identity}, g.Grows g₁ → g.SameCalls g₁ →
        StopStep g₁ t is g' → g.Grows g' := by
      intro g₁ g' is hgrows hsame hs
      cases hs with
      | none_left _ _ => exact hset _ hgrows hsame
      | stops _ _ _ _ => exact hset _ (hgrows.trans (.detached g₁ _ _)) (hsame.trans (.detached g₁ _ _))
    cases hs with
    | again _ => exact hfinish _ (.refl g) (.refl g)
    | begins _ hs => exact hstop (.flagged g) (.flagged g) hs
    | goesOn is hs => exact hstop (.refl g) (.refl g) hs
    | deletes x is => exact hset _ (.deleteQueue g _) (.deleteQueue g _)
    | disconnects => exact hfinish _ (.brokerStep .closes) ⟨rfl, rfl, rfl⟩

theorem relayStep {g g' : Gateway} {s : StreamId} {r : Relay} (hs : RelayStep g s r g') :
    g.Grows g' := by
  have hw := Winds.relayStep hs
  cases hs with
  | @delivers d b hnext =>
    have hforward := (ConnectionsOnly.forward { g with broker := b } r.identity d.payload).grows
    have hread : g.Grows { g with broker := b } := .of_eq rfl rfl rfl rfl rfl fun hc =>
      (Broker.refills_next hnext).closed.trans hc
    exact (hread.trans hforward).trans (.of_eq rfl rfl rfl rfl rfl fun hc => hc)
  | loses _ =>
    have hdropped : g.Grows (g.unrelayed s) := .of_eq rfl rfl rfl rfl rfl fun hc => hc
    exact hdropped.trans (ConnectionsOnly.loseSubscription g s r).grows

theorem happening {g g' : Gateway} (hl : g.Locking) (hh : g.Handled) (h : g.Happening g') :
    g.Grows g' := by
  cases h with
  | aside h =>
    cases h with
    | visits h => exact h.grows
    | prunes h => exact h.grows.trans (.of_eq rfl rfl rfl rfl rfl fun hc => hc)
    | connects connId capacity =>
      refine ⟨rfl, fun k hk hn => ?_, fun _ hk => hh.stopped_connect hk, fun h => h, fun h => h,
        Nat.le_refl _, fun _ _ h => h⟩
      simp only [connection?, connect, Table.get?_insert] at hn
      split at hn
      · cases hn
      · exact hk hn
    | relays _ hs => exact relayStep hs
    | brokers hb => exact brokerStep hb
  | asks hc => exact (start hl _).trans (.of_eq rfl rfl rfl rfl rfl fun hc => hc)
  | startsShutdown => exact start hl _
  | goesOn ht hs => exact callStep ht hs

end Grows

theorem Consistent.grows {g g' : Gateway} {as : List Action} (hg : g.Consistent)
    (hrun : g.run as = some g') : g.Grows g' := by
  refine hg.preserves (P := g.Grows) (fun hg hgrows hstep => ?_) hrun (.refl g)
  exact hgrows.trans (.happening hg.locking hg.handled hstep)

end LocationRelay.Gateway
