import LocationRelay.Proofs.ShutdownPhases

/-! # What a step leaves alone

A call that works on one identity, a relay, and whatever happens from outside spare every other
identity: its registration, its consumer, its relay and the calls that work on it stay as they are, and
its queue is at most removed.
-/
namespace LocationRelay

theorem Identity.eq_of_text {i j : Identity} (h : i.text = j.text) : i = j := by
  cases i
  cases j
  exact congrArg Identity.mk h

namespace Gateway

@[simp] theorem broker_registered (g : Gateway) (i : Identity) (h : Handle) :
    (g.registered i h).broker = g.broker := by
  rw [(registered_spec g i h).rest]

@[simp] theorem relays_registered (g : Gateway) (i : Identity) (h : Handle) :
    (g.registered i h).relays = g.relays := by
  rw [(registered_spec g i h).rest]

def Disposing (g : Gateway) (queue : String) : Prop :=
  ∃ t x is, g.calls.get? t = some (.shutdown (.deleting x is)) ∧ x.queue = queue

/-- Nothing happens to an identity but that its queue may be removed. -/
structure Spares (j : Identity) (g g' : Gateway) : Prop where
  exchange : g'.exchange = g.exchange
  registry : g'.registry.get? j = g.registry.get? j
  consumers : g'.consumers.get? j = g.consumers.get? j
  relays : ∀ s r, r.identity = j → (g'.relays.get? s = some r ↔ g.relays.get? s = some r)
  broker : g.broker.Spares j.text g'.broker
  calls : ∀ t c, c.section? = some j → (g'.calls.get? t = some c ↔ g.calls.get? t = some c)
  stopped : ∀ h, g.Stopped h → g'.Stopped h
  disposing : g.Disposing j.text → g'.Disposing j.text ∨ g'.broker.queues.get? j.text = none

namespace Spares

variable {j : Identity}

theorem refl (j : Identity) (g : Gateway) : g.Spares j g :=
  ⟨rfl, rfl, rfl, fun _ _ _ => .rfl, .refl _ _, fun _ _ _ => .rfl, fun _ h => h, .inl⟩

theorem trans {g₁ g₂ g₃ : Gateway} (h : g₁.Spares j g₂) (h' : g₂.Spares j g₃) : g₁.Spares j g₃ where
  exchange := h'.exchange.trans h.exchange
  registry := h'.registry.trans h.registry
  consumers := h'.consumers.trans h.consumers
  relays s r hr := (h'.relays s r hr).trans (h.relays s r hr)
  broker := h.broker.trans h'.broker
  calls t c hc := (h'.calls t c hc).trans (h.calls t c hc)
  stopped k hk := h'.stopped k (h.stopped k hk)
  disposing hd := by
    rcases h.disposing hd with hd | hnone
    · exact h'.disposing hd
    · refine .inr (Option.eq_none_iff_forall_ne_some.mpr fun e he => ?_)
      rw [h'.broker.queue e he] at hnone
      cases hnone

theorem ofBroker {g : Gateway} {b : Broker} (h : g.broker.Spares j.text b) :
    g.Spares j { g with broker := b } :=
  ⟨rfl, rfl, rfl, fun _ _ _ => .rfl, h, fun _ _ _ => .rfl, fun _ h => h, .inl⟩

theorem ofLocks (g : Gateway) (ls : IdentityLocks) : g.Spares j { g with locks := ls } :=
  ⟨rfl, rfl, rfl, fun _ _ _ => .rfl, .refl _ _, fun _ _ _ => .rfl, fun _ h => h, .inl⟩

theorem ofFlag (g : Gateway) (on : Bool) : g.Spares j { g with shuttingDown := on } :=
  ⟨rfl, rfl, rfl, fun _ _ _ => .rfl, .refl _ _, fun _ _ _ => .rfl, fun _ h => h, .inl⟩

theorem deleteQueue (g : Gateway) (q : String) : g.Spares j (g.deleteQueue q) :=
  ofBroker (Broker.spares_unsubscribe g.broker q j.text)

theorem brokerStep {g : Gateway} {b : Broker} (h : BrokerStep g.broker b) :
    g.Spares j { g with broker := b } := by
  cases h with
  | publishes exchange key payload =>
    exact ofBroker ((g.broker.refills_publish exchange key payload).spares _)
  | refuses on => exact ofBroker ⟨Nat.le_refl _, fun _ h => h, fun _ h => h, fun _ _ _ h => h⟩
  | loses queue => exact deleteQueue g queue
  | closes => exact ofBroker (Broker.spares_close g.broker _)

/-- A call that does not work on the identity goes on. When it is a shutdown that was about to delete a
queue, that queue is gone. -/
theorem setCall {g : Gateway} {t : Ticket} {d : Call}
    (hold : ∀ c, g.calls.get? t = some c → c.section? ≠ some j) (hnew : d.section? ≠ some j)
    (hgone : ∀ x is, g.calls.get? t = some (.shutdown (.deleting x is)) →
      g.broker.queues.get? x.queue = none) : g.Spares j (g.setCall t d) where
  exchange := rfl
  registry := rfl
  consumers := rfl
  relays _ _ _ := .rfl
  broker := .refl _ _
  calls u c hc := by
    simp only [Gateway.setCall, Table.get?_insert]
    split
    · next he =>
      subst he
      refine ⟨?_, fun hu => absurd hc (hold c hu)⟩
      rintro ⟨⟩
      exact absurd hc hnew
    · rfl
  stopped _ h := h
  disposing := by
    rintro ⟨u, x, is, hu, hx⟩
    by_cases he : u = t
    · subst he
      exact .inr (hx ▸ hgone x is hu)
    · refine .inl ⟨u, x, is, ?_, hx⟩
      simpa only [Gateway.setCall, Table.get?_insert, if_neg he] using hu

theorem finish {g : Gateway} {t : Ticket} (hold : ∀ c, g.calls.get? t = some c →
      c.section? ≠ some j) (hgone : ∀ x is, g.calls.get? t = some (.shutdown (.deleting x is)) →
      g.broker.queues.get? x.queue = none) (o : Outcome) : g.Spares j (g.finish t o) := by
  have hset : g.Spares j (g.setCall t (.done o)) := setCall hold (by rintro ⟨⟩) hgone
  exact hset.trans (ofLocks _ _)

theorem start {g : Gateway} (hg : g.Locking) {c : Call} (hc : c.section? ≠ some j) :
    g.Spares j (g.start c).2 := by
  have hfresh : ∀ d, g.calls.get? g.nextTicket ≠ some d :=
    fun d hd => Nat.lt_irrefl _ (hg.tickets _ d hd)
  have hset : g.Spares j (g.setCall g.nextTicket c) :=
    setCall (fun d hd => absurd hd (hfresh d)) hc fun x is hd => absurd hd (hfresh _)
  exact ⟨hset.exchange, hset.registry, hset.consumers, hset.relays, hset.broker, hset.calls,
    hset.stopped, hset.disposing⟩

theorem unregistered (g : Gateway) {i : Identity} (hne : j ≠ i) :
    g.Spares j (g.unregistered i) where
  exchange := rfl
  registry := by rw [Gateway.unregistered, Table.get?_erase, if_neg hne]
  consumers := rfl
  relays _ _ _ := .rfl
  broker := .refl _ _
  calls _ _ _ := .rfl
  stopped _ h := h
  disposing := .inl

theorem release (g : Gateway) {i : Identity} (hne : j ≠ i) (connId : Nat) :
    g.Spares j (g.release i connId).2 := by
  rcases release_eq g i connId with h | h <;> rw [h]
  · exact refl j g
  · exact unregistered g hne

end Spares

theorem ConnectionsOnly.spares {g g' : Gateway} (h : g.ConnectionsOnly g') (j : Identity) :
    g.Spares j g' := by
  refine ⟨?_, ?_, ?_, fun s r _ => ?_, ?_, fun t c _ => ?_, h.stopped, fun hd => .inl ?_⟩ <;> rw [h.rest]
  · exact .refl _ _
  · exact hd

theorem Spares.registered {j : Identity} (g : Gateway) {i : Identity} (hne : j ≠ i) (h : Handle) :
    g.Spares j (g.registered i h) := by
  have hinsert : g.Spares j { g with registry := g.registry.insert i h } := by
    refine ⟨rfl, ?_, rfl, fun _ _ _ => .rfl, .refl _ _, fun _ _ _ => .rfl, fun _ h => h, .inl⟩
    simp only [Table.get?_insert, if_neg hne]
  exact hinsert.trans ((registered_spec g i h).spares j)

/-- Stopping a consumer ends its relay, which has to be one of the same identity. -/
theorem Spares.detached {j : Identity} {g : Gateway} {i : Identity} {c : Consumer} (hne : j ≠ i)
    (hqueue : g.broker.queueOf? c.stream ≠ some j.text)
    (hrelay : ∀ r, g.relays.get? c.stream = some r → r.identity ≠ j) :
    g.Spares j (g.detached i c) where
  exchange := rfl
  registry := rfl
  consumers := by rw [Gateway.detached, Table.get?_erase, if_neg hne]
  relays s r hr := by
    simp only [Gateway.detached, Table.get?_erase, Option.ite_none_left_eq_some]
    refine ⟨And.right, fun hs => ⟨?_, hs⟩⟩
    rintro rfl
    exact hrelay r hs hr
  broker := by
    simp only [Gateway.detached]
    split
    · exact Broker.spares_discard hqueue
    · exact .refl _ _
  calls _ _ _ := .rfl
  stopped _ h := h
  disposing hd := .inl hd

theorem Spares.declare {j : Identity} {g : Gateway} (hg : g.broker.Sound) {x : Binding}
    (habsent : g.broker.queues.get? x.queue = none) (hne : j.text ≠ x.queue) :
    g.Spares j (g.declare x).2 := by
  have hbroker : g.broker.Spares j.text (g.broker.subscribe x).2 := by
    rw [Broker.subscribe_of_absent habsent]
    split
    · exact .refl _ _
    · exact hg.spares_declared hne
  exact ofBroker hbroker

theorem Spares.attach {j : Identity} {g : Gateway} {i : Identity} {s : StreamId} (x : Binding)
    (hne : j ≠ i) (hrelay : ∀ r, g.relays.get? s = some r → r.identity ≠ j) :
    g.Spares j (g.attach i x s) where
  exchange := rfl
  registry := rfl
  consumers := by rw [Gateway.attach, Table.get?_insert, if_neg hne]
  relays u r hr := by
    simp only [Gateway.attach, Table.get?_insert]
    split
    · next he =>
      subst he
      refine ⟨?_, fun hu => absurd hr (hrelay r hu)⟩
      rintro ⟨⟩
      exact absurd hr.symm hne
    · rfl
  broker := .refl _ _
  calls _ _ _ := .rfl
  stopped _ h := h
  disposing := .inl

theorem Spares.unrelayed {j : Identity} {g : Gateway} {s : StreamId}
    (hqueue : g.broker.queueOf? s ≠ some j.text)
    (hrelay : ∀ r, g.relays.get? s = some r → r.identity ≠ j) : g.Spares j (g.unrelayed s) where
  exchange := rfl
  registry := rfl
  consumers := rfl
  relays u r hr := by
    simp only [Gateway.unrelayed, Table.get?_erase, Option.ite_none_left_eq_some]
    refine ⟨And.right, fun hs => ⟨?_, hs⟩⟩
    rintro rfl
    exact hrelay r hs hr
  broker := Broker.spares_discard hqueue
  calls _ _ _ := .rfl
  stopped _ h := h
  disposing := .inl

theorem Spares.flagged (g : Gateway) (j : Identity) : g.Spares j g.flagged :=
  (ofFlag g true).trans ((connectionsOnly_flagged g).spares j)

end Gateway
end LocationRelay
