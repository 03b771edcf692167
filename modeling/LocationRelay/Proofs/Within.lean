import LocationRelay.Proofs.Consistency
import LocationRelay.Proofs.Views

/-! # Calls stay within their identities

A bind or an unbind changes nothing that is seen of any identity but its own, neither does it begin a
shutdown nor change whether the broker refuses subscriptions.
-/
namespace LocationRelay

theorem Outbox.requested_close (o : Outbox) (reason : CloseReason) :
    (o.close reason).requested = some (o.requested.getD (.close reason)) := by
  unfold Outbox.close Outbox.request
  cases h : o.requested with
  | none => rfl
  | some s => cases s <;> exact h

theorem Broker.refusal_congr {b b' : Broker} (hclosed : b'.closed = b.closed)
    (hrefusing : b'.refusing = b.refusing) : b'.refusal? = b.refusal? := by
  funext q
  unfold Broker.refusal?
  rw [hclosed, hrefusing]

theorem Broker.closed_of_refusal {b b' : Broker} (h : b'.refusal? = b.refusal?) :
    b'.closed = b.closed := by
  have hiff : ∀ b : Broker, b.closed = true ↔ b.refusal? "" = some .closed := by
    intro b
    unfold Broker.refusal?
    cases b.closed <;> cases b.refusing <;> simp
  rw [Bool.eq_iff_iff, hiff, hiff, h]

theorem Broker.refusal_subscribe (b : Broker) (x : Binding) :
    (b.subscribe x).2.refusal? = b.refusal? := by
  unfold Broker.subscribe
  split
  · rfl
  · split
    · rfl
    · split
      · rfl
      · exact Broker.refusal_congr rfl rfl

theorem Broker.queues_subscribe {b : Broker} {x : Binding} {q : String} (hne : q ≠ x.queue) :
    (b.subscribe x).2.queues.get? q = b.queues.get? q := by
  unfold Broker.subscribe
  split
  · rfl
  · split
    · rfl
    · split
      · rfl
      · exact (Table.get?_insert _ _ _ _).trans (if_neg hne)

namespace Gateway

def entry (g : Gateway) (j : Identity) : Entry where
  handle := g.registry.get? j
  consumer := (g.consumers.get? j).map Consumer.binding
  queue := (g.broker.queues.get? j.text).map Prod.fst

def stopAt (g : Gateway) (slot : Nat) : Option Stop :=
  (g.connections.get? slot).bind fun c => c.outbox.requested

def view (g : Gateway) : View := ⟨g.exchange, g.broker.refusal?, g.entry, g.stopAt⟩

theorem isCurrent_iff {g : Gateway} {i : Identity} {connId : Nat} :
    g.isCurrent i connId = true ↔ (g.entry i).handle.map Handle.connId = some connId := by
  unfold isCurrent
  exact beq_iff_eq

/-! ## Requests to stop -/

theorem stopAt_close {g : Gateway} {h : Handle} (ho : g.Opened h) (reason : CloseReason) :
    (g.close h reason).stopAt = (g.view.close h.slot reason).stop := by
  funext slot
  obtain ⟨c, hc⟩ := Option.ne_none_iff_exists'.mp ho
  simp only [stopAt, close, adjustOutbox, adjust, Table.get?_adjust, View.close, view]
  split
  · next he =>
    rw [he, show g.connections.get? h.slot = some c from hc]
    exact Outbox.requested_close c.outbox reason
  · rfl

theorem stopAt_registered {g : Gateway} (hg : g.Handled) (i : Identity) (h : Handle) :
    (g.registered i h).stopAt = (g.view.supersede i).stop := by
  have hhandle : (g.view.entry i).handle = g.registry.get? i := rfl
  unfold registered View.supersede
  rw [hhandle]
  cases hi : g.registry.get? i with
  | none => rfl
  | some k =>
    have ho : Opened { g with registry := g.registry.insert i h } k := hg.registered i k hi
    exact stopAt_close ho .superseded

/-! ## Frames -/

structure Within (i : Identity) (g g' : Gateway) : Prop where
  opened : ∀ slot, g'.connections.get? slot = none ↔ g.connections.get? slot = none
  exchange : g'.exchange = g.exchange
  shuttingDown : g'.shuttingDown = g.shuttingDown
  refusal : g'.broker.refusal? = g.broker.refusal?
  registry : ∀ j, j ≠ i → g'.registry.get? j = g.registry.get? j
  consumers : ∀ j, j ≠ i → g'.consumers.get? j = g.consumers.get? j
  queues : ∀ j, j ≠ i → g'.broker.queues.get? j.text = g.broker.queues.get? j.text

namespace Within

variable {i : Identity}

theorem refl (i : Identity) (g : Gateway) : g.Within i g :=
  ⟨fun _ => .rfl, rfl, rfl, rfl, fun _ _ => rfl, fun _ _ => rfl, fun _ _ => rfl⟩

theorem trans {g₁ g₂ g₃ : Gateway} (h : g₁.Within i g₂) (h' : g₂.Within i g₃) : g₁.Within i g₃ where
  opened slot := (h'.opened slot).trans (h.opened slot)
  exchange := h'.exchange.trans h.exchange
  shuttingDown := h'.shuttingDown.trans h.shuttingDown
  refusal := h'.refusal.trans h.refusal
  registry j hj := (h'.registry j hj).trans (h.registry j hj)
  consumers j hj := (h'.consumers j hj).trans (h.consumers j hj)
  queues j hj := (h'.queues j hj).trans (h.queues j hj)

theorem entry {g g' : Gateway} (h : g.Within i g') {j : Identity} (hj : j ≠ i) :
    g'.entry j = g.entry j := by
  unfold Gateway.entry
  rw [h.registry j hj, h.consumers j hj, h.queues j hj]

theorem setCall (g : Gateway) (t : Ticket) (d : Call) : g.Within i (g.setCall t d) :=
  ⟨fun _ => .rfl, rfl, rfl, rfl, fun _ _ => rfl, fun _ _ => rfl, fun _ _ => rfl⟩

theorem finish (g : Gateway) (t : Ticket) (o : Outcome) : g.Within i (g.finish t o) :=
  ⟨fun _ => .rfl, rfl, rfl, rfl, fun _ _ => rfl, fun _ _ => rfl, fun _ _ => rfl⟩

theorem unregistered (g : Gateway) (i : Identity) : g.Within i (g.unregistered i) := by
  refine ⟨fun _ => .rfl, rfl, rfl, rfl, fun j hj => ?_, fun _ _ => rfl, fun _ _ => rfl⟩
  rw [Gateway.unregistered, Table.get?_erase, if_neg hj]

theorem detached (g : Gateway) (i : Identity) (c : Consumer) : g.Within i (g.detached i c) := by
  refine ⟨fun _ => .rfl, rfl, rfl, ?_, fun _ _ => rfl, fun j hj => ?_, fun j _ => ?_⟩
  · unfold Gateway.detached
    dsimp only
    split <;> rfl
  · rw [Gateway.detached, Table.get?_erase, if_neg hj]
  · unfold Gateway.detached
    dsimp only
    split <;> rfl

theorem attach (g : Gateway) (i : Identity) (x : Binding) (s : StreamId) :
    g.Within i (g.attach i x s) := by
  refine ⟨fun _ => .rfl, rfl, rfl, rfl, fun _ _ => rfl, fun j hj => ?_, fun _ _ => rfl⟩
  rw [Gateway.attach, Table.get?_insert, if_neg hj]

theorem deleteQueue (g : Gateway) {q : String} (hq : q = i.text) : g.Within i (g.deleteQueue q) := by
  refine ⟨fun _ => .rfl, rfl, rfl, ?_, fun _ _ => rfl, fun _ _ => rfl, fun j hj => ?_⟩
  · exact Broker.refusal_congr (Broker.closed_unsubscribe _ _) (Broker.refusing_unsubscribe _ _)
  · rw [Gateway.deleteQueue, Broker.queues_unsubscribe, if_neg]
    rw [hq]
    exact fun he => hj (Identity.eq_of_text he)

theorem declare (g : Gateway) {x : Binding} (hx : x.queue = i.text) :
    g.Within i (g.declare x).2 := by
  refine ⟨fun _ => .rfl, rfl, rfl, Broker.refusal_subscribe _ _, fun _ _ => rfl, fun _ _ => rfl, fun j hj => ?_⟩
  refine Broker.queues_subscribe ?_
  rw [hx]
  exact fun he => hj (Identity.eq_of_text he)

end Within

theorem ConnectionsOnly.within {g g' : Gateway} (h : g.ConnectionsOnly g') (i : Identity) :
    g.Within i g' := by
  refine ⟨h.opened, ?_, ?_, ?_, ?_, ?_, ?_⟩ <;> rw [h.rest] <;> intros <;> rfl

theorem Within.registered (g : Gateway) (i : Identity) (h : Handle) :
    g.Within i (g.registered i h) := by
  have hinsert : g.Within i { g with registry := g.registry.insert i h } := by
    refine ⟨fun _ => .rfl, rfl, rfl, rfl, fun j hj => ?_, fun _ _ => rfl, fun _ _ => rfl⟩
    simp only [Table.get?_insert, if_neg hj]
  exact hinsert.trans ((registered_spec g i h).within i)

theorem Within.release (g : Gateway) (i : Identity) (connId : Nat) :
    g.Within i (g.release i connId).2 := by
  rcases release_eq g i connId with h | h
  · rw [h]
    exact .refl i g
  · rw [h]
    exact .unregistered g i

theorem Consistent.bindStep_within {g g' : Gateway} (hg : g.Consistent) {t : Ticket} {p : Principal}
    {h : Handle} {stage : BindStage} (ht : g.calls.get? t = some (.bind p h stage))
    (hs : BindStep g t p h stage g') : g.Within p.identity g' := by
  have habandon : ∀ reason e, g.Within p.identity (g.abandonBind t p h reason e) := by
    intro reason e
    have hclose := ConnectionsOnly.close (g.release p.identity h.connId).2 h reason
    exact ((Within.release g _ _).trans (hclose.within _)).trans (.finish _ _ _)
  have hregistered := Within.registered g p.identity h
  cases hs with
  | refused _ _ => exact ((ConnectionsOnly.close g h _).within _).trans (.finish _ _ _)
  | evicts _ _ _ _ => exact (hregistered.trans (.detached _ _ _)).trans (.setCall _ _ _)
  | clears _ _ _ _ => exact (hregistered.trans (.detached _ _ _)).trans (.setCall _ _ _)
  | enters _ _ _ => exact hregistered.trans (.setCall _ _ _)
  | evicted x =>
    obtain ⟨-, -, hx⟩ := (hg.each p.identity).busy t _ ht rfl
    exact (Within.deleteQueue g hx).trans (.setCall _ _ _)
  | looks _ => exact .setCall g _ _
  | finds _ => exact (Within.detached g _ _).trans (.setCall _ _ _)
  | cleared x =>
    obtain ⟨-, -, hx⟩ := (hg.each p.identity).busy t _ ht rfl
    exact (Within.deleteQueue g hx).trans (.setCall _ _ _)
  | declares => exact (Within.declare g rfl).trans (.setCall _ _ _)
  | fails e => exact habandon _ _
  | succeeds s _ => exact (Within.attach g _ _ s).trans (.finish _ _ _)
  | retracts s _ =>
    exact ((Within.attach g _ _ s).trans (.detached _ _ _)).trans (.setCall _ _ _)
  | retracted x =>
    obtain ⟨-, -, hx⟩ := (hg.each p.identity).busy t _ ht rfl
    exact (Within.deleteQueue g hx).trans (.setCall _ _ _)
  | gaveUp => exact habandon _ _

theorem Consistent.unbindStep_within {g g' : Gateway} (hg : g.Consistent) {t : Ticket} {i : Identity}
    {connId : Nat} {stage : UnbindStage} (ht : g.calls.get? t = some (.unbind i connId stage))
    (hs : UnbindStep g t i connId stage g') : g.Within i g' := by
  have hgone := Within.unregistered g i
  cases hs with
  | stale _ _ => exact .finish g _ _
  | releases _ _ _ => exact (hgone.trans (.detached _ _ _)).trans (.setCall _ _ _)
  | forgets _ _ _ => exact hgone.trans (.finish _ _ _)
  | deletes x =>
    obtain ⟨-, -, hx⟩ := (hg.each i).busy t _ ht rfl
    exact (Within.deleteQueue g hx).trans (.setCall _ _ _)
  | ends => exact .finish g _ _

end Gateway
end LocationRelay
