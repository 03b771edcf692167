import LocationRelay.Proofs.Feeding
import LocationRelay.Proofs.Whole

/-! # What relays make of what waits

Relays take turns in any order. What each of them has read so far it has acknowledged and offered to the
connection that is registered for its identity, and nobody else has got any of it. They cannot go on for
ever, and when all of them wait they have read their streams to the end.
-/
namespace LocationRelay

open Text (Bytes)

namespace Connection

def offered (c : Connection) (payloads : List Bytes) : Connection :=
  { c with outbox := payloads.foldl (fun o x => (o.offer? (.payload x)).getD o) c.outbox }

theorem map_offered_nil (o : Option Connection) : (o.map fun c => c.offered []) = o := by
  cases o <;> rfl

theorem offered_append (c : Connection) (xs ys : List Bytes) :
    c.offered (xs ++ ys) = (c.offered xs).offered ys := by
  simp only [offered, List.foldl_append]

end Connection

theorem Broker.deliveriesAt_next {b b' : Broker} {s : StreamId} {d : Delivery}
    (h : b.next s = (.delivery d, b')) (r : StreamId) :
    b.deliveriesAt r = onStream r [(s, d)] ++ b'.deliveriesAt r := by
  obtain ⟨st, rest, hst, hw, rfl⟩ := next_delivery h
  rw [onStream_singleton]
  simp only [deliveriesAt, Table.get?_insert]
  by_cases hr : r = s
  · simp [hr, hst, hw]
  · simp [hr, Ne.symm hr]

namespace Gateway

def Separate (g : Gateway) : Prop :=
  ∀ i j h k, g.registry.get? i = some h → g.registry.get? j = some k → h.slot = k.slot → i = j

structure Relaying (g g' : Gateway) : Prop where
  registry : g'.registry = g.registry
  relays : g'.relays = g.relays
  reads : ∀ s r, g.relays.get? s = some r → ∃ ds,
    g.broker.deliveriesAt s = ds ++ g'.broker.deliveriesAt s ∧
    g'.broker.ackedFor r.identity.text = g.broker.ackedFor r.identity.text + ds.length ∧
    ∀ h, g.registry.get? r.identity = some h → g'.connections.get? h.slot =
      (g.connections.get? h.slot).map fun c => c.offered (ds.map Delivery.payload)
  acked : ∀ q, (∀ s r, g.relays.get? s = some r → r.identity.text ≠ q) →
    g'.broker.ackedFor q = g.broker.ackedFor q
  connections : ∀ slot, (∀ s r h, g.relays.get? s = some r → g.registry.get? r.identity = some h →
    h.slot ≠ slot) → g'.connections.get? slot = g.connections.get? slot

variable {g g₁ g' : Gateway} {s : StreamId} {r : Relay} {d : Delivery} {h : Handle}

theorem Relaying.refl (g : Gateway) : g.Relaying g where
  registry := rfl
  relays := rfl
  reads _ _ _ := ⟨[], rfl, rfl, fun _ _ => (Connection.map_offered_nil _).symm⟩
  acked _ _ := rfl
  connections _ _ := rfl

theorem Relaying.trans (h : g.Relaying g₁) (h' : g₁.Relaying g') : g.Relaying g' where
  registry := h'.registry.trans h.registry
  relays := h'.relays.trans h.relays
  reads s r hr := by
    obtain ⟨ds, hwaits, hacked, hconn⟩ := h.reads s r hr
    obtain ⟨ds', hwaits', hacked', hconn'⟩ := h'.reads s r (h.relays ▸ hr)
    refine ⟨ds ++ ds', ?_, ?_, fun k hk => ?_⟩
    · rw [hwaits, hwaits', List.append_assoc]
    · rw [hacked', hacked, List.length_append, Nat.add_assoc]
    · rw [hconn' k (h.registry ▸ hk), hconn k hk, Option.map_map, List.map_append]
      exact congrArg (Option.map · _) (funext fun c => (c.offered_append _ _).symm)
  acked q hq := (h'.acked q (h.relays ▸ hq)).trans (h.acked q hq)
  connections slot hslot :=
    (h'.connections slot (h.relays ▸ h.registry ▸ hslot)).trans (h.connections slot hslot)

/-! ## One delivery -/

theorem connections_relayDelivery {i : Identity} (hreg : g.registry.get? i = some h) (d : Delivery)
    (slot : Nat) : (g.relayDelivery i d).connections.get? slot = if slot = h.slot then
      (g.connections.get? slot).map fun c => c.offered [d.payload] else g.connections.get? slot := by
  change (g.forward i d.payload).2.connections.get? slot = _
  rw [forward_registered hreg]
  cases hc : g.connection? h with
  | none =>
    have hsame : g.offer h (.payload d.payload) = (false, g) := by simp only [offer, hc, Option.bind_none]
    rw [hsame]
    split
    · next he => rw [he, show g.connections.get? h.slot = none from hc, Option.map_none]
    · rfl
  | some c =>
    rw [offer_eq hc]
    exact Table.get?_adjust ..

theorem Consistent.relay_unique {u : StreamId} {r' : Relay} (hg : g.Consistent)
    (hr : g.relays.get? s = some r) (hu : g.relays.get? u = some r') (he : r.identity = r'.identity) :
    s = u := by
  obtain ⟨-, ⟨c, hc, rfl⟩, -⟩ := (hg.each r.identity).relayed s r hr rfl
  obtain ⟨-, ⟨c', hc', rfl⟩, -⟩ := (hg.each r'.identity).relayed u r' hu rfl
  cases hc.symm.trans (he ▸ hc')
  rfl

/-- A relay hands one delivery to the connection that is registered, and nothing else happens. -/
structure HandsOn (g : Gateway) (s : StreamId) (h : Handle) (d : Delivery) (g' : Gateway) : Prop where
  registry : g'.registry = g.registry
  relays : g'.relays = g.relays
  waits : ∀ u, g.broker.deliveriesAt u = onStream u [(s, d)] ++ g'.broker.deliveriesAt u
  acked : ∀ q, g'.broker.ackedFor q = g.broker.ackedFor q + if d.queue = q then 1 else 0
  connections : ∀ slot, g'.connections.get? slot = if slot = h.slot then
    (g.connections.get? slot).map fun c => c.offered [d.payload] else g.connections.get? slot

theorem Intact.handsOn (hg : g.Intact) (ha : g.act? (.relay s) = some g') : ∃ r h d,
    g.relays.get? s = some r ∧ g.registry.get? r.identity = some h ∧ g.HandsOn s h d g' := by
  obtain ⟨r, hr, hs⟩ := relayStep_of_step ha
  obtain ⟨h, hh, -⟩ := ((hg.consistent.each r.identity).relayed s r hr rfl).owner
  have hregistry := hs.registrations.1
  cases hs with
  | loses hended => exact absurd hended (hg.reads_on hr)
  | @delivers d b hnext =>
    refine ⟨r, h, d, hr, hh, hregistry, relays_relayDelivery _ _ _, fun u => ?_, fun q => ?_,
      connections_relayDelivery (g := { g with broker := b }) hh d⟩
    · rw [broker_relayDelivery]
      exact Broker.deliveriesAt_next hnext u
    · rw [broker_relayDelivery, Broker.ackedFor_ack]
      obtain ⟨-, -, -, -, rfl⟩ := Broker.next_delivery hnext
      rfl

/-- What is handed on comes from the queue of the identity for which the relay reads. -/
theorem HandsOn.stamp (hon : g.HandsOn s h d g') (hg : g.Consistent) (hstamped : g.broker.Stamped)
    (hr : g.relays.get? s = some r) : d.queue = r.identity.text := by
  have hmem : d ∈ g.broker.deliveriesAt s := by
    rw [hon.waits, onStream_singleton, if_pos rfl]
    exact List.mem_cons_self
  obtain ⟨st, hst, hd⟩ := Broker.mem_deliveriesAt.mp hmem
  obtain ⟨st', hst', hname⟩ := Broker.queueOf?_eq_some.mp ((hg.each r.identity).relayed s r hr rfl).queue
  cases hst.symm.trans hst'
  exact (hstamped s st hst d hd).trans hname

theorem HandsOn.relaying (hon : g.HandsOn s h d g') (hg : g.Consistent) (hstamped : g.broker.Stamped)
    (hseparate : g.Separate) (hr : g.relays.get? s = some r)
    (hh : g.registry.get? r.identity = some h) : g.Relaying g' := by
  have hstamp := hon.stamp hg hstamped hr
  refine ⟨hon.registry, hon.relays, fun u r' hu => ?_, fun q hq => ?_, fun slot hslot => ?_⟩
  · by_cases hus : u = s
    · subst hus
      cases hr.symm.trans hu
      refine ⟨[d], ?_, ?_, fun k hk => ?_⟩
      · rw [hon.waits, onStream_singleton, if_pos rfl]
      · rw [hon.acked, if_pos hstamp]
        rfl
      · cases hh.symm.trans hk
        rw [hon.connections, if_pos rfl]
        rfl
    · -- Another relay reads for another identity, which another connection has registered.
      have hother : r.identity ≠ r'.identity := fun he => hus (hg.relay_unique hr hu he).symm
      refine ⟨[], ?_, ?_, fun k hk => ?_⟩
      · rw [hon.waits, onStream_singleton, if_neg (Ne.symm hus)]
      · rw [hon.acked, hstamp, if_neg fun he => hother (Identity.eq_of_text he)]
        rfl
      · rw [hon.connections, if_neg fun he => hother (hseparate _ _ _ _ hh hk he.symm)]
        exact (Connection.map_offered_nil _).symm
  · rw [hon.acked, hstamp, if_neg (hq s r hr), Nat.add_zero]
  · rw [hon.connections, if_neg (hslot s r h hr hh).symm]

/-! ## Many turns -/

theorem Intact.relaying (hg : g.Intact) (hstamped : g.broker.Stamped) (hseparate : g.Separate)
    {rs : List StreamId} (hrun : g.run (rs.map .relay) = some g') : g.Relaying g' := by
  induction rs generalizing g with
  | nil =>
    cases hrun
    exact .refl _
  | cons s rs ih =>
    obtain ⟨g₁, ha, hrest⟩ := run_cons_eq_some.mp hrun
    obtain ⟨r, h, d, hr, hh, hon⟩ := hg.handsOn ha
    have hfirst := hon.relaying hg.consistent hstamped hseparate hr hh
    refine hfirst.trans (ih (hg.act ha rfl) ((hg.consistent.balances ha).stamped hstamped) ?_ hrest)
    rw [Separate, hfirst.registry]
    exact hseparate

/-! ## Coming to rest -/

def waiting (g : Gateway) : Nat := (inStreams g.broker.streams).length

theorem Intact.waiting_act (hg : g.Intact) (ha : g.act? (.relay s) = some g') :
    g.waiting = g'.waiting + 1 := by
  obtain ⟨r, h, d, -, -, hon⟩ := hg.handsOn ha
  have hperm : (inStreams g.broker.streams).Perm ((s, d) :: inStreams g'.broker.streams) := by
    refine perm_of_onStream fun u => ?_
    rw [← List.singleton_append, onStream_append, onStream_inStreams, onStream_inStreams]
    exact hon.waits u
  exact hperm.length_eq

/-- Relays take no more turns than there are deliveries. -/
theorem Intact.waiting_run (hg : g.Intact) {rs : List StreamId}
    (hrun : g.run (rs.map .relay) = some g') : g.waiting = g'.waiting + rs.length := by
  induction rs generalizing g with
  | nil =>
    cases hrun
    rfl
  | cons s rs ih =>
    obtain ⟨g₁, ha, hrest⟩ := run_cons_eq_some.mp hrun
    rw [hg.waiting_act ha, ih (hg.act ha rfl) hrest, List.length_cons, Nat.add_assoc]

/-- What is left of a gateway when relays have taken turns until all of them wait. -/
def Relayed (g g' : Gateway) : Prop :=
  (∃ rs : List StreamId, g.run (rs.map .relay) = some g') ∧ ∀ s, g'.relayReady s = false

theorem relayStep_of_ready (hready : g.relayReady s = true) : ∃ g', g.act? (.relay s) = some g' := by
  obtain ⟨hthere, hready⟩ := Bool.and_eq_true_iff.mp hready
  obtain ⟨r, hr⟩ := g.relays.contains_iff.mp hthere
  rw [act?, relayStep?, hr, Option.bind_eq_bind, Option.bind_some]
  cases hnext : g.broker.next s with
  | mk n b =>
    rw [hnext] at hready
    cases n with
    | waiting => cases hready
    | _ => exact ⟨_, rfl⟩

theorem Intact.relays_rest (hg : g.Intact) : ∃ g', g.Relayed g' := by
  induction hn : g.waiting generalizing g with
  | zero =>
    refine ⟨g, ⟨[], rfl⟩, fun s => Bool.eq_false_iff.mpr fun hready => ?_⟩
    obtain ⟨g₁, ha⟩ := relayStep_of_ready hready
    rw [hg.waiting_act ha] at hn
    cases hn
  | succ n ih =>
    by_cases hrest : ∀ s, g.relayReady s = false
    · exact ⟨g, ⟨[], rfl⟩, hrest⟩
    · obtain ⟨s, hready⟩ := not_forall.mp hrest
      obtain ⟨g₁, ha⟩ := relayStep_of_ready (by simpa using hready)
      obtain ⟨g', ⟨rs, hrun⟩, hend⟩ := ih (hg.act ha rfl)
        (Nat.succ.inj ((hg.waiting_act ha).symm.trans hn))
      exact ⟨g', ⟨s :: rs, run_cons_eq_some.mpr ⟨g₁, ha, hrun⟩⟩, hend⟩

/-- A relay that waits has read everything. -/
theorem deliveriesAt_of_unready (hr : g.relays.get? s = some r) (hready : g.relayReady s = false) :
    g.broker.deliveriesAt s = [] := by
  obtain ⟨b, hnext⟩ := next_of_unready hr hready
  obtain ⟨st, hst, hempty, -⟩ := Broker.next_waiting hnext
  rw [Broker.deliveriesAt, hst]
  exact hempty

end Gateway
end LocationRelay
