import LocationRelay.Proofs.Relaying

/-! # A broadcast reaches every device of a user

When everything is at rest, whoever is registered has a queue of its own that is read for it. A key that is
addressed to a user is accepted by the patterns of that user's queues and of no others, so that one delivery
comes into each of them, and the relays hand it on.
-/
namespace LocationRelay

open Text (Bytes)

theorem Broker.ackedFor_publish (b : Broker) (exchange key : String) (payload : Bytes) (q : String) :
    (b.publish exchange key payload).2.ackedFor q = b.ackedFor q := by
  unfold Broker.publish
  split <;> rfl

namespace Connection

variable {c : Connection}

theorem offered_of_accepts (h : c.outbox.accepts = true) (x : Bytes) : c.offered [x] =
    { c with outbox := { c.outbox with queued := c.outbox.queued ++ [.payload x] } } := by
  simp only [offered, List.foldl_cons, List.foldl_nil, Outbox.offer?, if_pos h, Option.getD_some]

theorem offered_of_refuses (h : c.outbox.accepts = false) (x : Bytes) : c.offered [x] = c := by
  simp only [offered, List.foldl_cons, List.foldl_nil, Outbox.offer?, h, Bool.false_eq_true, if_false,
    Option.getD_none]

end Connection

namespace Gateway

variable {exchange key : String} {refusing : Bool} {payload : Bytes} {g g' : Gateway} {p : Principal}
  {h : Handle} {c : Consumer}

theorem separate_of_run {as : List Action} (hrun : run { exchange, broker := { refusing } } as = some g)
    (honce : ((binds as).map fun e => e.2.slot).Nodup) : g.Separate := by
  intro i j h k hi hj hslot
  obtain ⟨t, p, hlog, rfl, -⟩ := (ledger_of_run hrun).registered i h hi
  obtain ⟨u, q, hlog', rfl, -⟩ := (ledger_of_run hrun).registered j k hj
  cases List.inj_on_of_nodup_map honce (mem_binds_of_asked hrun hlog) (mem_binds_of_asked hrun hlog') hslot
  rfl

/-- A publish puts one delivery into the queue of a connection that it reaches, and none into any other. -/
theorem Intact.deliveriesAt_publish (hg : g.Intact) (hserved : g.Served p.identity h c) (key : String)
    (payload : Bytes) : (g.broker.publish g.exchange key payload).2.deliveriesAt c.stream =
      if Topic.accepts p.bindingPattern key then [⟨p.identity.text, key, payload⟩] else [] := by
  obtain ⟨q, hq, hbinding⟩ := ((hg.consistent.each p.identity).consumed c hserved.consumer).binding
  cases Principal.identity_injective hq
  have hopen : ¬ g.broker.closed = true := by rw [hg.opened]; exact Bool.false_ne_true
  rw [Broker.publish, if_neg hopen, Broker.deliveriesAt]
  dsimp only
  rw [Broker.streams_distribute, hserved.stream, hg.consistent.broker.arrivals_eq hserved.stream,
    hserved.queue, hbinding]
  by_cases hreached : Topic.accepts p.bindingPattern key = true <;>
    simp [Binding.reached, bindingFor, hreached]

/-! ## After the relays have come to rest -/

def RegisteredFor (g : Gateway) (u : String) (p : Principal) (h : Handle) : Prop :=
  p.username.text = u ∧ g.registry.get? p.identity = some h

section

variable {u : String} (hg : g.Intact) (hserved : g.Served p.identity h c)
  (hreg : g.registry.get? p.identity = some h)
  (hrelaying : (g.publish g.exchange key payload).2.Relaying g') (hrest : ∀ s, g'.relayReady s = false)
  (hkey : broadcastKey? u = .ok key ∨ ∃ q : Principal, q.username.text = u ∧ q.routingKey = key)

include hg hserved hreg hrelaying hrest

/-- What the relays make of a publish at an identity that is registered. -/
theorem Relaying.registered : ∃ ds : List Delivery,
    ds = (if Topic.accepts p.bindingPattern key then [⟨p.identity.text, key, payload⟩] else []) ∧
    g'.broker.ackedFor p.identity.text = g.broker.ackedFor p.identity.text + ds.length ∧
    g'.connections.get? h.slot =
      (g.connections.get? h.slot).map fun c => c.offered (ds.map Delivery.payload) := by
  obtain ⟨ds, hwaits, hacked, hconn⟩ := hrelaying.reads c.stream _ hserved.relay
  have hrelay : g'.relays.get? c.stream = _ := hrelaying.relays ▸ hserved.relay
  rw [deliveriesAt_of_unready hrelay (hrest c.stream), List.append_nil] at hwaits
  refine ⟨ds, hwaits.symm.trans (hg.deliveriesAt_publish hserved key payload), ?_, hconn h hreg⟩
  exact hacked.trans (congrArg (· + ds.length) (Broker.ackedFor_publish _ _ _ _ _))

include hkey

theorem Relaying.addressed (hp : p.username.text = u) :
    g'.broker.ackedFor p.identity.text = g.broker.ackedFor p.identity.text + 1 ∧
      g'.connections.get? h.slot = (g.connections.get? h.slot).map fun c => c.offered [payload] := by
  obtain ⟨ds, hds, hafter⟩ := hrelaying.registered hg hserved hreg hrest
  rw [if_pos ((p.accepts_addressed hkey).mpr hp)] at hds
  rwa [hds] at hafter

theorem Relaying.unaddressed (hp : p.username.text ≠ u) :
    g'.broker.ackedFor p.identity.text = g.broker.ackedFor p.identity.text ∧
      g'.connections.get? h.slot = g.connections.get? h.slot := by
  obtain ⟨ds, hds, hacked, hconn⟩ := hrelaying.registered hg hserved hreg hrest
  rw [if_neg fun hreached => hp ((p.accepts_addressed hkey).mp hreached)] at hds
  rw [hds] at hacked hconn
  exact ⟨hacked, hconn.trans (Connection.map_offered_nil _)⟩

end

theorem Relaying.unregistered_outbox (hrelaying : (g.publish exchange key payload).2.Relaying g')
    {slot : Nat} (hno : ∀ i h, g.registry.get? i = some h → h.slot ≠ slot) :
    g'.connections.get? slot = g.connections.get? slot :=
  hrelaying.connections slot fun _ _ k _ hk => hno _ k hk

theorem Relaying.unregistered_queue (hrelaying : (g.publish exchange key payload).2.Relaying g')
    (hg : g.Consistent) {q : String} (hno : ∀ i h, g.registry.get? i = some h → i.text ≠ q) :
    g'.broker.ackedFor q = g.broker.ackedFor q := by
  refine (hrelaying.acked q fun s r hr => ?_).trans (Broker.ackedFor_publish _ _ _ _ _)
  obtain ⟨k, hk, -⟩ := ((hg.each r.identity).relayed s r hr rfl).owner
  exact hno _ k hk

/-- At rest, in a gateway that has lost nothing and in which every outbox was bound once at most, a payload is
published with the key of a user or of one of the user's devices. The publish is accepted and the relays come
to rest after it, whatever their turns. By then the payload is the last in the outbox of each connection that
is registered for the user and has room for it, and no other outbox has changed; each registered identity of
the user has one more acknowledgement, and no other queue has. -/
theorem broadcast_complete {as : List Action} {u : String} (payload : Bytes)
    (hrun : run { exchange, broker := { refusing } } as = some g)
    (hloss : ∀ a ∈ as, a.isLoss = false) (honce : ((binds as).map fun e => e.2.slot).Nodup)
    (hsettled : g.Settled) (hrest : ∀ s, g.relayReady s = false)
    (hkey : broadcastKey? u = .ok key ∨ ∃ q : Principal, q.username.text = u ∧ q.routingKey = key) :
    let g₁ := (g.publish exchange key payload).2
    (g.publish exchange key payload).1 = .ok () ∧ (∃ g', g₁.Relayed g') ∧
    (∀ (rs : List StreamId) g', g₁.run (rs.map .relay) = some g' → rs.length ≤ g₁.waiting) ∧
    ∀ g', g₁.Relayed g' →
      (∀ p h c, g.RegisteredFor u p h → g.connections.get? h.slot = some c → c.outbox.accepts = true →
        g'.connections.get? h.slot = some { c with
          outbox := { c.outbox with queued := c.outbox.queued ++ [.payload payload] } }) ∧
      (∀ slot, (∀ p h c, g.RegisteredFor u p h → h.slot = slot → g.connections.get? slot = some c →
        c.outbox.accepts = false) → g'.connections.get? slot = g.connections.get? slot) ∧
      (∀ p h, g.RegisteredFor u p h →
        g'.broker.ackedFor p.identity.text = g.broker.ackedFor p.identity.text + 1) ∧
      ∀ q, (∀ p h, g.RegisteredFor u p h → p.identity.text ≠ q) →
        g'.broker.ackedFor q = g.broker.ackedFor q := by
  have hg : g.Intact := (intact_fresh exchange refusing).run hrun hloss
  have hexchange : g.exchange = exchange := ((consistent_fresh exchange refusing).grows hrun).exchange
  have hpublish : g.act? (.publish exchange key payload) = some (g.publish exchange key payload).2 := rfl
  have hg₁ := hg.act hpublish rfl
  have hstamped := (hg.consistent.balances hpublish).stamped (balanced_of_run hrun).stamped
  have hseparate : (g.publish exchange key payload).2.Separate :=
    (separate_of_run hrun honce : g.Separate)
  have hserved : ∀ {i h}, g.registry.get? i = some h → ∃ (p : Principal) (c : Consumer),
      p.identity = i ∧ g.Served i h c := by
    intro i h hi
    obtain ⟨c, hc⟩ := hg.served hsettled hrest hi
    obtain ⟨p, hp, -⟩ := ((hg.consistent.each i).consumed c hc.consumer).binding
    exact ⟨p, c, hp, hc⟩
  subst hexchange
  refine ⟨?_, hg₁.relays_rest, fun rs g' hrs => ?_, fun g' hrelayed => ?_⟩
  · have hopen : ¬ g.broker.closed = true := by rw [hg.opened]; exact Bool.false_ne_true
    rw [publish, Broker.publish, if_neg hopen]
  · rw [hg₁.waiting_run hrs]
    exact Nat.le_add_left _ _
  · obtain ⟨⟨rs, hrs⟩, hend⟩ := hrelayed
    have hrelaying := hg₁.relaying hstamped hseparate hrs
    refine ⟨fun p h c hp hc hroom => ?_, fun slot hfull => ?_, fun p h hp => ?_, fun q hq => ?_⟩
    · obtain ⟨-, _, -, hs⟩ := hserved hp.2
      rw [(hrelaying.addressed hg hs hp.2 hend hkey hp.1).2, hc, Option.map_some,
        Connection.offered_of_accepts hroom]
    · by_cases hreg : ∃ i h, g.registry.get? i = some h ∧ h.slot = slot
      · obtain ⟨i, h, hi, rfl⟩ := hreg
        obtain ⟨p, _, rfl, hs⟩ := hserved hi
        by_cases hp : p.username.text = u
        · rw [(hrelaying.addressed hg hs hi hend hkey hp).2]
          cases hc : g.connections.get? h.slot with
          | none => rfl
          | some c => rw [Option.map_some, Connection.offered_of_refuses (hfull p h c ⟨hp, hi⟩ rfl hc)]
        · exact (hrelaying.unaddressed hg hs hi hend hkey hp).2
      · exact hrelaying.unregistered_outbox fun i h hi hslot => hreg ⟨i, h, hi, hslot⟩
    · obtain ⟨-, _, -, hs⟩ := hserved hp.2
      exact (hrelaying.addressed hg hs hp.2 hend hkey hp.1).1
    · by_cases hreg : ∃ i h, g.registry.get? i = some h ∧ i.text = q
      · obtain ⟨i, h, hi, rfl⟩ := hreg
        obtain ⟨p, _, rfl, hs⟩ := hserved hi
        exact (hrelaying.unaddressed hg hs hi hend hkey fun hp => hq p h ⟨hp, hi⟩ rfl).1
      · exact hrelaying.unregistered_queue hg.consistent fun i h hi hname => hreg ⟨i, h, hi, hname⟩

/-- Two devices of a user and one of another user. The first gets the payload, the second has no room for it,
both acknowledge it, and the other user hears nothing. -/
theorem broadcast_complete_devices :
    let as : List Action := [.connect 1 4, .connect 2 1, .connect 3 4,
      .bind ⟨⟨"ada", by decide⟩, ⟨"phone", by decide⟩⟩ ⟨1, 0⟩, .advance 0, .advance 0, .advance 0,
      .bind ⟨⟨"ada", by decide⟩, ⟨"watch", by decide⟩⟩ ⟨2, 1⟩, .advance 1, .advance 1, .advance 1,
      .bind ⟨⟨"bob", by decide⟩, ⟨"phone", by decide⟩⟩ ⟨3, 2⟩, .advance 2, .advance 2, .advance 2,
      .publish defaultExchange "location.ada.phone" [1], .relay 0, .relay 1]
    ∃ g g', ({} : Gateway).run as = some g ∧ (∀ a ∈ as, a.isLoss = false) ∧
      ((binds as).map fun e => e.2.slot).Nodup ∧ g.Settled ∧ (∀ s, g.relayReady s = false) ∧
      broadcastKey? "ada" = .ok "location.ada.*" ∧
      (g.publish defaultExchange "location.ada.*" [2]).2.Relayed g' ∧
      (g'.connections.get? 0).map (fun c => c.outbox.queued) = some [.payload [1], .payload [2]] ∧
      (g'.connections.get? 1).map (fun c => c.outbox.queued) = some [.payload [1]] ∧
      g'.broker.ackedFor "location.ada.phone" = 2 ∧ g'.broker.ackedFor "location.ada.watch" = 2 ∧
      g'.broker.ackedFor "location.bob.phone" = 0 := by
  intro as
  obtain ⟨g, hrun⟩ := Option.isSome_iff_exists.mp (show (({} : Gateway).run as).isSome = true by rfl)
  have hloss : ∀ a ∈ as, a.isLoss = false := by simp [as, Action.isLoss]
  have hslots : ((binds as).map fun e => e.2.slot) = [0, 1, 2] := rfl
  have honce : ((binds as).map fun e => e.2.slot).Nodup := hslots ▸ by decide
  have hkey : broadcastKey? "ada" = .ok "location.ada.*" := by rfl
  have hcalls : g.calls.entries = [(2, .done (.bound (.ok ⟨"location.bob.phone"⟩))),
      (1, .done (.bound (.ok ⟨"location.ada.watch"⟩))),
      (0, .done (.bound (.ok ⟨"location.ada.phone"⟩)))] := run_shows hrun (fun g => g.calls.entries) rfl
  have hsettled : g.Settled := by
    refine settled_of_entries ?_
    rw [hcalls]
    simp
  have hrest : ∀ s, g.relayReady s = false := by
    have hready : g.relays.keys.all (fun s => !g.relayReady s) = true :=
      run_shows hrun (fun g => g.relays.keys.all fun s => !g.relayReady s) rfl
    exact unready_of_keys fun s hs => by simpa using List.all_eq_true.mp hready s hs
  have hphone : g.connections.get? 0 = some { outbox := { capacity := 4, queued := [.payload [1]] } } :=
    run_shows hrun (fun g => g.connections.get? 0) rfl
  have hwatch : g.connections.get? 1 = some { outbox := { capacity := 1, queued := [.payload [1]] } } :=
    run_shows hrun (fun g => g.connections.get? 1) rfl
  have hada : g.RegisteredFor "ada" ⟨⟨"ada", by decide⟩, ⟨"phone", by decide⟩⟩ ⟨1, 0⟩ :=
    ⟨rfl, run_shows hrun (fun g => g.registry.get? ⟨"location.ada.phone"⟩) rfl⟩
  have hada' : g.RegisteredFor "ada" ⟨⟨"ada", by decide⟩, ⟨"watch", by decide⟩⟩ ⟨2, 1⟩ :=
    ⟨rfl, run_shows hrun (fun g => g.registry.get? ⟨"location.ada.watch"⟩) rfl⟩
  obtain ⟨-, ⟨g', hrelayed⟩, -, hall⟩ :=
    broadcast_complete [2] hrun hloss honce hsettled hrest (.inl hkey)
  obtain ⟨happended, hsame, hacked, hothers⟩ := hall g' hrelayed
  refine ⟨g, g', hrun, hloss, honce, hsettled, hrest, hkey, hrelayed, ?_, ?_, ?_, ?_, ?_⟩
  · rw [happended _ _ _ hada hphone rfl]
    rfl
  · rw [hsame 1 fun p h c _ _ hc => by cases hwatch.symm.trans hc; rfl, hwatch]
    rfl
  · exact (hacked _ _ hada).trans
      (congrArg (· + 1) (run_shows hrun (fun g => g.broker.ackedFor "location.ada.phone") rfl))
  · exact (hacked _ _ hada').trans
      (congrArg (· + 1) (run_shows hrun (fun g => g.broker.ackedFor "location.ada.watch") rfl))
  · refine (hothers _ fun p h hp hname => ?_).trans
      (run_shows hrun (fun g => g.broker.ackedFor "location.bob.phone") rfl)
    have hbob : p = ⟨⟨"bob", by decide⟩, ⟨"phone", by decide⟩⟩ :=
      Principal.identity_injective (Identity.eq_of_text hname)
    rw [hbob] at hp
    exact absurd hp.1 (by decide)

end Gateway
end LocationRelay
