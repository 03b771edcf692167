import LocationRelay.Proofs.Relaying
import LocationRelay.Proofs.Reordering

/-! # The order in which relays take turns

A turn of a relay looks at nothing but its stream, its relay and the registration of its identity, and changes
no stream and no relay besides. When no two relays serve one outbox, turns of different relays can therefore be
exchanged, and all ways to take turns until every relay waits lead to the same gateway.
-/
namespace LocationRelay.Gateway

structure RelayTurn where
  stream : StreamId
  /-- What is left of the stream; nothing if the relay gives up reading it. -/
  left : Option Stream
  /-- The queue to which a delivery is acknowledged. -/
  acked : Option String
  /-- What becomes of the connection in a slot. -/
  told : Option (Nat × (Connection → Connection))

def handing (g : Gateway) (s : StreamId) (r : Relay) (d : Delivery) (rest : Stream) : RelayTurn where
  stream := s
  left := some rest
  acked := some d.queue
  told := (g.registry.get? r.identity).map fun h => (h.slot, fun c => c.offered [d.payload])

def losing (g : Gateway) (s : StreamId) (r : Relay) : RelayTurn where
  stream := s
  left := none
  acked := none
  told := (g.registry.get? r.identity).bind fun h =>
    if some h.connId = r.owner then
      some (h.slot, fun c => { c with outbox := c.outbox.close .subscriptionLost })
    else none

def turn? (g : Gateway) (s : StreamId) : Option RelayTurn :=
  (g.relays.get? s).bind fun r =>
    match g.broker.streams.get? s with
    | none => some (g.losing s r)
    | some st =>
      match st.waiting with
      | d :: rest => some (g.handing s r d { st with waiting := rest })
      | [] => if st.fed then none else some (g.losing s r)

def perform (g : Gateway) (τ : RelayTurn) : Gateway :=
  { g with
    connections := τ.told.elim g.connections fun e => g.connections.adjust e.1 e.2
    relays := if τ.left.isSome then g.relays else g.relays.erase τ.stream
    broker := { g.broker with
      streams := g.broker.streams.put τ.stream τ.left
      acked := τ.acked.elim g.broker.acked fun q => g.broker.acked.insert q (g.broker.ackedFor q + 1) } }

variable {g g' k k' : Gateway} {s t : StreamId} {τ σ : RelayTurn}

/-- A turn hands on the first delivery of the stream, or gives the stream up. -/
theorem turn_cases (hτ : g.turn? s = some τ) : ∃ r, g.relays.get? s = some r ∧ (τ = g.losing s r ∨
    ∃ st d rest, g.broker.streams.get? s = some st ∧ st.waiting = d :: rest ∧
      τ = g.handing s r d { st with waiting := rest }) := by
  obtain ⟨r, hr, hτ⟩ := Option.bind_eq_some_iff.mp hτ
  refine ⟨r, hr, ?_⟩
  split at hτ
  · exact .inl (Option.some.inj hτ).symm
  · next st hst =>
    split at hτ
    · next d rest hw => exact .inr ⟨st, d, rest, hst, hw, (Option.some.inj hτ).symm⟩
    · exact .inl (Option.some.inj (Option.ite_none_left_eq_some.mp hτ).2).symm

theorem forward_eq (g : Gateway) (i : Identity) (payload : Text.Bytes) : (g.forward i payload).2 =
    { g with connections := (g.registry.get? i).elim g.connections fun h =>
        g.connections.adjust h.slot fun c => c.offered [payload] } := by
  cases hreg : g.registry.get? i with
  | none => rw [forward, hreg]; rfl
  | some h =>
    rw [forward_registered hreg, Option.elim_some]
    cases hc : g.connection? h with
    | none =>
      rw [offer, hc, Option.bind_none, Table.adjust_of_absent hc]
    | some c =>
      rw [offer_eq hc]
      rfl

theorem loseSubscription_turn (g : Gateway) (s : StreamId) (r : Relay) :
    g.loseSubscription s r = g.perform (g.losing s r) := by
  unfold loseSubscription losing
  dsimp only
  cases g.registry.get? r.identity with
  | none => rfl
  | some h =>
    dsimp only [Option.bind_some]
    split <;> rfl

/-- A step of a relay is the turn that it can take. -/
theorem relayStep?_eq (g : Gateway) (s : StreamId) : g.relayStep? s = (g.turn? s).map g.perform := by
  unfold relayStep? turn?
  cases g.relays.get? s with
  | none => rfl
  | some r =>
    simp only [Option.bind_eq_bind, Option.bind_some, Broker.next, loseSubscription_turn]
    cases g.broker.streams.get? s with
    | none => rfl
    | some st =>
      dsimp only
      cases st.waiting with
      | nil => cases st.fed <;> rfl
      | cons d rest =>
        simp only [Option.map_some, Option.some.injEq, relayDelivery]
        rw [forward_eq]
        unfold handing
        cases g.registry.get? r.identity <;> rfl

theorem run_relay_cons {rs : List StreamId} : g.run ((s :: rs).map .relay) = some k ↔
    ∃ τ, g.turn? s = some τ ∧ (g.perform τ).run (rs.map .relay) = some k := by
  have hact : ∀ g₁, g.act? (.relay s) = some g₁ ↔ ∃ τ, g.turn? s = some τ ∧ g.perform τ = g₁ := fun g₁ => by
    rw [act?, relayStep?_eq, Option.map_eq_some_iff]
  rw [List.map_cons, run_cons_eq_some]
  constructor
  · rintro ⟨g₁, ha, hrest⟩
    obtain ⟨τ, hτ, rfl⟩ := (hact g₁).mp ha
    exact ⟨τ, hτ, hrest⟩
  · rintro ⟨τ, hτ, hrest⟩
    exact ⟨_, (hact _).mpr ⟨τ, hτ, rfl⟩, hrest⟩

theorem relayReady_eq (g : Gateway) (s : StreamId) : g.relayReady s = (g.turn? s).isSome := by
  unfold relayReady turn? Table.contains
  cases g.relays.get? s with
  | none => rfl
  | some r =>
    simp only [Option.isSome_some, Bool.true_and, Option.bind_some, Broker.next]
    cases g.broker.streams.get? s with
    | none => rfl
    | some st =>
      dsimp only
      cases st.waiting with
      | nil => cases st.fed <;> rfl
      | cons d rest => rfl

theorem relayReady_eq_false : g.relayReady s = false ↔ g.turn? s = none := by
  rw [relayReady_eq, Option.isSome_eq_false_iff, Option.isNone_iff_eq_none]

/-! ## Turns in gateways that are the same -/

theorem Same.turn? (hs : g.Same g') (s : StreamId) : g.turn? s = g'.turn? s := by
  unfold Gateway.turn? handing losing
  simp only [hs.relays.get?, hs.registry.get?, hs.broker.streams.get?]

theorem Same.perform (hs : g.Same g') (τ : RelayTurn) : (g.perform τ).Same (g'.perform τ) where
  exchange := hs.exchange
  connections := by
    change Table.Same (τ.told.elim _ _) (τ.told.elim _ _)
    cases τ.told with
    | none => exact hs.connections
    | some e => exact hs.connections.adjust e.1 e.2
  registry := hs.registry
  locks := hs.locks
  broker := {
    hs.broker with
    streams := hs.broker.streams.put τ.stream τ.left
    acked := by
      change Table.Same (τ.acked.elim _ _) (τ.acked.elim _ _)
      cases τ.acked with
      | none => exact hs.broker.acked
      | some q =>
        dsimp only [Option.elim_some, Broker.ackedFor]
        rw [hs.broker.acked.get? q]
        exact hs.broker.acked.insert q _ }
  consumers := hs.consumers
  relays := by
    change Table.Same (if _ then _ else _) (if _ then _ else _)
    split
    · exact hs.relays
    · exact hs.relays.erase τ.stream
  calls := hs.calls
  nextTicket := hs.nextTicket
  nextConnId := hs.nextConnId
  shuttingDown := hs.shuttingDown

theorem Same.run_relays (hs : g.Same g') {rs : List StreamId} (hrun : g.run (rs.map .relay) = some k) :
    ∃ k', g'.run (rs.map .relay) = some k' ∧ k.Same k' := by
  induction rs generalizing g g' with
  | nil =>
    cases hrun
    exact ⟨g', rfl, hs⟩
  | cons s rs ih =>
    obtain ⟨τ, hτ, hrest⟩ := run_relay_cons.mp hrun
    obtain ⟨k', hk', hsame⟩ := ih (hs.perform τ) hrest
    exact ⟨k', run_relay_cons.mpr ⟨τ, hs.turn? s ▸ hτ, hk'⟩, hsame⟩

/-! ## Turns of two relays -/

theorem get?_relays_perform (g : Gateway) (τ : RelayTurn) (s : StreamId) (h : s ≠ τ.stream) :
    (g.perform τ).relays.get? s = g.relays.get? s := by
  unfold perform
  dsimp only
  split
  · rfl
  · rw [Table.get?_erase, if_neg h]

/-- A turn leaves all other relays what they had to do. -/
theorem turn?_perform (g : Gateway) (τ : RelayTurn) (h : s ≠ τ.stream) : (g.perform τ).turn? s = g.turn? s := by
  have hstreams : (g.perform τ).broker.streams.get? s = g.broker.streams.get? s := by
    simp only [perform, Table.get?_put, if_neg h]
  unfold turn? handing losing
  rw [get?_relays_perform g τ s h, hstreams]
  rfl

/-- Turns on two streams that tell two connections. -/
def RelayTurn.Apart (τ σ : RelayTurn) : Prop :=
  τ.stream ≠ σ.stream ∧ ∀ e ∈ τ.told, ∀ e' ∈ σ.told, e.1 ≠ e'.1

theorem perform_comm (g : Gateway) (h : τ.Apart σ) :
    ((g.perform τ).perform σ).Same ((g.perform σ).perform τ) := by
  obtain ⟨hstream, htold⟩ := h
  refine {
    Same.refl g with
    connections := ?_
    broker := { Broker.Same.refl g.broker with streams := ?_, acked := ?_ }
    relays := ?_ }
  · unfold perform
    dsimp only
    cases hτ : τ.told with
    | none => exact .refl _
    | some e =>
      cases hσ : σ.told with
      | none => exact .refl _
      | some e' => exact g.connections.adjust_comm fun he => absurd he (htold e hτ e' hσ)
  · refine Table.same_iff.mpr fun u => ?_
    simp only [perform, Table.get?_put]
    split_ifs with hu hu'
    · exact absurd (hu'.symm.trans hu) hstream
    all_goals rfl
  · refine Table.same_iff.mpr fun q => ?_
    unfold perform Broker.ackedFor
    cases τ.acked with
    | none => rfl
    | some a =>
      cases σ.acked with
      | none => rfl
      | some a' =>
        -- Two acknowledgements to one queue add up either way.
        simp only [Option.elim_some, Table.get?_insert]
        grind
  · unfold perform
    dsimp only
    split_ifs
    all_goals first | exact .refl _ | exact g.relays.erase_comm _ _

def RelaysApart (g : Gateway) : Prop :=
  ∀ s t r r' h h', g.relays.get? s = some r → g.relays.get? t = some r' →
    g.registry.get? r.identity = some h → g.registry.get? r'.identity = some h' → h.slot = h'.slot → s = t

theorem Same.relaysApart (hs : g.Same g') (hg : g.RelaysApart) : g'.RelaysApart := by
  intro s t r r' h h' hr hr' hh hh'
  rw [← hs.relays.get?] at hr hr'
  rw [← hs.registry.get?] at hh hh'
  exact hg s t r r' h h' hr hr' hh hh'

theorem RelaysApart.perform (hg : g.RelaysApart) (τ : RelayTurn) : (g.perform τ).RelaysApart := by
  have hrelays : ∀ s r, (g.perform τ).relays.get? s = some r → g.relays.get? s = some r := by
    intro s r hr
    by_cases hs : s = τ.stream
    · unfold Gateway.perform at hr
      dsimp only at hr
      split at hr
      · exact hr
      · rw [Table.get?_erase, if_pos hs] at hr
        cases hr
    · rwa [get?_relays_perform g τ s hs] at hr
  exact fun s t r r' h h' hr hr' => hg s t r r' h h' (hrelays s r hr) (hrelays t r' hr')

/-- The relay behind a turn, and whom it tells. -/
theorem relay_of_turn (hτ : g.turn? s = some τ) : τ.stream = s ∧ ∃ r, g.relays.get? s = some r ∧
    ∀ e ∈ τ.told, ∃ h, g.registry.get? r.identity = some h ∧ h.slot = e.1 := by
  obtain ⟨r, hr, rfl | ⟨st, d, rest, -, -, rfl⟩⟩ := turn_cases hτ
  · refine ⟨rfl, r, hr, fun e he => ?_⟩
    obtain ⟨h, hh, he⟩ := Option.bind_eq_some_iff.mp he
    obtain ⟨-, he⟩ := Option.ite_none_right_eq_some.mp he
    cases he
    exact ⟨h, hh, rfl⟩
  · refine ⟨rfl, r, hr, fun e he => ?_⟩
    obtain ⟨h, hh, rfl⟩ := Option.map_eq_some_iff.mp he
    exact ⟨h, hh, rfl⟩

theorem RelaysApart.turns (hg : g.RelaysApart) (hτ : g.turn? s = some τ) (hσ : g.turn? t = some σ)
    (hne : s ≠ t) : τ.Apart σ := by
  obtain ⟨hstream, r, hr, htold⟩ := relay_of_turn hτ
  obtain ⟨hstream', r', hr', htold'⟩ := relay_of_turn hσ
  refine ⟨by rwa [hstream, hstream'], fun e he e' he' hslot => hne ?_⟩
  obtain ⟨h, hh, hhe⟩ := htold e he
  obtain ⟨h', hh', hhe'⟩ := htold' e' he'
  exact hg s t r r' h h' hr hr' hh hh' (hhe.trans (hslot.trans hhe'.symm))

/-! ## All turns -/

/-- A turn that can be taken now may as well be taken first. -/
theorem RelaysApart.takes_first (hg : g.RelaysApart) (hτ : g.turn? s = some τ) (hrelayed : g.Relayed k) :
    ∃ k', (g.perform τ).Relayed k' ∧ k.Same k' := by
  obtain ⟨⟨rs, hrun⟩, hend⟩ := hrelayed
  -- The induction is on the turns that were taken; those before this one are of other relays.
  suffices h : ∃ (rs' : List StreamId) (k' : Gateway),
      (g.perform τ).run (rs'.map .relay) = some k' ∧ k.Same k' by
    obtain ⟨rs', k', hrun', hs⟩ := h
    refine ⟨k', ⟨⟨rs', hrun'⟩, fun u => ?_⟩, hs⟩
    rw [relayReady_eq_false, ← hs.turn?, relayReady_eq_false.mp (hend u)]
  induction rs generalizing g with
  | nil =>
    cases hrun
    cases (relayReady_eq_false.mp (hend s)).symm.trans hτ
  | cons t rs ih =>
    obtain ⟨σ, hσ, hrest⟩ := run_relay_cons.mp hrun
    by_cases hst : s = t
    · subst hst
      cases hτ.symm.trans hσ
      exact ⟨rs, k, hrest, .refl k⟩
    · have hapart := hg.turns hτ hσ hst
      have hστ : s ≠ σ.stream := (relay_of_turn hσ).1 ▸ hst
      have hτσ : t ≠ τ.stream := (relay_of_turn hτ).1 ▸ Ne.symm hst
      obtain ⟨rs', k', hrun', hs⟩ := ih (hg.perform σ) (by rwa [turn?_perform g σ hστ]) hrest
      obtain ⟨k'', hrun'', hs'⟩ := (perform_comm g hapart).symm.run_relays hrun'
      refine ⟨t :: rs', k'', run_relay_cons.mpr ⟨σ, ?_, hrun''⟩, hs.trans hs'⟩
      rwa [turn?_perform g τ hτσ]

/-- However the relays take their turns, they leave the same gateway behind. -/
theorem RelaysApart.relayed_same (hg : g.RelaysApart) (hs : g.Same g') (hk : g.Relayed k)
    (hk' : g'.Relayed k') : k.Same k' := by
  obtain ⟨⟨rs, hrun⟩, hend⟩ := hk
  induction rs generalizing g g' k' with
  | nil =>
    cases hrun
    obtain ⟨⟨rs', hrun'⟩, -⟩ := hk'
    cases rs' with
    | nil =>
      cases hrun'
      exact hs
    | cons t rs' =>
      obtain ⟨σ, hσ, -⟩ := run_relay_cons.mp hrun'
      rw [← hs.turn?, relayReady_eq_false.mp (hend t)] at hσ
      cases hσ
  | cons s rs ih =>
    obtain ⟨τ, hτ, hrest⟩ := run_relay_cons.mp hrun
    obtain ⟨k'', hk'', hsame⟩ := (hs.relaysApart hg).takes_first (hs.turn? s ▸ hτ) hk'
    exact (ih (hg.perform τ) (hs.perform τ) hk'' hrest).trans hsame.symm

/-- What relays still have to do: deliveries to hand on and streams to give up. -/
def pending (g : Gateway) : Nat := g.waiting + g.relays.size

theorem length_inStreams (streams : Table StreamId Stream) (s : StreamId) :
    (inStreams streams).length =
      ((streams.get? s).elim [] Stream.waiting).length + (inStreams (streams.erase s)).length := by
  cases hst : streams.get? s with
  | none =>
    rw [Table.erase_of_absent hst]
    exact (Nat.zero_add _).symm
  | some st =>
    rw [inStreams, ((Table.perm_cons_erase hst).flatMap_right _).length_eq, List.flatMap_cons,
      List.length_append, List.length_map]
    rfl

theorem length_inStreams_put (streams : Table StreamId Stream) (s : StreamId) (o : Option Stream) :
    (inStreams (streams.put s o)).length =
      (o.elim [] Stream.waiting).length + (inStreams (streams.erase s)).length := by
  cases o with
  | none => exact (Nat.zero_add _).symm
  | some st =>
    rw [Table.put, Option.elim_some, inStreams, Table.insert, List.flatMap_cons, List.length_append,
      List.length_map]
    rfl

theorem pending_perform (hτ : g.turn? s = some τ) : (g.perform τ).pending < g.pending := by
  have hwaiting := length_inStreams g.broker.streams s
  obtain ⟨r, hr, rfl | ⟨st, d, rest, hst, hw, rfl⟩⟩ := turn_cases hτ
  · have hrelays : g.relays.size = (g.relays.erase s).size + 1 := (Table.perm_cons_erase hr).length_eq
    have hleft := length_inStreams_put g.broker.streams s none
    rw [Option.elim_none, List.length_nil] at hleft
    simp only [pending, waiting, perform, losing, Option.isSome_none, Bool.false_eq_true, if_false]
    omega
  · have hleft := length_inStreams_put g.broker.streams s (some { st with waiting := rest })
    rw [hst, Option.elim_some, hw, List.length_cons] at hwaiting
    simp only [pending, waiting, perform, handing, Option.isSome_some, if_true, Option.elim_some] at hleft ⊢
    omega

/-- Relays come to rest. -/
theorem exists_relayed (g : Gateway) : ∃ k, g.Relayed k := by
  induction hn : g.pending using Nat.strongRecOn generalizing g with
  | ind n ih =>
    by_cases hrest : ∀ s, g.relayReady s = false
    · exact ⟨g, ⟨[], rfl⟩, hrest⟩
    · obtain ⟨s, hready⟩ := not_forall.mp hrest
      rw [relayReady_eq_false] at hready
      obtain ⟨τ, hτ⟩ := Option.ne_none_iff_exists'.mp hready
      obtain ⟨k, ⟨rs, hrun⟩, hend⟩ := ih _ (hn ▸ pending_perform hτ) (g.perform τ) rfl
      exact ⟨k, ⟨s :: rs, run_relay_cons.mpr ⟨τ, hτ, hrun⟩⟩, hend⟩

end LocationRelay.Gateway
