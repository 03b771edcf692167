import LocationRelay.Proofs.Completion
import LocationRelay.Proofs.Requests

/-! # Binds and unbinds are serializable

Binds and unbinds that are under way at the same time come to what they come to when they are made one after
the other, in the order in which they get the locks of their identities.
-/
namespace LocationRelay

theorem Broker.refusal_ne_queueInUse (b : Broker) (q r : String) :
    b.refusal? q ≠ some (.queueInUse r) := by
  unfold Broker.refusal?
  split
  · rintro ⟨⟩
  · split <;> rintro ⟨⟩

namespace Gateway

/-- Binds that failed from the beginning have registered nobody. -/
theorem resting_of_run {exchange : String} {refusing : Bool} {past : List Action} {g : Gateway}
    {bound : Nat → Prop} (hpast : run { exchange, broker := { refusing } } past = some g)
    (hsettled : g.Settled)
    (hapart : (∀ a ∈ past, a.isBinding = true ∨ ∃ connId capacity, a = .connect connId capacity) ∨
      .shutdown ∉ past ∧ ((∀ q, g.broker.refusal? q ≠ none) →
        ∀ i k, g.registry.get? i = some k → ¬ bound k.slot)) : g.Resting bound := by
  have hfresh : Resting { exchange, broker := { refusing } } fun _ => True := by
    refine ⟨consistent_fresh exchange refusing, serving_fresh exchange refusing, fun t c h => ?_,
      fun _ j h hh => ?_⟩
    · cases h
    · cases hh
  rcases hapart with hbinds | ⟨hno, hapart⟩
  · obtain ⟨hg, -⟩ := hfresh.run hpast hbinds (fun _ _ _ => trivial) hsettled
    exact ⟨hg.consistent, hg.serving, hsettled,
      fun hrefused i k hk _ => hg.apart hrefused i k hk trivial⟩
  · exact ⟨hfresh.consistent.run hpast, hfresh.serving.run hfresh.consistent hpast hno, hsettled,
      hapart⟩

/-- Between two moments at which no call is under way, binds and unbinds are interleaved in any way. The
requests that get their locks are those that are made. Every call has the outcome, and the registry, the
consumers, the queues and the requests to stop are what they are, when the same requests are made one after
the other in the order in which they get their locks. A registration that is there after some of them
outlasts unbinds for other connections, and no queue is ever found in use.

Before that the gateway may have opened connections, and bound and unbound them, or may have done anything
but shut down; then, where the broker refuses, no connection is bound that is registered already. -/
theorem binds_serialize {exchange : String} {refusing : Bool} {past as : List Action}
    {g₀ g : Gateway} (hpast : run { exchange, broker := { refusing } } past = some g₀)
    (hbefore : g₀.Settled)
    (hapart : (∀ a ∈ past, a.isBinding = true ∨ ∃ connId capacity, a = .connect connId capacity) ∨
      .shutdown ∉ past ∧ ((∀ q, g₀.broker.refusal? q ≠ none) →
        ∀ i k, g₀.registry.get? i = some k → ¬ ∃ p h, .bind p h ∈ as ∧ h.slot = k.slot))
    (hrun : g₀.run as = some g) (hbinds : ∀ a ∈ as, a.isBinding = true) (hafter : g.Settled) :
    (noted entered g₀ as).Perm (noted requested g₀ as) ∧
    (∃ os g', g₀.Serially ((noted entered g₀ as).map Prod.snd) os g' ∧
      (noted entered g₀ as).map (fun e => g.outcome? e.1) = os.map some ∧
      (∀ i, g.registry.get? i = g'.registry.get? i) ∧
      (∀ i, (g.consumers.get? i).map Consumer.binding = (g'.consumers.get? i).map Consumer.binding) ∧
      (∀ q, (g.broker.queues.get? q).map Prod.fst = (g'.broker.queues.get? q).map Prod.fst) ∧
      ∀ h, g.stopOf h = g'.stopOf h) ∧
    (∀ before after os g₁, noted entered g₀ as = before ++ after →
      g₀.Serially (before.map Prod.snd) os g₁ → ∀ i k, g₁.registry.get? i = some k →
      (∀ e ∈ after, e.2.identity = i → ∃ connId, e.2 = .unbind i connId ∧ connId ≠ k.connId) →
      g.entry i = g₁.entry i) ∧
    ∀ e ∈ noted entered g₀ as, ∀ q, g.outcome? e.1 ≠ some (.bound (.error (.queueInUse q))) := by
  have hresting : g₀.Resting fun slot => ∃ p h, .bind p h ∈ as ∧ h.slot = slot :=
    resting_of_run hpast hbefore hapart
  have hperm := hbefore.perm hresting.consistent hrun hbinds hafter
  obtain ⟨-, hview, houtcomes⟩ := hresting.run hrun (fun a ha => .inl (hbinds a ha))
    (fun p h hb => ⟨p, h, hb, rfl⟩) hafter
  have hmade : ∀ p h, .bind p h ∈ (noted entered g₀ as).map Prod.snd → .bind p h ∈ as := by
    intro p h hb
    obtain ⟨⟨t, r⟩, he, rfl⟩ := List.mem_map.mp hb
    obtain ⟨a, ha, g₁, hmem⟩ := exists_of_mem_noted (hperm.mem_iff.mp he)
    exact requested_bind hmem ▸ ha
  refine ⟨hperm, ?_, ?_, ?_⟩
  · obtain ⟨os, g', hserial⟩ := hresting.serially fun p h hb =>
      ⟨opened_of_bind hresting.consistent hresting.serving hrun hbinds (hmade p h hb),
        p, h, hmade p h hb, rfl⟩
    obtain ⟨-, hview', hos⟩ := hserial.replay hresting fun p h hb => ⟨p, h, hmade p h hb, rfl⟩
    have hsame : g.view = g'.view := hview.trans hview'.symm
    refine ⟨os, g', hserial, hos ▸ houtcomes, fun i => ?_, fun i => ?_, fun q => ?_, fun h => ?_⟩
    · exact congrArg (fun v => (v.entry i).handle) hsame
    · exact congrArg (fun v => (v.entry i).consumer) hsame
    · exact congrArg (fun v => (v.entry ⟨q⟩).queue) hsame
    · exact congrArg (fun v => v.stop h.slot) hsame
  · intro before after os g₁ hsplit hserial i k hk hstale
    obtain ⟨-, hview₁, -⟩ := hserial.replay hresting fun p h hb => by
      refine ⟨p, h, hmade p h ?_, rfl⟩
      rw [hsplit, List.map_append]
      exact List.mem_append_left _ hb
    have hrest : g.view = (g₁.view.replay (after.map Prod.snd)).2 := by
      rw [hview, hsplit, List.map_append, View.replay_append, hview₁]
    have hkept : (g₁.view.replay (after.map Prod.snd)).2.entry i = g₁.view.entry i := by
      refine View.replay_of_stale hk fun r hr hi => ?_
      obtain ⟨e, he, rfl⟩ := List.mem_map.mp hr
      exact hstale e he hi
    exact (congrArg (fun v => v.entry i) hrest).trans hkept
  · intro e he q hout
    have hmem := List.mem_map_of_mem (f := fun e => g.outcome? e.1) he
    rw [houtcomes, hout] at hmem
    obtain ⟨o, ho, heq⟩ := List.mem_map.mp hmem
    cases heq
    obtain ⟨r, hr⟩ := View.refusal_of_replay ho
    exact Broker.refusal_ne_queueInUse _ r q hr

/-- A second phone takes the place of the first one and a watch is bound while the first phone gives its
binding back, which comes too late. -/
theorem binds_serialize_reconnect : ∃ g₀ g, ({} : Gateway).run
    [.connect 1 4, .connect 2 4, .connect 3 4,
      .bind ⟨⟨"ada", by decide⟩, ⟨"phone", by decide⟩⟩ ⟨1, 0⟩, .advance 0, .advance 0, .advance 0] = some g₀ ∧
    g₀.Settled ∧ g₀.run [.bind ⟨⟨"ada", by decide⟩, ⟨"phone", by decide⟩⟩ ⟨2, 1⟩,
      .unbind ⟨"location.ada.phone"⟩ 1, .bind ⟨⟨"ada", by decide⟩, ⟨"watch", by decide⟩⟩ ⟨3, 2⟩,
      .advance 1, .advance 3, .advance 1, .advance 3, .advance 1, .advance 1, .advance 3, .advance 1,
      .advance 2] = some g ∧ g.Settled ∧
    ∃ os g', g₀.Serially
      [.bind ⟨⟨"ada", by decide⟩, ⟨"phone", by decide⟩⟩ ⟨2, 1⟩,
        .bind ⟨⟨"ada", by decide⟩, ⟨"watch", by decide⟩⟩ ⟨3, 2⟩,
        .unbind ⟨"location.ada.phone"⟩ 1] os g' ∧
      [g.outcome? 1, g.outcome? 3, g.outcome? 2] = os.map some ∧
      ∀ i, g.registry.get? i = g'.registry.get? i := by
  obtain ⟨g, hwhole⟩ := Option.isSome_iff_exists.mp (show (({} : Gateway).run
    ([.connect 1 4, .connect 2 4, .connect 3 4,
      .bind ⟨⟨"ada", by decide⟩, ⟨"phone", by decide⟩⟩ ⟨1, 0⟩, .advance 0, .advance 0, .advance 0] ++
    [.bind ⟨⟨"ada", by decide⟩, ⟨"phone", by decide⟩⟩ ⟨2, 1⟩,
      .unbind ⟨"location.ada.phone"⟩ 1, .bind ⟨⟨"ada", by decide⟩, ⟨"watch", by decide⟩⟩ ⟨3, 2⟩,
      .advance 1, .advance 3, .advance 1, .advance 3, .advance 1, .advance 1, .advance 3, .advance 1,
      .advance 2])).isSome = true by rfl)
  obtain ⟨g₀, hpast, hrun⟩ := run_append_eq_some.mp hwhole
  have hcalls₀ : g₀.calls.entries = [(0, .done (.bound (.ok ⟨"location.ada.phone"⟩)))] :=
    run_shows hpast (fun g => g.calls.entries) rfl
  have hbefore : g₀.Settled := by
    refine settled_of_entries ?_
    rw [hcalls₀]
    simp
  have hcalls : g.calls.entries = [(2, .done (.unbound false)),
      (1, .done (.bound (.ok ⟨"location.ada.phone"⟩))),
      (3, .done (.bound (.ok ⟨"location.ada.watch"⟩))),
      (0, .done (.bound (.ok ⟨"location.ada.phone"⟩)))] :=
    run_shows hwhole (fun g => g.calls.entries) rfl
  have hafter : g.Settled := by
    refine settled_of_entries ?_
    rw [hcalls]
    simp
  have hnoted := noted_append entered hpast [.bind ⟨⟨"ada", by decide⟩, ⟨"phone", by decide⟩⟩ ⟨2, 1⟩,
      .unbind ⟨"location.ada.phone"⟩ 1, .bind ⟨⟨"ada", by decide⟩, ⟨"watch", by decide⟩⟩ ⟨3, 2⟩,
      .advance 1, .advance 3, .advance 1, .advance 3, .advance 1, .advance 1, .advance 3, .advance 1,
      .advance 2]
  have horder : noted entered g₀ [.bind ⟨⟨"ada", by decide⟩, ⟨"phone", by decide⟩⟩ ⟨2, 1⟩,
      .unbind ⟨"location.ada.phone"⟩ 1, .bind ⟨⟨"ada", by decide⟩, ⟨"watch", by decide⟩⟩ ⟨3, 2⟩,
      .advance 1, .advance 3, .advance 1, .advance 3, .advance 1, .advance 1, .advance 3, .advance 1,
      .advance 2] =
      [(1, .bind ⟨⟨"ada", by decide⟩, ⟨"phone", by decide⟩⟩ ⟨2, 1⟩),
        (3, .bind ⟨⟨"ada", by decide⟩, ⟨"watch", by decide⟩⟩ ⟨3, 2⟩),
        (2, .unbind ⟨"location.ada.phone"⟩ 1)] :=
    (List.cons.inj hnoted).2.symm
  obtain ⟨-, ⟨os, g', hserial, houtcomes, hregistry, -⟩, -⟩ :=
    binds_serialize hpast hbefore (.inl (by simp [Action.isBinding])) hrun (by simp [Action.isBinding]) hafter
  rw [horder] at hserial houtcomes
  exact ⟨g₀, g, hpast, hbefore, hrun, hafter, os, g', hserial, houtcomes, hregistry⟩

end Gateway
end LocationRelay
