import LocationRelay.Proofs.Broadcast
import LocationRelay.Proofs.Eviction
import LocationRelay.Proofs.RelayOrder
import LocationRelay.Proofs.ShutdownOrder

/-! # The order of enumeration is not observable

A sweep goes through the registered connections, a publish through the queues, and a shutdown through both the
registered connections and the consumers, in whatever order their tables list them. None of the three lets
anyone see that order, and neither do the relays that follow a publish. Main statement: in gateways that are
the same but for the order of their tables, each of the three has the same answer and leaves gateways that are
again the same.
-/
namespace LocationRelay

open Text (Bytes)

/-! ## Sweeps -/

namespace Gateway

variable {g g' : Gateway}

def Swept (acc acc' : SweepReport × Gateway) : Prop := acc.1 = acc'.1 ∧ acc.2.Same acc'.2

theorem swept_equivalence : Equivalence Swept where
  refl _ := ⟨rfl, .refl _⟩
  symm h := ⟨h.1.symm, h.2.symm⟩
  trans h h' := ⟨h.1.trans h'.1, h.2.trans h'.2⟩

def SweepReport.noting (report : SweepReport) (v : Option Verdict) : SweepReport := v.elim report report.add

theorem SweepReport.noting_comm (report : SweepReport) (v w : Option Verdict) :
    (report.noting v).noting w = (report.noting w).noting v := by
  rcases v with - | - | - | - <;> rcases w with - | - | - | - <;> rfl

theorem visit_noting (g : Gateway) (maxMissed : Nat) (report : SweepReport) (h : Handle) :
    g.visit maxMissed report h = (report.noting ((g.connection? h).map (·.verdict maxMissed)),
      g.adjust h fun c => c.visited maxMissed) := by
  cases hc : g.connection? h with
  | none => rw [visit_of_none hc, adjust, Table.adjust_of_absent hc]; rfl
  | some c => exact visit_eq hc maxMissed report

theorem Same.visit (hs : g.Same g') (maxMissed : Nat) (report : SweepReport) (h : Handle) :
    Swept (g.visit maxMissed report h) (g'.visit maxMissed report h) := by
  have hconnection : g.connection? h = g'.connection? h := hs.connections.get? h.slot
  rw [visit_noting, visit_noting, hconnection]
  exact ⟨rfl, hs.adjust h _⟩

theorem visit_comm (g : Gateway) (maxMissed : Nat) (report : SweepReport) (h h' : Handle) :
    Swept ((g.visit maxMissed report h).2.visit maxMissed (g.visit maxMissed report h).1 h')
      ((g.visit maxMissed report h').2.visit maxMissed (g.visit maxMissed report h').1 h) := by
  simp only [visit_noting]
  by_cases he : h.slot = h'.slot
  · simp only [connection?, adjust, he]
    exact swept_equivalence.refl _
  · -- Neither visit changes what the other one looks at.
    have hother : ∀ {h h' : Handle}, h.slot ≠ h'.slot → ∀ f,
        (g.adjust h f).connection? h' = g.connection? h' :=
      fun hne f => (Table.get?_adjust ..).trans (if_neg (Ne.symm hne))
    rw [hother he, hother (Ne.symm he)]
    refine ⟨SweepReport.noting_comm report _ _, { Same.refl g with connections := ?_ }⟩
    exact g.connections.adjust_comm fun hslot => absurd hslot he

/-- A sweep counts and does the same in any order. -/
theorem Same.sweep (hs : g.Same g') (config : SweepConfig) : Swept (g.sweep config) (g'.sweep config) := by
  have hfold : Swept
      (g.registry.entries.foldl (fun acc e => Gateway.visit config.maxMissed acc.2 acc.1 e.2) ({}, g))
      (g'.registry.entries.foldl (fun acc e => Gateway.visit config.maxMissed acc.2 acc.1 e.2) ({}, g')) := by
    refine foldl_perm_rel swept_equivalence (fun {acc acc'} e hacc => ?_) (fun acc e e' => ?_) hs.registry
      ⟨rfl, hs⟩
    · rw [hacc.1]
      exact hacc.2.visit _ _ _
    · exact visit_comm acc.2 _ _ _ _
  exact ⟨hfold.1, hfold.2.prune⟩

end Gateway

/-! ## Publishing -/

/-- What a publish puts into a stream that no two queues share. -/
theorem Broker.arrivals_same {queues queues' : Table String (Binding × StreamId)} (hs : queues.Same queues')
    {s : StreamId}
    (hone : ∀ e ∈ queues.entries, ∀ e' ∈ queues.entries, e.2.2 = s → e'.2.2 = s → e.1 = e'.1)
    (exchange key : String) (payload : Bytes) :
    arrivals exchange key payload s (queues.entries.map Prod.snd) =
      arrivals exchange key payload s (queues'.entries.map Prod.snd) := by
  -- Whatever arrives comes through the one queue whose stream this is, if there is one.
  obtain ⟨q, hq⟩ : ∃ q, ∀ e ∈ queues.entries, e.2.2 = s → e.1 = q := by
    by_cases hsome : ∃ e ∈ queues.entries, e.2.2 = s
    · obtain ⟨e, he, hes⟩ := hsome
      exact ⟨e.1, fun e' he' hes' => hone e' he' e he hes' hes⟩
    · exact ⟨"", fun e he hes => absurd ⟨e, he, hes⟩ hsome⟩
  have hnone : ∀ e ∈ queues.entries, e.1 ≠ q → (if e.2.2 = s ∧ e.2.1.reached exchange key then
      some (⟨e.2.1.queue, key, payload⟩ : Delivery) else none) = none :=
    fun e he hne => if_neg fun h => hne (hq e he h.1)
  unfold arrivals
  rw [List.filterMap_map, List.filterMap_map]
  refine (queues.filterMap_entries (k := q) hnone).trans ?_
  rw [hs.get? q]
  exact (queues'.filterMap_entries (k := q) fun e he => hnone e (hs.mem_iff.mpr he)).symm

theorem Broker.Same.publish {b b' : Broker} (hs : b.Same b') (hone : ∀ q q' x x' s,
      b.queues.get? q = some (x, s) → b.queues.get? q' = some (x', s) → b.streams.contains s → q = q')
    (exchange key : String) (payload : Bytes) :
    (b.publish exchange key payload).1 = (b'.publish exchange key payload).1 ∧
      (b.publish exchange key payload).2.Same (b'.publish exchange key payload).2 := by
  unfold Broker.publish
  by_cases hc : b.closed = true
  · rw [if_pos hc, if_pos (hs.closed ▸ hc)]
    exact ⟨rfl, hs⟩
  · rw [if_neg hc, if_neg (hs.closed ▸ hc)]
    refine ⟨rfl, { hs with streams := ?_, published := congrArg (· + 1) hs.published }⟩
    refine Table.same_iff.mpr fun s => ?_
    rw [streams_distribute, streams_distribute, ← hs.streams.get? s]
    cases hst : b.streams.get? s with
    | none => rfl
    | some st =>
      have hthere : b.streams.contains s = true := b.streams.contains_iff.mpr ⟨st, hst⟩
      have hentries : ∀ e ∈ b.queues.entries, ∀ e' ∈ b.queues.entries,
          e.2.2 = s → e'.2.2 = s → e.1 = e'.1 := by
        rintro ⟨q, x, r⟩ he ⟨q', x', r'⟩ he' rfl hr
        cases hr
        exact hone q q' x x' r (b.queues.mem_entries_iff.mp he) (b.queues.mem_entries_iff.mp he') hthere
      rw [arrivals_same hs.queues hentries]

namespace Gateway

/-- No stream is read for two queues, and no identity has two relays. -/
structure Wired (g : Gateway) : Prop where
  queues : ∀ q q' x x' s, g.broker.queues.get? q = some (x, s) → g.broker.queues.get? q' = some (x', s) →
    g.broker.streams.contains s → q = q'
  relays : ∀ s t r r', g.relays.get? s = some r → g.relays.get? t = some r' → r.identity = r'.identity →
    s = t

variable {g g' : Gateway}

theorem Consistent.wired (hg : g.Consistent) : g.Wired where
  queues q q' x x' s hq hq' hs := by
    obtain ⟨st, hst⟩ := g.broker.streams.contains_iff.mp hs
    exact ((hg.broker.read q x s hq).2 st hst).1.symm.trans ((hg.broker.read q' x' s hq').2 st hst).1
  relays s t r r' := hg.relay_unique

theorem Wired.relaysApart (hw : g.Wired) (hseparate : g.Separate) : g.RelaysApart :=
  fun s t r r' h h' hr hr' hh hh' hslot => hw.relays s t r r' hr hr' (hseparate _ _ h h' hh hh' hslot)

theorem Same.publish (hs : g.Same g') (hw : g.Wired) (exchange key : String) (payload : Bytes) :
    (g.publish exchange key payload).1 = (g'.publish exchange key payload).1 ∧
      (g.publish exchange key payload).2.Same (g'.publish exchange key payload).2 := by
  obtain ⟨hanswer, hbroker⟩ := hs.broker.publish hw.queues exchange key payload
  exact ⟨hanswer, { hs with broker := hbroker }⟩

/-! ## All three -/

/-- In a gateway in which no outbox is that of two registrations, and in any other that is the same but for the
order of its tables, a sweep reports the same and leaves the same behind; so do a publish and, once they have
come to rest, the relays, whatever their turns; and so does a shutdown. What a publish needs for this, that no
two queues share a stream and no two relays an identity, is so in every gateway that a run leads to. -/
theorem order_unobservable (hs : g.Same g') (hseparate : g.Separate) :
    (∀ config, (g.sweep config).1 = (g'.sweep config).1 ∧ (g.sweep config).2.Same (g'.sweep config).2) ∧
    (g.Wired → ∀ exchange key payload,
      (g.publish exchange key payload).1 = (g'.publish exchange key payload).1 ∧
      (∃ k, (g.publish exchange key payload).2.Relayed k) ∧
      ∀ k k', (g.publish exchange key payload).2.Relayed k → (g'.publish exchange key payload).2.Relayed k' →
        k.Same k') ∧
    (∃ k, g.ShutsDown k) ∧ (∀ k k', g.ShutsDown k → g'.ShutsDown k' → k.Same k') ∧
    ∀ (exchange : String) (refusing : Bool) (as : List Action),
      run { exchange, broker := { refusing } } as = some g → g.Wired := by
  refine ⟨hs.sweep, fun hw exchange key payload => ?_, ⟨_, shutsDown_iff.mpr rfl⟩, fun k k' => hs.shutsDown,
    fun exchange refusing as hrun => ((consistent_fresh exchange refusing).run hrun).wired⟩
  obtain ⟨hanswer, hsame⟩ := hs.publish hw exchange key payload
  have hapart : (g.publish exchange key payload).2.RelaysApart := hw.relaysApart hseparate
  exact ⟨hanswer, exists_relayed _, fun k k' hk hk' => hapart.relayed_same hsame hk hk'⟩

/-- The gateway with the tables turned round that sweeps, publishes and shutdowns go through. -/
def mirrored (g : Gateway) : Gateway :=
  { g with
    registry := g.registry.mirrored
    consumers := g.consumers.mirrored
    broker := { g.broker with queues := g.broker.queues.mirrored } }

theorem same_mirrored (g : Gateway) : g.Same g.mirrored :=
  { Same.refl g with
    registry := g.registry.same_mirrored
    consumers := g.consumers.same_mirrored
    broker := { Broker.Same.refl g.broker with queues := g.broker.queues.same_mirrored } }

/-- Two devices of a user and one of another user, of which one has answered its probe. Gone through the other
way round, the gateway ends as many connections, hands the payload to the same device and acknowledges it for
both of the user's, and a shutdown leaves no queue behind. -/
theorem order_unobservable_devices :
    let as : List Action := [.connect 1 4, .connect 2 1, .connect 3 4,
      .bind ⟨⟨"ada", by decide⟩, ⟨"phone", by decide⟩⟩ ⟨1, 0⟩, .advance 0, .advance 0, .advance 0,
      .bind ⟨⟨"ada", by decide⟩, ⟨"watch", by decide⟩⟩ ⟨2, 1⟩, .advance 1, .advance 1, .advance 1,
      .bind ⟨⟨"bob", by decide⟩, ⟨"phone", by decide⟩⟩ ⟨3, 2⟩, .advance 2, .advance 2, .advance 2,
      .sweep (.of 20 1), .answer ⟨1, 0⟩]
    let published (g : Gateway) : Gateway := (g.publish defaultExchange "location.ada.*" [2]).2
    ∃ g k k' l', ({} : Gateway).run as = some g ∧ g.Same g.mirrored ∧ g.Separate ∧ g.Wired ∧
      g.registry.keys ≠ g.mirrored.registry.keys ∧
      (g.sweep (.of 20 1)).1 = ⟨1, 2⟩ ∧ (g.mirrored.sweep (.of 20 1)).1 = ⟨1, 2⟩ ∧
      (published g).run [.relay 0, .relay 1] = some k ∧ (published g.mirrored).Relayed k' ∧ k.Same k' ∧
      (k'.connections.get? 0).map (fun c => c.outbox.queued) = some [.probe, .payload [2]] ∧
      k'.broker.ackedFor "location.ada.watch" = 1 ∧
      g.mirrored.ShutsDown l' ∧ ∀ q, l'.broker.queues.get? q = none := by
  intro as published
  obtain ⟨g, hrun⟩ := Option.isSome_iff_exists.mp (show (({} : Gateway).run as).isSome = true by rfl)
  have hslots : ((binds as).map fun e => e.2.slot) = [0, 1, 2] := rfl
  have hseparate : g.Separate := separate_of_run hrun (hslots ▸ by decide)
  obtain ⟨hsweep, hpublish, -, hshutdown, hwired⟩ := order_unobservable g.same_mirrored hseparate
  have hw := hwired _ _ as hrun
  have hkeys : g.registry.keys ≠ g.mirrored.registry.keys :=
    of_decide_eq_true (run_shows hrun (fun g => decide (g.registry.keys ≠ g.mirrored.registry.keys)) rfl)
  have hreport : (g.sweep (.of 20 1)).1 = ⟨1, 2⟩ := run_shows hrun (fun g => (g.sweep (.of 20 1)).1) rfl
  -- One of the ways in which the relays can take their turns, and what it leaves.
  let relayed (g : Gateway) : Option Gateway := (published g).run [.relay 0, .relay 1]
  obtain ⟨k, hk⟩ := Option.isSome_iff_exists.mp (run_shows hrun (fun g => (relayed g).isSome) rfl)
  have hsees : ∀ {α : Type} (f : Gateway → α) {a : α}, (relayed g).map f = some a → f k = a := by
    intro α f a h
    rw [show relayed g = some k from hk] at h
    exact Option.some.inj h
  have hready : k.relays.keys.all (fun s => !k.relayReady s) = true :=
    hsees _ (run_shows hrun (fun g => (relayed g).map fun k => k.relays.keys.all fun s => !k.relayReady s) rfl)
  have hqueued : (k.connections.get? 0).map (fun c => c.outbox.queued) = some [.probe, .payload [2]] :=
    hsees _ (run_shows hrun (fun g => (relayed g).map fun k =>
      (k.connections.get? 0).map fun c => c.outbox.queued) rfl)
  have hacked : k.broker.ackedFor "location.ada.watch" = 1 :=
    hsees _ (run_shows hrun (fun g => (relayed g).map fun k => k.broker.ackedFor "location.ada.watch") rfl)
  have hrest : ∀ s, k.relayReady s = false :=
    unready_of_keys fun s hs => by simpa using List.all_eq_true.mp hready s hs
  obtain ⟨k', hk'⟩ := exists_relayed (published g.mirrored)
  have hsame := (hpublish hw defaultExchange "location.ada.*" [2]).2.2 k k' ⟨⟨[0, 1], hk⟩, hrest⟩ hk'
  obtain ⟨l, hl⟩ : ∃ l, g.ShutsDown l := ⟨_, shutsDown_iff.mpr rfl⟩
  obtain ⟨l', hl'⟩ : ∃ l', g.mirrored.ShutsDown l' := ⟨_, shutsDown_iff.mpr rfl⟩
  have hqueues : l.broker.queues.entries = [] := by
    rw [shutsDown_iff.mp hl]
    exact run_shows hrun (fun g => ((g.startShutdown.2.concluded .starting).finish g.nextTicket
      .shutDown).broker.queues.entries) rfl
  refine ⟨g, k, k', l', hrun, g.same_mirrored, hseparate, hw, hkeys, hreport, ?_, hk, hk', hsame, ?_, ?_, hl',
    ?_⟩
  · rw [← (hsweep _).1, hreport]
  · rw [← hsame.connections.get? 0, hqueued]
  · rw [Broker.ackedFor, ← hsame.broker.acked.get?, ← Broker.ackedFor, hacked]
  · intro q
    rw [← (hshutdown l l' hl hl').broker.queues.get? q, Table.get?, hqueues]
    rfl

end Gateway
end LocationRelay
