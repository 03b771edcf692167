import LocationRelay.Proofs.Consistency

/-! # The gateway at rest

When no shutdown is under way, all relays wait and nobody holds the lock of an identity, the parts of
the gateway agree about it: queues have consumers, consumers have registered connections, and registered
connections have a queue that is read for them or have been told to stop.
-/
namespace LocationRelay.Gateway

/-- No shutdown is part-way through, and every relay has come to wait. -/
structure Quiet (g : Gateway) : Prop where
  shutdowns : ∀ t stage, ¬ g.ShuttingDownAt t stage
  relays : ∀ s, g.relayReady s = false

def Unlocked (g : Gateway) (i : Identity) : Prop := ∀ t, ¬ g.locks.Granted t i

/-- The queue of the identity is there, and a relay that waits for it serves the connection. -/
structure Served (g : Gateway) (i : Identity) (h : Handle) (c : Consumer) : Prop where
  consumer : g.consumers.get? i = some c
  queue : g.broker.queues.get? i.text = some (c.binding, c.stream)
  stream : g.broker.streams.get? c.stream = some { queue := i.text }
  relay : g.relays.get? c.stream = some ⟨i, some h.connId⟩

theorem Consistent.nobody {g : Gateway} (hg : g.Consistent) {i : Identity} (hi : g.Unlocked i)
    (t : Ticket) (c : Call) (ht : g.calls.get? t = some c) : c.section? ≠ some i :=
  fun hc => hi t (hg.locking.held t c i ht hc)

theorem unready_of_keys {g : Gateway} (h : ∀ s ∈ g.relays.keys, g.relayReady s = false) (s : StreamId) :
    g.relayReady s = false := by
  by_cases hs : g.relays.contains s = true
  · exact h s ((Table.mem_keys_iff _).mpr ((Table.contains_iff _).mp hs))
  · simp [relayReady, hs]

theorem next_of_unready {g : Gateway} {s : StreamId} {r : Relay} (hr : g.relays.get? s = some r)
    (hready : g.relayReady s = false) : ∃ b, g.broker.next s = (.waiting, b) := by
  rw [relayReady, g.relays.contains_iff.mpr ⟨r, hr⟩, Bool.true_and] at hready
  cases hnext : g.broker.next s with
  | mk n b =>
    rw [hnext] at hready
    cases n with
    | waiting => exact ⟨b, rfl⟩
    | _ => cases hready

/-- A relay that has nothing to do reads an empty stream, whose queue is there. -/
theorem Consistent.queue_of_unready {g : Gateway} (hg : g.Consistent) {s : StreamId} {r : Relay}
    (hr : g.relays.get? s = some r) (hready : g.relayReady s = false) :
    g.broker.streams.get? s = some { queue := r.identity.text } ∧
      ∃ x, g.broker.queues.get? r.identity.text = some (x, s) := by
  obtain ⟨b, hnext⟩ := next_of_unready hr hready
  obtain ⟨⟨q, waiting, fed⟩, hst, hempty, hfed⟩ := Broker.next_waiting hnext
  obtain ⟨st, hst', hname⟩ :=
    Broker.queueOf?_eq_some.mp ((hg.each r.identity).relayed s r hr rfl).queue
  cases hst.symm.trans hst'
  cases hempty
  cases hfed
  cases hname
  exact ⟨hst, (hg.broker.fed s _ hst).2 rfl⟩

theorem Consistent.served {g : Gateway} (hg : g.Consistent) {i : Identity} {c : Consumer} {r : Relay}
    {h : Handle} (hrests : g.Rests i) (hquiet : g.Quiet) (hc : g.consumers.get? i = some c)
    (hr : g.relays.get? c.stream = some r) (hri : r.identity = i) (hh : g.registry.get? i = some h) :
    g.Served i h c := by
  subst hri
  obtain ⟨-, -, k, hk, howner⟩ := (hg.each r.identity).relayed _ r hr rfl
  obtain ⟨hst, x, hx⟩ := hg.queue_of_unready hr (hquiet.relays c.stream)
  refine ⟨hc, ?_, hst, ?_⟩
  · rcases hrests.queue _ hx with hc' | ⟨t, y, is, ht, -⟩
    · rw [Option.some.inj (hc.symm.trans hc')]
      exact hx
    · exact absurd ⟨ht, by rintro ⟨⟩⟩ (hquiet.shutdowns t (.deleting y is))
  · cases hh.symm.trans hk
    rw [hr, ← howner]

/-- After every run, at an identity whose lock is free in a quiet gateway. -/
theorem quiescent_consistency {exchange : String} {as : List Action} {g : Gateway} {i : Identity}
    (hrun : ({ exchange } : Gateway).run as = some g) (hquiet : g.Quiet) (hi : g.Unlocked i) :
    (∀ b s, g.broker.queues.get? i.text = some (b, s) → g.consumers.get? i = some ⟨b, s⟩ ∧
      ∃ p : Principal, p.identity = i ∧ b = ⟨i.text, g.exchange, p.bindingPattern⟩) ∧
    (∀ c, g.consumers.get? i = some c → ∃ h, g.registry.get? i = some h) ∧
    (∀ h, g.registry.get? i = some h → (∃ c, g.Served i h c) ∨ g.Stopped h) := by
  have hg : g.Consistent := (consistent_fresh exchange false).run hrun
  have hrests := (hg.each i).idle (hg.nobody hi)
  refine ⟨fun b s hq => ?_, fun c hc => ((hg.each i).consumed c hc).registered, fun h hh => ?_⟩
  · have hc : g.consumers.get? i = some ⟨b, s⟩ := by
      rcases hrests.queue _ hq with hc | ⟨t, x, is, ht, -⟩
      · exact hc
      · exact absurd ⟨ht, by rintro ⟨⟩⟩ (hquiet.shutdowns t (.deleting x is))
    exact ⟨hc, ((hg.each i).consumed _ hc).binding⟩
  · rcases hrests.registered h hh with hs | ⟨c, r, hc, hr, hri⟩
    · exact .inr hs
    · exact .inl ⟨c, hg.served hrests hquiet hc hr hri hh⟩

/-- A connection is bound, and a message for it is relayed. -/
theorem quiescent_consistency_bound : ∃ g, ({} : Gateway).run
    [.connect 1 4, .bind ⟨⟨"ada", by decide⟩, ⟨"phone", by decide⟩⟩ ⟨1, 0⟩, .advance 0, .advance 0,
      .advance 0, .publish defaultExchange "location.ada.phone" [7], .relay 0] = some g ∧
    g.Quiet ∧ g.Unlocked ⟨"location.ada.phone"⟩ ∧
    g.registry.get? ⟨"location.ada.phone"⟩ = some ⟨1, 0⟩ ∧
    ((∃ c, g.Served ⟨"location.ada.phone"⟩ ⟨1, 0⟩ c) ∨ g.Stopped ⟨1, 0⟩) := by
  obtain ⟨g, hrun⟩ := Option.isSome_iff_exists.mp (show (({} : Gateway).run
    [.connect 1 4, .bind ⟨⟨"ada", by decide⟩, ⟨"phone", by decide⟩⟩ ⟨1, 0⟩, .advance 0, .advance 0,
      .advance 0, .publish defaultExchange "location.ada.phone" [7], .relay 0]).isSome = true by rfl)
  have hcalls : g.calls.entries = [(0, .done (.bound (.ok ⟨"location.ada.phone"⟩)))] :=
    run_shows hrun (fun g => g.calls.entries) rfl
  have hrelays : g.relays.keys = [0] := run_shows hrun (fun g => g.relays.keys) rfl
  have hready : g.relayReady 0 = false := run_shows hrun (relayReady · 0) rfl
  have hlocks : g.locks.requests = [] := run_shows hrun (fun g => g.locks.requests) rfl
  have hbound : g.registry.get? ⟨"location.ada.phone"⟩ = some ⟨1, 0⟩ :=
    run_shows hrun (fun g => g.registry.get? ⟨"location.ada.phone"⟩) rfl
  have hquiet : g.Quiet := by
    refine ⟨fun t stage hat => ?_, unready_of_keys fun s hs => ?_⟩
    · have hmem := (Table.mem_entries_iff _).mpr hat.1
      rw [hcalls] at hmem
      rcases List.mem_singleton.mp hmem with ⟨⟩
    · rw [hrelays, List.mem_singleton] at hs
      exact hs ▸ hready
  have hfree : g.Unlocked ⟨"location.ada.phone"⟩ := by
    rintro t ⟨r, hr, -⟩
    rw [hlocks] at hr
    cases hr
  exact ⟨g, hrun, hquiet, hfree, hbound, (quiescent_consistency hrun hquiet hfree).2.2 _ hbound⟩

end LocationRelay.Gateway
