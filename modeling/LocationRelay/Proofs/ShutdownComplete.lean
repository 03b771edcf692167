import LocationRelay.Proofs.Departure

/-! # What a shutdown leaves behind

Once a shutdown and all the calls that raced it have returned, there are no consumers and no queues, the
broker is closed, and whoever is still registered has been told to close. This remains so whatever is
called afterwards. Binds that come too late change nothing, and binds that failed are not registered.
-/
namespace LocationRelay.Gateway

/-- Nothing is left of the gateway but connections that are to close. -/
structure Down (g : Gateway) : Prop where
  shuttingDown : g.shuttingDown = true
  consumers : ∀ i, g.consumers.get? i = none
  closed : g.broker.closed = true

def Begun (g : Gateway) : Prop :=
  g.shuttingDown = true ∨ ∃ t, g.calls.get? t = some (.shutdown .starting)

theorem Begun.happening {g g' : Gateway} (hb : g.Begun) (hg : g.Consistent) (h : g.Happening g') :
    g'.Begun := by
  rcases hb with hdown | ⟨t, ht⟩
  · exact .inl ((Grows.happening hg.locking hg.handled h).shuttingDown hdown)
  · rcases h.stays hg.locking ht with ht' | hs
    · exact .inr ⟨t, ht'⟩
    · cases hs with
      | shutdown hs => exact .inl (hs.raises hg.phased ht)

theorem Consistent.begun {g g' : Gateway} {as : List Action} (hg : g.Consistent)
    (hrun : g.run as = some g') (hshutdown : .shutdown ∈ as) : g'.Begun := by
  obtain ⟨before, after, rfl⟩ := List.append_of_mem hshutdown
  obtain ⟨g₁, hbefore, hrest⟩ := run_append_eq_some.mp hrun
  obtain ⟨g₂, hstart, hafter⟩ := run_cons_eq_some.mp hrest
  have hg₁ := hg.run hbefore
  have hg₂ := hg₁.act hstart
  have hbegun : g₂.Begun := by
    cases hstart
    exact .inr ⟨g₁.nextTicket, (calls_start _ _ _).trans (if_pos rfl)⟩
  exact hg₂.preserves (P := Begun) (fun hg hb hstep => hb.happening hg hstep) hafter hbegun

theorem Consistent.down {g : Gateway} (hg : g.Consistent) (hbegun : g.Begun) (hdone : g.Settled) :
    g.Down := by
  have hnone : ∀ t stage, g.calls.get? t ≠ some (.shutdown stage) := by
    intro t stage ht
    obtain ⟨o, ho⟩ := hdone t _ ht
    cases ho
  have hdown : g.shuttingDown = true := hbegun.resolve_right fun ⟨t, ht⟩ => hnone t _ ht
  refine ⟨hdown, fun i => ?_, ?_⟩
  · refine Option.eq_none_iff_forall_ne_some.mpr fun c hc => ?_
    obtain ⟨t, stage, hat, -⟩ := hg.phased.pending hdown i c hc
    exact hnone t stage hat.1
  · exact (hg.phased.closing hdown).resolve_right fun ⟨t, stage, hat⟩ => hnone t stage hat.1

theorem Down.run {g g' : Gateway} {as : List Action} (hd : g.Down) (hg : g.Consistent)
    (hrun : g.run as = some g') : g'.Down := by
  refine hg.preserves (P := Down) (fun _ hd hstep => ?_) hrun hd
  have hw := hstep.winds hd.shuttingDown
  refine ⟨hw.shuttingDown.trans hd.shuttingDown, fun i => ?_, hw.closed hd.closed⟩
  refine Option.eq_none_iff_forall_ne_some.mpr fun c hc => ?_
  have hbefore := hw.consumers i c hc
  rw [hd.consumers i] at hbefore
  cases hbefore

/-- A bind that gets its lock during a shutdown is refused on the spot. -/
theorem Consistent.refuses {g g' : Gateway} (hg : g.Consistent) {t : Ticket} {p : Principal}
    {h : Handle} (ht : g.calls.get? t = some (.bind p h .waiting)) (hdown : g.shuttingDown = true)
    (ha : g.act? (.advance t) = some g') : g'.registry = g.registry ∧ g'.consumers = g.consumers ∧
      g'.broker = g.broker ∧ g'.calls.get? t = some (.done (.bound (.error .closed))) ∧
      g'.Stopped h := by
  obtain ⟨c, hc, hs⟩ := callStep_of_step ha (hg.locking.isPublic t)
  cases ht.symm.trans hc
  have hspec := (ConnectionsOnly.close g h .shutdown).rest
  have hstopped : (g.close h .shutdown).Stopped h :=
    stopped_close .shutdown (hg.handled.asked t _ h ht rfl)
  cases hs with
  | bind hs =>
    cases hs with
    | refused _ _ =>
      refine ⟨?_, ?_, ?_, ?_, hstopped⟩
      · rw [finish, hspec]
      · rw [finish, hspec]
      · rw [finish, hspec]
      · simp only [finish, Table.get?_insert, if_true]
    | evicts _ hup _ _ => exact absurd (hup.symm.trans hdown) Bool.false_ne_true
    | clears _ hup _ _ => exact absurd (hup.symm.trans hdown) Bool.false_ne_true
    | enters _ hup _ => exact absurd (hup.symm.trans hdown) Bool.false_ne_true

/-- A shutdown and whatever races it, once all of it has returned, and any later state. -/
theorem shutdown_leaves_nothing {exchange : String} {as bs : List Action} {g g' : Gateway}
    (hrun : ({ exchange } : Gateway).run as = some g) (hshutdown : .shutdown ∈ as)
    (hdone : g.Settled) (hlater : g.run bs = some g')
    (hfresh : ((binds (as ++ bs)).map fun e => e.2.connId).Nodup) :
    (∀ i, g'.consumers.get? i = none) ∧
    g'.broker.closed = true ∧ (∀ q, g'.broker.queues.get? q = none) ∧
    (∀ i h, g'.registry.get? i = some h → g'.Stopped h) ∧
    (∀ before t after g₁ p h, as ++ bs = before ++ .advance t :: after →
      ({ exchange } : Gateway).run before = some g₁ → g₁.shuttingDown = true →
      g₁.calls.get? t = some (.bind p h .waiting) →
      (∃ g₂, g₁.act? (.advance t) = some g₂ ∧ g₂.registry = g₁.registry ∧
        g₂.consumers = g₁.consumers ∧ g₂.broker = g₁.broker) ∧
      g'.outcome? t = some (.bound (.error .closed)) ∧ g'.Stopped h) ∧
    (∀ before p h after g₁ e, as ++ bs = before ++ .bind p h :: after →
      ({ exchange } : Gateway).run before = some g₁ →
      g'.outcome? g₁.nextTicket = some (.bound (.error e)) →
      ∀ i k, g'.registry.get? i = some k → k.connId ≠ h.connId) := by
  have hfrom : Consistent { exchange } := consistent_fresh exchange false
  have hwhole : ({ exchange } : Gateway).run (as ++ bs) = some g' :=
    run_append_eq_some.mpr ⟨g, hrun, hlater⟩
  have hg := hfrom.run hrun
  have hg' := hg.run hlater
  have hdown : g'.Down := (hg.down (hfrom.begun hrun hshutdown) hdone).run hg hlater
  refine ⟨hdown.consumers, hdown.closed, hg'.broker.closed hdown.closed,
    hg'.handled.flagged hdown.shuttingDown, ?_, ?_⟩
  · intro before t after g₁ p h hsplit hbefore hflag ht
    rw [hsplit] at hwhole
    obtain ⟨g₁', hb, hrest⟩ := run_append_eq_some.mp hwhole
    cases hbefore.symm.trans hb
    obtain ⟨g₂, ha, hafter⟩ := run_cons_eq_some.mp hrest
    have hg₁ := hfrom.run hbefore
    obtain ⟨hreg, hcons, hbroker, hout, hstopped⟩ := hg₁.refuses ht hflag ha
    have hgrows := (hg₁.act ha).grows hafter
    exact ⟨⟨g₂, ha, hreg, hcons, hbroker⟩, outcome_of_done (hgrows.done t _ hout),
      hgrows.stopped h hstopped⟩
  · intro before p h after g₁ e hsplit hbefore hout i k hk hid
    have hledger : g'.Ledger (noted asked { exchange } (as ++ bs)) := ledger_of_run hwhole
    obtain ⟨u, q, hu, hq, hkeeps⟩ := hledger.registered i k hk
    have hasked : (g₁.nextTicket, p, h) ∈ noted asked { exchange } (as ++ bs) :=
      mem_noted hsplit hbefore (by simp [asked, Action.bound?])
    have hnodup : ((noted asked { exchange } (as ++ bs)).map fun e => e.2.2.connId).Nodup := by
      rw [← noted_asked hwhole, List.map_map] at hfresh
      exact hfresh
    cases List.inj_on_of_nodup_map hnodup hu hasked hid
    have hfailed := done_of_outcome hout
    rcases hkeeps with ⟨stage, hst, -⟩ | hok
    · cases hfailed.symm.trans hst
    · cases hfailed.symm.trans hok

/-- One bind is overtaken by the shutdown while its queue is opened, another one waits for its turn until
the broker is closed, and an unbind comes last. -/
theorem shutdown_leaves_nothing_raced : ∃ g g', ({} : Gateway).run
    [.connect 1 4, .connect 2 4, .bind ⟨⟨"ada", by decide⟩, ⟨"phone", by decide⟩⟩ ⟨1, 0⟩, .advance 0,
      .advance 0, .shutdown, .advance 1, .bind ⟨⟨"ada", by decide⟩, ⟨"watch", by decide⟩⟩ ⟨2, 1⟩,
      .advance 0, .advance 1, .advance 0, .advance 0, .advance 2] = some g ∧ g.Settled ∧
    g.run [.unbind ⟨"location.ada.phone"⟩ 1] = some g' ∧ (∀ i, g'.consumers.get? i = none) ∧
    g'.broker.closed = true ∧ ∀ q, g'.broker.queues.get? q = none := by
  obtain ⟨g, hrun⟩ := Option.isSome_iff_exists.mp (show (({} : Gateway).run
    [.connect 1 4, .connect 2 4, .bind ⟨⟨"ada", by decide⟩, ⟨"phone", by decide⟩⟩ ⟨1, 0⟩, .advance 0,
      .advance 0, .shutdown, .advance 1, .bind ⟨⟨"ada", by decide⟩, ⟨"watch", by decide⟩⟩ ⟨2, 1⟩,
      .advance 0, .advance 1, .advance 0, .advance 0, .advance 2]).isSome = true by rfl)
  have hcalls : g.calls.entries = [(2, .done (.bound (.error .closed))),
      (0, .done (.bound (.error .closed))), (1, .done .shutDown)] :=
    run_shows hrun (fun g => g.calls.entries) rfl
  have hdone : g.Settled := by
    refine settled_of_entries ?_
    rw [hcalls]
    simp
  have hlater : g.run [.unbind ⟨"location.ada.phone"⟩ 1] =
      some (g.startUnbind ⟨"location.ada.phone"⟩ 1).2 := rfl
  obtain ⟨hconsumers, hclosed, hqueues, -⟩ :=
    shutdown_leaves_nothing hrun (by simp) hdone hlater (by decide)
  exact ⟨g, _, hrun, hdone, hlater, hconsumers, hclosed, hqueues⟩

end LocationRelay.Gateway
