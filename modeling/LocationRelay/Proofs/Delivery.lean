import LocationRelay.Proofs.Departure
import LocationRelay.Proofs.Feeding

/-! # What is delivered to whom

Whatever the order of binds, publishes and relays, the payloads that are put into the outbox of a connection
are among those published for its principal, in their order and each of them once. They are put there while
the connection is registered, and no more once it has been superseded or given back.
-/
namespace LocationRelay.Gateway

open Text (Bytes)

variable {exchange : String} {refusing : Bool} {p : Principal} {h : Handle}

/-- No other bind is given the outbox of the handle. -/
def BoundOnce (as : List Action) (p : Principal) (h : Handle) : Prop :=
  ∀ e ∈ binds as, e.2.slot = h.slot → e = (p, h)

theorem boundOnce_of_nodup {as : List Action} (hbind : .bind p h ∈ as)
    (hnodup : ((binds as).map fun e => e.2.slot).Nodup) : BoundOnce as p h := by
  have hmem : (p, h) ∈ binds as := List.mem_filterMap.mpr ⟨_, hbind, rfl⟩
  exact fun e he hslot => List.inj_on_of_nodup_map hnodup he hmem hslot

theorem BoundOnce.of_append {as bs : List Action} (honce : BoundOnce (as ++ bs) p h) :
    BoundOnce as p h := by
  intro e he
  refine honce e ?_
  rw [binds_append]
  exact List.mem_append_left _ he

/-- Of a handle that is bound once, the registration is that of its principal. -/
theorem BoundOnce.registered {as : List Action} {g : Gateway} (honce : BoundOnce as p h)
    (hrun : run { exchange, broker := { refusing } } as = some g) {i : Identity} {k : Handle}
    (hi : g.registry.get? i = some k) (hk : k.slot = h.slot) : i = p.identity ∧ k = h := by
  obtain ⟨t, q, hlog, hq, -⟩ := (ledger_of_run hrun).registered i k hi
  cases honce _ (mem_binds_of_asked hrun hlog) hk
  exact ⟨hq.symm, rfl⟩

theorem owned_of_run {as : List Action} {g : Gateway}
    (hrun : run { exchange, broker := { refusing } } as = some g) : g.broker.Owned exchange := by
  refine run_induction (P := fun _ g => g.broker.Owned exchange) (fun q e he => by cases he)
    (fun as g a g' has ih ha => ?_) hrun
  have hg := (consistent_fresh exchange refusing).run has
  have hexchange := ((consistent_fresh exchange refusing).grows has).exchange
  exact (happening_of_act ha hg.locking.isPublic).owned hexchange ih

/-- A delivery goes into the outbox of the connection that is registered. -/
theorem BoundOnce.appended_spec {as : List Action} {g g' : Gateway} (honce : BoundOnce as p h)
    (hrun : run { exchange, broker := { refusing } } as = some g) {a : Action}
    (ha : g.act? a = some g') (hgot : appended h.slot g a ≠ []) :
    ∃ s r d b, a = .relay s ∧ g.relays.get? s = some r ∧ r.identity = p.identity ∧
      g.registry.get? p.identity = some h ∧ g.broker.next s = (.delivery d, b) ∧
      appended h.slot g a = [d.payload] := by
  have hg := (consistent_fresh exchange refusing).run hrun
  by_cases hrelay : ∃ s, a = .relay s
  · obtain ⟨s, rfl⟩ := hrelay
    obtain ⟨r, hr, hs⟩ := relayStep_of_step ha
    rcases appended_relay ha hr h.slot with hnil | ⟨d, b, k, hnext, hk, hslot, happ⟩
    · exact absurd hnil hgot
    · obtain ⟨hi, rfl⟩ := honce.registered hrun hk hslot
      exact ⟨s, r, d, b, rfl, hr, hi, hi ▸ hk, hnext, happ⟩
  · exact absurd (appended_other ha hg.locking.isPublic (fun s he => hrelay ⟨s, he⟩) h.slot) hgot

theorem feeding_of_run {as : List Action} {g : Gateway}
    (hrun : run { exchange, broker := { refusing } } as = some g) : BoundOnce as p h →
    g.Feeding p h (noted (appended h.slot) { exchange, broker := { refusing } } as)
      ((p.binding exchange).received
        (noted published { exchange, broker := { refusing } } as)) := by
  refine run_induction (P := fun as g => BoundOnce as p h →
    g.Feeding p h (noted (appended h.slot) { exchange, broker := { refusing } } as)
      ((p.binding exchange).received (noted published { exchange, broker := { refusing } } as)))
    (fun _ => ⟨List.nil_sublist _, fun s hs => ?_⟩) (fun as g a g' has ih ha honce => ?_) hrun
  · cases hs with
    | opening ht => cases ht
    | serving hreg _ => cases hreg
  · have hf := ih honce.of_append
    have hg := (consistent_fresh exchange refusing).run has
    rw [noted_snoc _ has, noted_snoc _ has, Binding.received_append]
    by_cases hpublish : ∃ e : Post, a = .publish e.exchange e.key e.payload
    · obtain ⟨e, rfl⟩ := hpublish
      rw [appended_other ha hg.locking.isPublic (fun _ => by rintro ⟨⟩) h.slot, List.append_nil]
      cases ha
      exact hf.publish hg (owned_of_run has) e
    · have hno : ∀ x k y, a ≠ .publish x k y := fun x k y he => hpublish ⟨⟨x, k, y⟩, he⟩
      have hsent : published g a = [] := by
        cases a <;> first | rfl | exact absurd rfl (hno _ _ _)
      rw [hsent, show (p.binding exchange).received [] = [] from rfl, List.append_nil]
      by_cases hgot : appended h.slot g a = []
      · rw [hgot, List.append_nil]
        exact hf.drain (drains_of_act ha hg.locking.isPublic hno) fun s hs => hg.feeds_back ha hs
      · obtain ⟨s, r, d, b, rfl, hr, hi, hreg, hnext, happ⟩ := honce.of_append.appended_spec has ha hgot
        rw [happ]
        exact hf.deliver hg ha hr hi hreg hnext

/-! ## Connections that are not registered any more -/

theorem ticket_unique {as : List Action} {g : Gateway}
    (hrun : run { exchange, broker := { refusing } } as = some g)
    (hnodup : ((binds as).map fun e => e.2.slot).Nodup) {t : Ticket}
    (hlog : (t, p, h) ∈ noted asked { exchange, broker := { refusing } } as)
    (e : Ticket × Principal × Handle)
    (he : e ∈ noted asked { exchange, broker := { refusing } } as) (hh : e.2.2 = h) : e.1 = t := by
  rw [← noted_asked hrun, List.map_map] at hnodup
  have heq := List.inj_on_of_nodup_map hnodup he hlog (congrArg Handle.slot hh)
  exact congrArg Prod.fst heq

theorem Gone.run {before after : List Action} {g₁ g₂ : Gateway}
    (hbefore : Gateway.run { exchange, broker := { refusing } } before = some g₁)
    (hafter : g₁.run after = some g₂) {t : Ticket}
    (hlog : (t, p, h) ∈ noted asked { exchange, broker := { refusing } } before)
    (hgone : g₁.Gone t p.identity h) : ((binds (before ++ after)).map fun e => e.2.slot).Nodup →
      g₂.Gone t p.identity h ∧ noted (appended h.slot) g₁ after = [] := by
  refine run_induction (P := fun after g₂ => ((binds (before ++ after)).map fun e => e.2.slot).Nodup →
    g₂.Gone t p.identity h ∧ noted (appended h.slot) g₁ after = []) (fun _ => ⟨hgone, rfl⟩)
    (fun cs g a g' hcs ih ha hnodup => ?_) hafter
  rw [← List.append_assoc] at hnodup
  replace hnodup := nodup_binds_of_append hnodup
  obtain ⟨hgone, hnone⟩ := ih hnodup
  have hwhole := run_append_eq_some.mpr ⟨g₁, hbefore, hcs⟩
  have hg := (consistent_fresh exchange refusing).run hwhole
  have hlog : (t, p, h) ∈ noted asked { exchange, broker := { refusing } } (before ++ cs) := by
    rw [noted_append asked hbefore]
    exact List.mem_append_left _ hlog
  have hbind := mem_binds_of_asked hwhole hlog
  have honce : BoundOnce (before ++ cs) p h :=
    fun e he hslot => List.inj_on_of_nodup_map hnodup he hbind hslot
  have hstep := happening_of_act ha hg.locking.isPublic
  refine ⟨hgone.happening hg (ledger_of_run hwhole) (ticket_unique hwhole hnodup hlog) hstep, ?_⟩
  rw [noted_snoc _ hcs, hnone, List.nil_append]
  by_contra hgot
  obtain ⟨-, -, -, -, -, -, -, hreg, -⟩ := honce.appended_spec hwhole ha hgot
  exact hgone.unregistered hreg

/-- Once an unbind has found the connection registered, it is gone. -/
theorem gone_of_unbound {before mid : List Action} {g₁ g₂ : Gateway}
    (hbefore : Gateway.run { exchange, broker := { refusing } } before = some g₁)
    (hmid : g₁.run (.unbind p.identity h.connId :: mid) = some g₂)
    (hnodup : ((binds (before ++ .unbind p.identity h.connId :: mid)).map fun e => e.2.slot).Nodup)
    (hids : ∀ e ∈ binds (before ++ .unbind p.identity h.connId :: mid), e.2.connId = h.connId →
      e = (p, h))
    (hout : g₂.outcome? g₁.nextTicket = some (.unbound true)) :
    ∃ t, (t, p, h) ∈ noted asked { exchange, broker := { refusing } }
      (before ++ .unbind p.identity h.connId :: mid) ∧ g₂.Gone t p.identity h := by
  obtain ⟨g₀, hstart, hmid⟩ := run_cons_eq_some.mp hmid
  have hbegun : Gateway.run { exchange, broker := { refusing } }
      (before ++ [.unbind p.identity h.connId]) = some g₀ :=
    run_append_eq_some.mpr ⟨g₁, hbefore, run_cons_eq_some.mpr ⟨g₀, hstart, rfl⟩⟩
  rw [List.append_cons] at hnodup hids ⊢
  have hwaits : g₀.calls.get? g₁.nextTicket = some (.unbind p.identity h.connId .waiting) := by
    cases hstart
    simp only [startUnbind, start, setCall, askLock, Table.get?_insert, if_true]
  generalize before ++ [Action.unbind p.identity h.connId] = begun at *
  have hleaving : g₂.Leaving g₁.nextTicket p h
      (noted asked { exchange, broker := { refusing } } (begun ++ mid)) := by
    refine run_induction (P := fun cs g => ((binds (begun ++ cs)).map fun e => e.2.slot).Nodup →
      (∀ e ∈ binds (begun ++ cs), e.2.connId = h.connId → e = (p, h)) →
      g.Leaving g₁.nextTicket p h (noted asked { exchange, broker := { refusing } } (begun ++ cs)))
      (fun _ _ => .inl hwaits) (fun cs g a g' hcs ih ha hnodup hids => ?_) hmid hnodup hids
    rw [← List.append_assoc, binds_append] at hnodup hids
    rw [List.map_append] at hnodup
    have hnodup := (List.nodup_append.mp hnodup).1
    have hids : ∀ e ∈ binds (begun ++ cs), e.2.connId = h.connId → e = (p, h) :=
      fun e he => hids e (List.mem_append_left _ he)
    have hwhole := run_append_eq_some.mpr ⟨g₀, hbegun, hcs⟩
    have hg := (consistent_fresh exchange refusing).run hwhole
    have hstep := happening_of_act ha hg.locking.isPublic
    have hleaving := (ih hnodup hids).happening hg (ledger_of_run hwhole)
      (fun e he => hids e.2 (mem_binds_of_asked hwhole he))
      (fun _ hlog => ticket_unique hwhole hnodup hlog) hstep
    rw [← List.append_assoc, noted_snoc asked hwhole]
    exact hleaving.mono (List.subset_append_left _ _)
  have hdone := done_of_outcome hout
  rcases hleaving with hwait | hstale | hgone
  · cases hdone.symm.trans hwait
  · cases hdone.symm.trans hstale
  · exact hgone

/-! ## Delivery -/

/-- Any run in which every outbox is bound once, and one connection that is bound in it. -/
theorem delivery_safety {as : List Action} {g : Gateway}
    (hrun : run { exchange, broker := { refusing } } as = some g) (hbind : .bind p h ∈ as)
    (hnodup : ((binds as).map fun e => e.2.slot).Nodup) :
    (∃ ps : List Post, ps.Sublist (noted published { exchange, broker := { refusing } } as) ∧
      noted (appended h.slot) { exchange, broker := { refusing } } as = ps.map Post.payload ∧
      ∀ e ∈ ps, e.exchange = exchange ∧
        (∃ w : String, '.' ∉ w.toList ∧ e.key = topicRoot ++ "." ++ p.username.text ++ "." ++ w) ∧
        ∀ q : Principal, Topic.accepts q.bindingPattern e.key = true → q.username = p.username) ∧
    (∀ before a after g₁, as = before ++ a :: after →
      run { exchange, broker := { refusing } } before = some g₁ → appended h.slot g₁ a ≠ [] →
      g₁.registry.get? p.identity = some h) ∧
    (∀ before mid after g₁ g₂, as = before ++ mid ++ after →
      run { exchange, broker := { refusing } } before = some g₁ → g₁.run mid = some g₂ →
      g₁.registry.get? p.identity = some h → g₂.registry.get? p.identity ≠ some h →
      noted (appended h.slot) g₂ after = []) ∧
    (((binds as).map fun e => e.2.connId).Nodup → ∀ before mid after g₁ g₂,
      as = before ++ .unbind p.identity h.connId :: mid ++ after →
      run { exchange, broker := { refusing } } before = some g₁ →
      g₁.run (.unbind p.identity h.connId :: mid) = some g₂ →
      g₂.outcome? g₁.nextTicket = some (.unbound true) →
      noted (appended h.slot) g₂ after = []) := by
  have hfrom : Consistent { exchange, broker := { refusing } } := consistent_fresh exchange refusing
  have honce := boundOnce_of_nodup hbind hnodup
  refine ⟨?_, ?_, ?_, ?_⟩
  · obtain ⟨ps, hsub, hmap⟩ := List.sublist_map_iff.mp (feeding_of_run hrun honce).fed
    refine ⟨ps, hsub.trans List.filter_sublist, hmap, fun e he => ?_⟩
    have hreached := (List.mem_filter.mp (hsub.subset he)).2
    simp only [Binding.reached, Principal.binding, Bool.and_eq_true, beq_iff_eq] at hreached
    exact ⟨hreached.1.symm, (p.accepts_iff e.key).mp hreached.2,
      fun q hq => Principal.username_of_accepts hreached.2 hq⟩
  · intro before a after g₁ has hbefore hgot
    subst has
    obtain ⟨g₁', hbefore', hrest⟩ := run_append_eq_some.mp hrun
    cases hbefore.symm.trans hbefore'
    obtain ⟨g₂, ha, -⟩ := run_cons_eq_some.mp hrest
    obtain ⟨-, -, -, -, -, -, -, hreg, -⟩ := honce.of_append.appended_spec hbefore ha hgot
    exact hreg
  · intro before mid after g₁ g₂ has hbefore hmid hreg hlost
    subst has
    obtain ⟨g₂', hupto, hafter⟩ := run_append_eq_some.mp hrun
    cases (run_append_eq_some.mpr ⟨g₁, hbefore, hmid⟩).symm.trans hupto
    obtain ⟨t, q, hlog, hq, hkeeps⟩ := (ledger_of_run hbefore).registered _ h hreg
    cases Principal.identity_injective hq
    have hgone : g₂.Gone t p.identity h := ⟨hkeeps.entered.run (hfrom.run hbefore) hmid, hlost⟩
    refine (hgone.run hupto hafter ?_ hnodup).2
    rw [noted_append asked hbefore]
    exact List.mem_append_left _ hlog
  · intro hids before mid after g₁ g₂ has hbefore hmid hout
    subst has
    obtain ⟨g₂', hupto, hafter⟩ := run_append_eq_some.mp hrun
    cases (run_append_eq_some.mpr ⟨g₁, hbefore, hmid⟩).symm.trans hupto
    have hall : (p, h) ∈ binds (before ++ .unbind p.identity h.connId :: mid ++ after) :=
      List.mem_filterMap.mpr ⟨_, hbind, rfl⟩
    have hpart := hnodup
    rw [binds_append, List.map_append] at hpart
    obtain ⟨t, hlog, hgone⟩ := gone_of_unbound hbefore hmid (List.nodup_append.mp hpart).1
      (fun e he hid => by
        have he : e ∈ binds (before ++ .unbind p.identity h.connId :: mid ++ after) := by
          rw [binds_append]
          exact List.mem_append_left _ he
        exact List.inj_on_of_nodup_map hids he hall hid) hout
    exact (hgone.run hupto hafter hlog hnodup).2

/-- The first connection gets what was published for the user while it was registered, and nothing any more
once the second one has taken its place. -/
theorem delivery_safety_superseded : ∃ g₁ g₂ g, ({} : Gateway).run
    [.connect 1 4, .connect 2 4, .bind ⟨⟨"ada", by decide⟩, ⟨"phone", by decide⟩⟩ ⟨1, 0⟩, .advance 0,
      .advance 0, .advance 0, .publish defaultExchange "location.ada.watch" [1],
      .publish defaultExchange "location.bob.phone" [2], .relay 0] = some g₁ ∧
    g₁.registry.get? ⟨"location.ada.phone"⟩ = some ⟨1, 0⟩ ∧
    g₁.run [.bind ⟨⟨"ada", by decide⟩, ⟨"phone", by decide⟩⟩ ⟨2, 1⟩, .advance 1] = some g₂ ∧
    g₂.registry.get? ⟨"location.ada.phone"⟩ ≠ some ⟨1, 0⟩ ∧
    g₂.run [.advance 1, .advance 1, .advance 1, .advance 1,
      .publish defaultExchange "location.ada.phone" [3], .relay 1] = some g ∧
    noted (appended 0) {} [.connect 1 4, .connect 2 4,
      .bind ⟨⟨"ada", by decide⟩, ⟨"phone", by decide⟩⟩ ⟨1, 0⟩, .advance 0, .advance 0, .advance 0,
      .publish defaultExchange "location.ada.watch" [1],
      .publish defaultExchange "location.bob.phone" [2], .relay 0] = [[1]] ∧
    noted (appended 0) g₂ [.advance 1, .advance 1, .advance 1, .advance 1,
      .publish defaultExchange "location.ada.phone" [3], .relay 1] = [] := by
  obtain ⟨g₁, h₁⟩ := Option.isSome_iff_exists.mp (show (({} : Gateway).run
    [.connect 1 4, .connect 2 4, .bind ⟨⟨"ada", by decide⟩, ⟨"phone", by decide⟩⟩ ⟨1, 0⟩, .advance 0,
      .advance 0, .advance 0, .publish defaultExchange "location.ada.watch" [1],
      .publish defaultExchange "location.bob.phone" [2], .relay 0]).isSome = true by rfl)
  have hmid : ((g₁.run [.bind ⟨⟨"ada", by decide⟩, ⟨"phone", by decide⟩⟩ ⟨2, 1⟩, .advance 1]).bind
      fun g₂ => g₂.run [.advance 1, .advance 1, .advance 1, .advance 1,
        .publish defaultExchange "location.ada.phone" [3], .relay 1]).isSome = true :=
    run_shows h₁ (fun g₁ => ((g₁.run [.bind ⟨⟨"ada", by decide⟩, ⟨"phone", by decide⟩⟩ ⟨2, 1⟩,
      .advance 1]).bind fun g₂ => g₂.run [.advance 1, .advance 1, .advance 1, .advance 1,
        .publish defaultExchange "location.ada.phone" [3], .relay 1]).isSome) rfl
  obtain ⟨g, hg⟩ := Option.isSome_iff_exists.mp hmid
  obtain ⟨g₂, h₂, h₃⟩ := Option.bind_eq_some_iff.mp hg
  have hold : g₁.registry.get? ⟨"location.ada.phone"⟩ = some ⟨1, 0⟩ :=
    run_shows h₁ (fun g => g.registry.get? ⟨"location.ada.phone"⟩) rfl
  have hnew : g₂.registry.get? ⟨"location.ada.phone"⟩ = some ⟨2, 1⟩ :=
    run_shows (run_append_eq_some.mpr ⟨g₁, h₁, h₂⟩)
      (fun g => g.registry.get? ⟨"location.ada.phone"⟩) rfl
  have hlost : g₂.registry.get? ⟨"location.ada.phone"⟩ ≠ some ⟨1, 0⟩ := by
    rw [hnew]
    decide
  have hwhole := run_append_eq_some.mpr ⟨g₂, run_append_eq_some.mpr ⟨g₁, h₁, h₂⟩, h₃⟩
  obtain ⟨-, -, hsuperseded, -⟩ := delivery_safety
    (p := ⟨⟨"ada", by decide⟩, ⟨"phone", by decide⟩⟩) (h := ⟨1, 0⟩) hwhole (by simp) (by decide)
  exact ⟨g₁, g₂, g, h₁, hold, h₂, hlost, h₃, rfl,
    hsuperseded _ _ _ g₁ g₂ rfl h₁ h₂ hold hlost⟩

end LocationRelay.Gateway
