import LocationRelay.Proofs.Promises

/-! # Promises are kept

A call that gets its lock changes the view by the effect of its request, and every further step of it leaves
the view as it is.
-/
namespace LocationRelay.Gateway

variable {bound : Nat → Prop} {v : View} {g g' : Gateway} {t : Ticket}

/-! ## Binds under way -/

section Bind

variable {p : Principal} {h : Handle} {stage : BindStage}

/-- A bind goes on and leaves the connections alone. -/
theorem Promises.setBind (hp : g.Promises bound v) (hg : g.Consistent)
    (ht : g.calls.get? t = some (.bind p h stage)) (hstage : stage ≠ .waiting) {g₁ : Gateway}
    {stage' : BindStage} (hwithin : g.Within p.identity g₁) (hcalls : g₁.calls = g.calls)
    (hconns : g₁.connections = g.connections) (hstage' : stage' ≠ .waiting)
    (hfault : stage'.fault? (v.refusal p.identity.text) = stage.fault? (v.refusal p.identity.text))
    (hsteady : stage'.Steady g₁.broker (p.binding g.exchange)) :
    (g₁.setCall t (.bind p h stage')).Promises bound v ∧
      (g₁.setCall t (.bind p h stage')).Owes v t (v.promise (.bind p h stage)).1 := by
  have hget : ∀ u, (g₁.setCall t (.bind p h stage')).calls.get? u =
      if u = t then some (.bind p h stage') else g.calls.get? u := by
    intro u
    rw [calls_setCall, hcalls]
  have hpromise : v.promise (.bind p h stage') = v.promise (.bind p h stage) := by
    simp only [View.promise, hfault]
  have hstop : (g₁.setCall t (.bind p h stage')).stopAt = g.stopAt := by
    unfold stopAt
    rw [setCall, hconns]
  refine ⟨hp.move ht hget (hwithin.trans (.setCall _ _ _)) (hg.alone ht (Call.section_bind hstage))
    (fun j hj => ?_) rfl rfl (fun _ _ => rfl) (fun j hj => ?_) (fun _ => ?_) (fun hno => ?_) ?_ ?_
    (fun _ hh => hh) (fun _ _ hh => hh), _, (hget t).trans (if_pos rfl),
    Call.isWaiting_bind hstage', congrArg Prod.fst hpromise⟩
  · exact (Option.some.inj (Call.wanted_of_section hj)).symm
  · exact (Option.some.inj (Call.wanted_of_section hj)).symm
  · rw [hpromise]
    exact hp.busy t _ _ ht (Call.section_bind hstage)
  · exact absurd (Call.section_bind hstage') hno
  · rintro q k st ⟨⟩
    rw [setCall, hwithin.exchange]
    exact hsteady
  · rw [hstop]
    refine hp.stops.move ht hget fun slot => ?_
    simp only [View.Dooms, hfault, hstage, hstage', ne_eq, not_false_eq_true, true_and]

/-- A bind that fails makes the request that was owed to its connection. -/
theorem Owing.fail (ho : g.Owing v g.stopAt v.stop) (ht : g.calls.get? t = some (.bind p h stage))
    (hdooms : v.Dooms h.slot (.bind p h stage)) {o : Outcome}
    (hget : ∀ u, g'.calls.get? u = if u = t then some (.done o) else g.calls.get? u) :
    g'.Owing v (g.view.close h.slot .setupFailed).stop v.stop where
  kept slot hno := by
    simp only [View.close, view]
    split
    · next he => exact he ▸ ho.owed h.slot t _ ht hdooms
    · next he =>
      refine ho.kept slot fun u e hu hd => ?_
      by_cases hut : u = t
      · subst hut
        cases ht.symm.trans hu
        exact he hd.2.2.symm
      · exact hno u e (((hget u).trans (if_neg hut)).trans hu) hd
  owed slot u e hu hd := by
    rw [hget] at hu
    split at hu
    · cases hu
      cases hd
    · have howed := ho.owed slot u e hu hd
      simp only [View.close, view]
      split <;> simpa using howed

/-- A bind is over and leaves its identity as it has promised. -/
theorem Promises.endBind (hp : g.Promises bound v) (hg : g.Consistent)
    (ht : g.calls.get? t = some (.bind p h stage)) (hstage : stage ≠ .waiting) {g₁ : Gateway}
    (hwithin : g.Within p.identity g₁) (hcalls : g₁.calls = g.calls)
    (hentry : g₁.entry p.identity = (v.promise (.bind p h stage)).2)
    (hstops : (g₁.finish t (v.promise (.bind p h stage)).1).Owing v g₁.stopAt v.stop) :
    (g₁.finish t (v.promise (.bind p h stage)).1).Promises bound v ∧
      (g₁.finish t (v.promise (.bind p h stage)).1).Owes v t (v.promise (.bind p h stage)).1 := by
  have hsec : (Call.bind p h stage).section? = some p.identity := Call.section_bind hstage
  have hget : ∀ u, (g₁.finish t (v.promise (.bind p h stage)).1).calls.get? u =
      if u = t then some (.done (v.promise (.bind p h stage)).1) else g.calls.get? u := by
    intro u
    rw [calls_finish, hcalls]
  refine ⟨hp.move ht hget (hwithin.trans (.finish _ _ _)) (hg.alone ht hsec)
    (fun j hj => (Option.some.inj (Call.wanted_of_section hj)).symm) rfl rfl (fun _ _ => rfl)
    (fun j hj => ?_) (fun hno => ?_) (fun _ => ?_) (fun _ _ _ hd => ?_) hstops (fun _ hh => ?_)
    (fun _ _ hh => hh), _, (hget t).trans (if_pos rfl), rfl, rfl⟩
  · cases hj
  · cases hno
  · exact (hp.busy t _ _ ht hsec).trans hentry.symm
  · cases hd
  · cases hh

theorem Promises.failBind (hp : g.Promises bound v) (hg : g.Consistent) {e : BrokerError}
    (ht : g.calls.get? t = some (.bind p h (.opening (.declared (.error e))))) :
    (g.abandonBind t p h .setupFailed e).Promises bound v ∧
      (g.abandonBind t p h .setupFailed e).Owes v t (.bound (.error e)) := by
  obtain ⟨hreg, hcons, hq⟩ := (hg.each p.identity).busy t _ ht rfl
  have hclose := ConnectionsOnly.close (g.unregistered p.identity) h .setupFailed
  have hcalls : ((g.unregistered p.identity).close h .setupFailed).calls = g.calls := by
    rw [hclose.rest]
    rfl
  have hempty : ((g.unregistered p.identity).close h .setupFailed).entry p.identity = {} := by
    unfold entry
    rw [hclose.rest]
    simp only [unregistered, Table.get?_erase, if_true, hcons, Option.map_none]
    rw [show g.broker.queues.get? p.identity.text = none from hq, Option.map_none]
  have hstop : ((g.unregistered p.identity).close h .setupFailed).stopAt =
      (g.view.close h.slot .setupFailed).stop :=
    stopAt_close (g := g.unregistered p.identity) (hg.handled.asked t _ h ht rfl) .setupFailed
  rw [abandonBind_eq hreg]
  refine hp.endBind hg ht (by rintro ⟨⟩) ((Within.unregistered g _).trans (hclose.within _)) hcalls
    hempty ?_
  have hget : ∀ u, (((g.unregistered p.identity).close h .setupFailed).finish t
      (.bound (.error e))).calls.get? u =
        if u = t then some (.done (.bound (.error e))) else g.calls.get? u := by
    intro u
    rw [calls_finish, hcalls]
  rw [hstop]
  exact hp.stops.fail ht ⟨by rintro ⟨⟩, by rintro ⟨⟩, rfl⟩ hget

theorem Promises.succeedBind (hp : g.Promises bound v) (hg : g.Consistent) {s : StreamId}
    (ht : g.calls.get? t = some (.bind p h (.opening (.declared (.ok s))))) :
    ((g.attach p.identity (p.binding g.exchange) s).finish t (.bound (.ok p.identity))).Promises
      bound v ∧
    ((g.attach p.identity (p.binding g.exchange) s).finish t (.bound (.ok p.identity))).Owes
      v t (.bound (.ok p.identity)) := by
  obtain ⟨hreg, hcons, -⟩ := (hg.each p.identity).busy t _ ht rfl
  have hqueue : g.broker.queues.get? p.identity.text = some (p.binding g.exchange, s) :=
    hp.steady t p h _ ht
  have hentry : (g.attach p.identity (p.binding g.exchange) s).entry p.identity =
      p.entry v.exchange h := by
    simp only [entry, attach, hreg, Table.get?_insert, if_true, hqueue, Option.map_some,
      Principal.entry, hp.exchange]
  refine hp.endBind hg ht (by rintro ⟨⟩) (Within.attach g _ _ s) rfl hentry ?_
  refine hp.stops.move ht (calls_finish (g.attach _ _ s) t _) fun slot =>
    ⟨fun hd => hd.elim, fun hd => ?_⟩
  exact absurd rfl hd.2.1

theorem Promises.bindStep (hp : g.Promises bound v) (hg : g.Consistent)
    (ht : g.calls.get? t = some (.bind p h stage)) (hstage : stage ≠ .waiting)
    (hs : BindStep g t p h stage g') :
    g'.Promises bound v ∧ g'.Owes v t (v.promise (.bind p h stage)).1 := by
  have hfits := (hg.each p.identity).busy t _ ht (Call.section_bind hstage)
  cases hs with
  | refused _ _ => exact absurd rfl hstage
  | evicts _ _ _ _ => exact absurd rfl hstage
  | clears _ _ _ _ => exact absurd rfl hstage
  | enters _ _ _ => exact absurd rfl hstage
  | evicted x =>
    exact hp.setBind hg ht hstage (.deleteQueue g hfits.2.2) rfl rfl (by rintro ⟨⟩) rfl trivial
  | looks _ => exact hp.setBind hg ht hstage (.refl _ g) rfl rfl (by rintro ⟨⟩) rfl trivial
  | finds hc =>
    rw [hfits.2.1] at hc
    cases hc
  | cleared x =>
    exact hp.setBind hg ht hstage (.deleteQueue g hfits.2.2) rfl rfl (by rintro ⟨⟩) rfl trivial
  | declares =>
    obtain ⟨hfault, hsteady⟩ := BindStage.declared_spec hfits.2.2
    refine hp.setBind hg ht hstage (.declare g rfl) rfl rfl (by rintro ⟨⟩) ?_ hsteady
    rw [hp.refusal]
    exact hfault
  | fails e => exact hp.failBind hg ht
  | succeeds s _ => exact hp.succeedBind hg ht
  | retracts s hdown => exact absurd (hp.up.symm.trans hdown) Bool.false_ne_true
  | retracted x => exact (hp.steady t p h _ ht).elim
  | gaveUp => exact (hp.steady t p h _ ht).elim

end Bind

/-! ## Unbinds -/

section Unbind

variable {i : Identity} {connId : Nat} {stage : UnbindStage}

theorem Promises.moveUnbind {w : View} {d : Call} (hp : g.Promises bound v)
    (ht : g.calls.get? t = some (.unbind i connId stage))
    (hget : ∀ u, g'.calls.get? u = if u = t then some d else g.calls.get? u)
    (hwithin : g.Within i g') (halone : g.Alone t i) (hconns : g'.connections = g.connections)
    (hd : (∃ stage', d = .unbind i connId stage') ∨ ∃ o, d = .done o)
    (hw : w = v ∨ w = v.put i {}) (hbusy : d.section? = some i → w.entry i = (w.promise d).2)
    (hidle : d.section? ≠ some i → w.entry i = g'.entry i) : g'.Promises bound w := by
  have hrefusal : w.refusal = v.refusal := by rcases hw with rfl | rfl <;> rfl
  have hstop : w.stop = v.stop := by rcases hw with rfl | rfl <;> rfl
  refine hp.move ht hget hwithin halone
    (fun j hj => (Option.some.inj (Call.wanted_of_section hj)).symm) ?_ hrefusal (fun j hj => ?_)
    (fun j hj => ?_) hbusy hidle ?_ ?_ (fun h hh => ?_) fun _ h hh => ?_
  · rcases hw with rfl | rfl <;> rfl
  · rcases hw with rfl | rfl
    · rfl
    · exact if_neg hj
  · rcases hd with ⟨stage', rfl⟩ | ⟨o, rfl⟩
    · exact (Option.some.inj (Call.wanted_of_section hj)).symm
    · cases hj
  · rintro p h st rfl
    rcases hd with ⟨stage', hd⟩ | ⟨o, hd⟩ <;> cases hd
  · have hstopAt : g'.stopAt = g.stopAt := by
      unfold stopAt
      rw [hconns]
    rw [hstop, hstopAt]
    refine Owing.congr (hp.stops.move ht hget fun slot => ⟨fun hd' => ?_, fun hd' => hd'.elim⟩)
      hrefusal
    rcases hd with ⟨stage', rfl⟩ | ⟨o, rfl⟩ <;> exact hd'.elim
  · rcases hd with ⟨stage', rfl⟩ | ⟨o, rfl⟩ <;> cases hh
  · rcases hw with rfl | rfl
    · exact hh
    · rw [View.entry_put, if_pos rfl] at hh
      cases hh

theorem Promises.unbindStep (hp : g.Promises bound v) (hg : g.Consistent)
    (ht : g.calls.get? t = some (.unbind i connId stage)) (hstage : stage ≠ .waiting)
    (hs : UnbindStep g t i connId stage g') : g'.Promises bound v ∧ g'.Owes v t (.unbound true) := by
  have hwithin := hg.unbindStep_within ht hs
  have hsec : (Call.unbind i connId stage).section? = some i := Call.section_unbind hstage
  have hpromise : v.entry i = {} := hp.busy t _ _ ht hsec
  obtain ⟨hreg, hcons, hfits⟩ := (hg.each i).busy t _ ht hsec
  cases hs with
  | stale _ _ => exact absurd rfl hstage
  | releases _ _ _ => exact absurd rfl hstage
  | forgets _ _ _ => exact absurd rfl hstage
  | deletes x =>
    have hget := calls_setCall (g.deleteQueue x.queue) t (.unbind i connId .deleted)
    have hdeleted := hp.moveUnbind ht hget hwithin (hg.alone ht hsec) rfl (.inl ⟨_, rfl⟩) (.inl rfl)
      (fun _ => hpromise) fun hno => absurd rfl hno
    exact ⟨hdeleted, _, (hget t).trans (if_pos rfl), rfl, rfl⟩
  | ends =>
    have hget := calls_finish g t (.unbound true)
    have hempty : (g.finish t (.unbound true)).entry i = {} := by
      simp only [entry, finish, hreg, hcons, Option.map_none]
      rw [show g.broker.queues.get? i.text = none from hfits, Option.map_none]
    have hended := hp.moveUnbind ht hget hwithin (hg.alone ht hsec) rfl (.inr ⟨_, rfl⟩) (.inl rfl)
      (fun hbusy => by cases hbusy) fun _ => hpromise.trans hempty.symm
    exact ⟨hended, _, (hget t).trans (if_pos rfl), rfl, rfl⟩

theorem Promises.entersUnbind (hp : g.Promises bound v) (hg : g.Consistent)
    (ht : g.calls.get? t = some (.unbind i connId .waiting))
    (hs : UnbindStep g t i connId .waiting g') :
    g'.Promises bound (v.effect (.unbind i connId)).2 ∧
      g'.Owes (v.effect (.unbind i connId)).2 t (v.effect (.unbind i connId)).1 := by
  have hwithin := hg.unbindStep_within ht hs
  have hfree : g.locks.holds t = true → ∀ u c, g.calls.get? u = some c → c.section? ≠ some i :=
    fun hlock => hg.free ht rfl rfl hlock
  have halone : g.locks.holds t = true → g.Alone t i :=
    fun hlock u c hu hc => absurd hc (hfree hlock u c hu)
  have hentry : g.locks.holds t = true → v.entry i = g.entry i := fun hlock => hp.idle i (hfree hlock)
  rw [View.effect_unbind]
  cases hs with
  | stale hlock hcur =>
    have hno : (v.entry i).handle.map Handle.connId ≠ some connId := by
      rw [hentry hlock]
      exact fun he => Bool.false_ne_true (hcur.symm.trans (isCurrent_iff.mpr he))
    have hget := calls_finish g t (.unbound false)
    rw [if_neg hno]
    have hstale := hp.moveUnbind ht hget hwithin (halone hlock) rfl (.inr ⟨_, rfl⟩) (.inl rfl)
      (fun hbusy => by cases hbusy) fun _ => hentry hlock
    exact ⟨hstale, _, (hget t).trans (if_pos rfl), rfl, rfl⟩
  | @releases c hlock hcur _ =>
    have hyes : (v.entry i).handle.map Handle.connId = some connId := by
      rw [hentry hlock]
      exact isCurrent_iff.mp hcur
    have hget := calls_setCall ((g.unregistered i).detached i c) t (.unbind i connId (.deleting c.binding))
    rw [if_pos hyes]
    have hreleased := hp.moveUnbind ht hget hwithin (halone hlock) rfl (.inl ⟨_, rfl⟩) (.inr rfl)
      (fun _ => if_pos rfl) fun hno => absurd rfl hno
    exact ⟨hreleased, _, (hget t).trans (if_pos rfl), rfl, rfl⟩
  | forgets hlock hcur hcons =>
    have hyes : (v.entry i).handle.map Handle.connId = some connId := by
      rw [hentry hlock]
      exact isCurrent_iff.mp hcur
    have hget := calls_finish (g.unregistered i) t (.unbound true)
    have hempty : ((g.unregistered i).finish t (.unbound true)).entry i = {} := by
      simp only [entry, finish, unregistered, Table.get?_erase, if_true, hcons,
        hg.unqueued hp.up (hfree hlock) hcons, Option.map_none]
    rw [if_pos hyes]
    have hforgot := hp.moveUnbind ht hget hwithin (halone hlock) rfl (.inr ⟨_, rfl⟩) (.inr rfl)
      (fun hbusy => by cases hbusy) fun _ => (if_pos rfl).trans hempty.symm
    exact ⟨hforgot, _, (hget t).trans (if_pos rfl), rfl, rfl⟩

end Unbind

/-! ## Binds that get their locks -/

section Entering

variable {p : Principal} {h : Handle} {i : Identity}

/-- Whoever is superseded is not about to be told that its bind has failed. -/
theorem Promises.supersede (hp : g.Promises bound v) (hidle : v.entry i = g.entry i) :
    g.Owing v (g.view.supersede i).stop (v.supersede i).stop := by
  cases hi : g.registry.get? i with
  | none =>
    rw [View.supersede_of_none (hidle ▸ hi : (v.entry i).handle = none),
      View.supersede_of_none (hi : (g.view.entry i).handle = none)]
    exact hp.stops
  | some k =>
    have hk : (v.entry i).handle = some k := hidle ▸ hi
    have hclear : ∀ t c, g.calls.get? t = some c → ¬ v.Dooms k.slot c := by
      intro t c ht hd
      by_cases hq : v.refusal i.text = none
      · exact hp.no_doom hq k.slot t c ht hd
      · have hrefused : ∀ q, v.refusal q ≠ none := by
          intro q hnone
          rw [hp.refusal] at hq hnone
          exact hq (refusal_uniform hnone)
        cases c with
        | bind q b stage => exact hp.apart hrefused i k hk (hd.2.2 ▸ hp.handles t _ b ht rfl)
        | _ => exact hd
    rw [View.supersede_of_some hk, View.supersede_of_some (hi : (g.view.entry i).handle = some k)]
    refine ⟨fun slot hno => ?_, fun slot u e hu hd => ?_⟩
    · simp only [View.close, hp.stops.kept slot hno, view]
    · have hne : slot ≠ k.slot := by
        rintro rfl
        exact hclear u e hu hd
      simp only [View.close, if_neg hne]
      exact hp.stops.owed slot u e hu hd

/-- From now on the bind owes it to its connection to ask that it close. -/
theorem Owing.doom {made : Nat → Option Stop} {w : View} (ho : g.Owing v made w.stop)
    (ht : g.calls.get? t = some (.bind p h .waiting)) {stage : BindStage}
    (hget : ∀ u, g'.calls.get? u = if u = t then some (.bind p h stage) else g.calls.get? u)
    (hd : v.Dooms h.slot (.bind p h stage)) :
    g'.Owing v made (w.close h.slot .setupFailed).stop where
  kept slot hno := by
    have hne : slot ≠ h.slot := by
      rintro rfl
      exact hno t _ ((hget t).trans (if_pos rfl)) hd
    simp only [View.close, if_neg hne]
    refine ho.kept slot fun u e hu he => ?_
    by_cases hut : u = t
    · subst hut
      cases ht.symm.trans hu
      exact he.1 rfl
    · exact hno u e (((hget u).trans (if_neg hut)).trans hu) he
  owed slot u e hu he := by
    simp only [View.close]
    by_cases hslot : slot = h.slot
    · rw [if_pos hslot]
      by_cases hany : ∀ t c, g.calls.get? t = some c → ¬ v.Dooms slot c
      · rw [ho.kept slot hany]
      · push Not at hany
        obtain ⟨u', c, hu', hc⟩ := hany
        rw [ho.owed slot u' c hu' hc, Option.getD_some]
    · rw [if_neg hslot]
      rw [hget] at hu
      split at hu
      · cases hu
        exact absurd he.2.2.symm hslot
      · exact ho.owed slot u e hu he

theorem Promises.enterBind (hp : g.Promises bound v) (hg : g.Consistent)
    (ht : g.calls.get? t = some (.bind p h .waiting)) (hlock : g.locks.holds t = true) {g₁ : Gateway}
    {stage : BindStage} (hwithin : g.Within p.identity g₁) (hcalls : g₁.calls = g.calls)
    (hconns : g₁.connections = (g.registered p.identity h).connections) (hstage : stage ≠ .waiting)
    (hfault : ∀ refused, stage.fault? refused = refused) (hsteady : ∀ b own, stage.Steady b own) :
    (g₁.setCall t (.bind p h stage)).Promises bound (v.effect (.bind p h)).2 ∧
      (g₁.setCall t (.bind p h stage)).Owes (v.effect (.bind p h)).2 t
        (v.effect (.bind p h)).1 := by
  have hfree := hg.free ht rfl rfl hlock
  have hidle := hp.idle p.identity hfree
  have hget : ∀ u, (g₁.setCall t (.bind p h stage)).calls.get? u =
      if u = t then some (.bind p h stage) else g.calls.get? u := by
    intro u
    rw [calls_setCall, hcalls]
  have hpromise : (v.effect (.bind p h)).2.promise (.bind p h stage) =
      ((v.effect (.bind p h)).1, (v.effect (.bind p h)).2.entry p.identity) := by
    rw [View.promise_congr (View.exchange_effect v _) (View.refusal_effect v _)]
    exact View.promise_eq_effect hfault v h
  have hstop : (g₁.setCall t (.bind p h stage)).stopAt = (g.view.supersede p.identity).stop := by
    rw [← stopAt_registered hg.handled p.identity h]
    unfold stopAt
    rw [setCall, hconns]
  refine ⟨hp.move ht hget (hwithin.trans (.setCall _ _ _))
    (fun u c hu hc => absurd hc (hfree u c hu)) (fun j hj => by cases hj)
    (View.exchange_effect v _) (View.refusal_effect v _) (fun j hj => View.entry_effect hj v)
    (fun j hj => ?_) (fun _ => ?_) (fun hno => absurd (Call.section_bind hstage) hno) ?_ ?_
    (fun _ hh => hh) (fun hrefused k hk => ?_), _, (hget t).trans (if_pos rfl),
    Call.isWaiting_bind hstage, congrArg Prod.fst hpromise⟩
  · exact (Option.some.inj (Call.wanted_of_section hj)).symm
  · rw [hpromise]
  · rintro q k st ⟨⟩
    exact hsteady _ _
  · rw [hstop]
    refine Owing.congr ?_ (View.refusal_effect v _)
    have hsuperseded := hp.supersede hidle
    cases hr : v.refusal p.identity.text with
    | some e =>
      rw [View.effect_of_refused hr]
      refine Owing.doom (w := (v.supersede p.identity).put p.identity {}) hsuperseded ht hget
        ⟨hstage, ?_, rfl⟩
      rw [hfault, hr]
      rintro ⟨⟩
    | none =>
      rw [View.effect_of_accepted hr]
      refine hsuperseded.move ht hget fun slot => ⟨fun hd => ?_, fun hd => absurd rfl hd.1⟩
      exact absurd ((hfault _).trans hr) hd.2.1
  · rw [View.refusal_effect] at hrefused
    exact View.handle_effect hrefused hk

theorem Promises.entersBind (hp : g.Promises bound v) (hg : g.Consistent)
    (ht : g.calls.get? t = some (.bind p h .waiting)) (hs : BindStep g t p h .waiting g') :
    g'.Promises bound (v.effect (.bind p h)).2 ∧
      g'.Owes (v.effect (.bind p h)).2 t (v.effect (.bind p h)).1 := by
  have hregistered := Within.registered g p.identity h
  have hcalls := (SameCalls.registered g p.identity h).calls
  cases hs with
  | refused _ hdown => exact absurd (hp.up.symm.trans hdown) Bool.false_ne_true
  | evicts hlock _ _ _ =>
    exact hp.enterBind hg ht hlock (hregistered.trans (.detached _ _ _)) hcalls rfl (by rintro ⟨⟩)
      (fun _ => rfl) fun _ _ => trivial
  | clears hlock _ _ _ =>
    exact hp.enterBind hg ht hlock (hregistered.trans (.detached _ _ _)) hcalls rfl (by rintro ⟨⟩)
      (fun _ => rfl) fun _ _ => trivial
  | enters hlock _ _ =>
    exact hp.enterBind hg ht hlock hregistered hcalls rfl (by rintro ⟨⟩) (fun _ => rfl)
      fun _ _ => trivial

end Entering

end LocationRelay.Gateway
