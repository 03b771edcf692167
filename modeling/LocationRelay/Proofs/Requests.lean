import LocationRelay.Proofs.Replay

/-! # Requests that are made and requests that take effect

Every request is made once and takes effect once. So when all calls are over, the requests that have taken
effect are those that were made, in another order.
-/
namespace LocationRelay.Gateway

def requested (g : Gateway) : Action → List (Ticket × Request)
  | .bind p h => [(g.nextTicket, .bind p h)]
  | .unbind i connId => [(g.nextTicket, .unbind i connId)]
  | _ => []

theorem requested_action (g : Gateway) (r : Request) : g.requested r.action = [(g.nextTicket, r)] := by
  cases r <;> rfl

theorem requested_bind {g : Gateway} {a : Action} {t : Ticket} {p : Principal} {h : Handle}
    (he : (t, .bind p h) ∈ g.requested a) : a = .bind p h := by
  cases a with
  | bind q k => cases List.mem_singleton.mp he; rfl
  | unbind i connId => cases List.mem_singleton.mp he
  | _ => cases he

/-- The requests made so far are those that have taken effect and those of the calls that wait. -/
structure Tally (g : Gateway) (made served : List (Ticket × Request)) : Prop where
  fresh : ∀ e ∈ made, e.1 < g.nextTicket
  made_once : made.Nodup
  served_once : served.Nodup
  begun : ∀ e ∈ served, e ∈ made ∧ g.Entered e.1
  pending : ∀ e ∈ made, e ∈ served ∨
    ∃ c, g.calls.get? e.1 = some c ∧ c.isWaiting = true ∧ c.request? = some e.2
  waiting : ∀ t c r, g.calls.get? t = some c → c.isWaiting = true → c.request? = some r →
    (t, r) ∈ made

variable {g g' : Gateway} {made served : List (Ticket × Request)}

theorem Tally.perm (h : g.Tally made served) (hs : g.Settled) : served.Perm made := by
  refine (List.perm_ext_iff_of_nodup h.served_once h.made_once).mpr fun e => ⟨fun he => ?_, fun he => ?_⟩
  · exact (h.begun e he).1
  · refine (h.pending e he).resolve_right ?_
    rintro ⟨c, hc, hw, -⟩
    obtain ⟨o, rfl⟩ := hs _ c hc
    cases hw

theorem Settled.tally (hs : g.Settled) : g.Tally [] [] := by
  refine ⟨fun _ he => ?_, .nil, .nil, fun _ he => ?_, fun _ he => ?_, fun t c r ht hw _ => ?_⟩
  · cases he
  · cases he
  · cases he
  · obtain ⟨o, rfl⟩ := hs t c ht
    cases hw

theorem Tally.ask {c : Call} {i : Identity} {r : Request} (h : g.Tally made served) (hl : g.Locking)
    (hc : g.Asking c i) (hr : c.request? = some r) :
    ((g.start c).2.askLock g.nextTicket i).Tally (made ++ [(g.nextTicket, r)]) served := by
  have hold : ∀ u d, g.calls.get? u = some d →
      ((g.start c).2.askLock g.nextTicket i).calls.get? u = some d :=
    fun u d hu => hl.start_keeps c hu
  refine ⟨fun e he => ?_, ?_, h.served_once, fun e he => ?_, fun e he => ?_,
    fun u d s hu hd hs => ?_⟩
  · rcases List.mem_append.mp he with he | he
    · exact Nat.lt_succ_of_lt (h.fresh e he)
    · rw [List.mem_singleton.mp he]
      exact Nat.lt_succ_self _
  · refine List.nodup_append.mpr ⟨h.made_once, List.nodup_singleton _, fun e he d hd => ?_⟩
    rintro rfl
    have hlt := h.fresh e he
    rw [List.mem_singleton.mp hd] at hlt
    exact Nat.lt_irrefl _ hlt
  · obtain ⟨hmade, d, hd, hbusy⟩ := h.begun e he
    exact ⟨List.mem_append_left _ hmade, d, hold _ d hd, hbusy⟩
  · rcases List.mem_append.mp he with he | he
    · exact (h.pending e he).imp_right fun ⟨d, hd, hrest⟩ => ⟨d, hold _ d hd, hrest⟩
    · rw [List.mem_singleton.mp he]
      exact .inr ⟨c, (calls_started g c i _).trans (if_pos rfl), hc.isWaiting, hr⟩
  · rw [calls_started] at hu
    split at hu
    · next hut =>
      cases hu
      cases hr.symm.trans hs
      exact hut ▸ List.mem_append_right _ List.mem_cons_self
    · exact List.mem_append_left _ (h.waiting u d s hu hd hs)

theorem Tally.advance {t : Ticket} {c : Call} (h : g.Tally made served) (hg : g.Consistent)
    (ht : g.calls.get? t = some c) (hs : CallStep g t c g') :
    g'.Tally made (served ++ entered g (.advance t)) := by
  obtain ⟨d, hd, hbusy, -⟩ := hs.moves.calls
  have hother : ∀ u, u ≠ t → g'.calls.get? u = g.calls.get? u :=
    fun u hu => (hd u).trans (if_neg hu)
  have hstep : g.Happening g' := .goesOn ht hs
  have hnext : g'.nextTicket = g.nextTicket := by
    cases hs.moves with
    | on hsame _ => exact hsame.nextTicket
    | out hsame _ => exact hsame.nextTicket
  have hfresh : ∀ e ∈ made, e.1 < g'.nextTicket := fun e he => hnext ▸ h.fresh e he
  have hserved : ∀ e ∈ served, e ∈ made ∧ g'.Entered e.1 := fun e he =>
    (h.begun e he).imp_right fun hentered => hentered.happening hg.locking hstep
  have hwaiting : ∀ u e r, g'.calls.get? u = some e → e.isWaiting = true → e.request? = some r →
      (u, r) ∈ made := by
    intro u e r hu hw hr
    rw [hd] at hu
    split at hu
    · cases hu
      exact absurd (hbusy.symm.trans hw) Bool.false_ne_true
    · exact h.waiting u e r hu hw hr
  cases hw : c.isWaiting with
  | false =>
    rw [entered_of_busy ht hw, List.append_nil]
    refine ⟨hfresh, h.made_once, h.served_once, hserved, fun e he => ?_, hwaiting⟩
    refine (h.pending e he).imp_right fun ⟨b, hb, hbw, hbr⟩ => ⟨b, ?_, hbw, hbr⟩
    have hne : e.1 ≠ t := by
      intro he
      rw [he] at hb
      cases ht.symm.trans hb
      exact Bool.false_ne_true (hw.symm.trans hbw)
    exact (hother _ hne).trans hb
  | true =>
    obtain ⟨r, hr⟩ := hs.request hw
    rw [entered_of_waiting ht hw hr]
    refine ⟨hfresh, h.made_once, List.nodup_append.mpr ⟨h.served_once, List.nodup_singleton _,
      fun e he b hb => ?_⟩, fun e he => ?_, fun e he => ?_, hwaiting⟩
    · rintro rfl
      obtain ⟨b, hb', hbw⟩ := (h.begun e he).2
      rw [List.mem_singleton.mp hb] at hb'
      cases ht.symm.trans hb'
      exact Bool.false_ne_true (hbw.symm.trans hw)
    · rcases List.mem_append.mp he with he | he
      · exact hserved e he
      · rw [List.mem_singleton.mp he]
        exact ⟨h.waiting t c r ht hw hr, d, (hd t).trans (if_pos rfl), hbusy⟩
    · rcases h.pending e he with he | ⟨b, hb, hbw, hbr⟩
      · exact .inl (List.mem_append_left _ he)
      · by_cases het : e.1 = t
        · rw [het] at hb
          cases ht.symm.trans hb
          cases hr.symm.trans hbr
          exact .inl (List.mem_append_right _ (List.mem_singleton.mpr (Prod.ext het rfl)))
        · exact .inr ⟨b, (hother _ het).trans hb, hbw, hbr⟩

theorem Tally.act {a : Action} (h : g.Tally made served) (hg : g.Consistent)
    (ha : g.act? a = some g') (hbinds : a.isBinding = true) :
    g'.Tally (made ++ requested g a) (served ++ entered g a) := by
  cases bindingStep_of_act ha hbinds hg with
  | asks hc hr =>
    rw [requested_action, entered_action, List.append_nil]
    exact h.ask hg.locking hc hr
  | @goesOn t c _ hc hs =>
    rw [show requested g (.advance t) = [] from rfl, List.append_nil]
    exact h.advance hg hc hs

theorem Tally.run {as : List Action} (h : g.Tally made served) (hg : g.Consistent)
    (hrun : g.run as = some g') (hbinds : ∀ a ∈ as, a.isBinding = true) :
    g'.Tally (made ++ noted requested g as) (served ++ noted entered g as) := by
  induction as generalizing g made served with
  | nil =>
    cases hrun
    simpa only [noted, List.append_nil] using h
  | cons a as ih =>
    obtain ⟨g₁, ha, has⟩ := run_cons_eq_some.mp hrun
    have hbinding := hbinds a List.mem_cons_self
    have hg₁ := hg.act ha
    have hrest := ih (h.act hg ha hbinding) hg₁ has
      fun b hb => hbinds b (List.mem_cons_of_mem _ hb)
    simpa only [noted, ha, Option.elim_some, List.append_assoc] using hrest

/-- What is asked for between two moments at which no call is under way is what takes effect between
them. -/
theorem Settled.perm {as : List Action} (hbefore : g.Settled) (hg : g.Consistent)
    (hrun : g.run as = some g') (hbinds : ∀ a ∈ as, a.isBinding = true) (hafter : g'.Settled) :
    (noted entered g as).Perm (noted requested g as) :=
  (hbefore.tally.run hg hrun hbinds).perm hafter

/-! ## Connections -/

theorem opened_of_run {as : List Action} {h : Handle} (hg : g.Consistent) (hs : g.Serving)
    (hrun : g.run as = some g') (hbinds : ∀ a ∈ as, a.isBinding = true) (ho : g'.Opened h) :
    g.Opened h := by
  induction as generalizing g with
  | nil =>
    cases hrun
    exact ho
  | cons a as ih =>
    obtain ⟨g₁, ha, has⟩ := run_cons_eq_some.mp hrun
    have hbinding := hbinds a List.mem_cons_self
    have hg₁ := hg.act ha
    have hs₁ := hs.act hg ha (by rintro rfl; cases hbinding)
    have ho₁ := ih hg₁ hs₁ has fun b hb => hbinds b (List.mem_cons_of_mem _ hb)
    cases bindingStep_of_act ha hbinding hg with
    | asks _ _ => exact ho₁
    | goesOn hc hstep =>
      cases hstep with
      | bind hstep => exact fun hn => ho₁ (((hg.bindStep_within hc hstep).opened h.slot).mpr hn)
      | unbind hstep => exact fun hn => ho₁ (((hg.unbindStep_within hc hstep).opened h.slot).mpr hn)
      | shutdown _ => exact absurd hc (hs.calls _ _)

/-- The connections that are bound in the course of binds and unbinds were there before them. -/
theorem opened_of_bind {as : List Action} {p : Principal} {h : Handle} (hg : g.Consistent)
    (hs : g.Serving) (hrun : g.run as = some g') (hbinds : ∀ a ∈ as, a.isBinding = true)
    (hmem : .bind p h ∈ as) : g.Opened h := by
  obtain ⟨before, after, rfl⟩ := List.append_of_mem hmem
  obtain ⟨g₁, hbefore, hafter⟩ := run_append_eq_some.mp hrun
  obtain ⟨g₂, ha, -⟩ := run_cons_eq_some.mp hafter
  refine opened_of_run hg hs hbefore (fun a ha => hbinds a (List.mem_append_left _ ha)) ?_
  exact Option.isSome_iff_ne_none.mp (Option.ite_none_right_eq_some.mp ha).1

end LocationRelay.Gateway
