import LocationRelay.Proofs.Fulfilment

/-! # Requests take effect in the order of their locks

In whatever way binds and unbinds were interleaved, they make of a gateway what their requests make of its
view one after the other, in the order in which they got their locks. Every call has or is going to have
the outcome that its request has there.
-/
namespace LocationRelay

def Call.request? : Call → Option Request
  | .bind p h _ => some (.bind p h)
  | .unbind i connId _ => some (.unbind i connId)
  | _ => none

namespace Gateway

def Action.isBinding : Action → Bool
  | .bind .. | .unbind .. | .advance _ => true
  | _ => false

/-- The request of a call that goes on with the lock it has waited for, with the ticket of the call. -/
def entered (g : Gateway) : Action → List (Ticket × Request)
  | .advance t =>
    (((g.calls.get? t).filter Call.isWaiting).bind Call.request?).toList.map fun r => (t, r)
  | _ => []

variable {bound : Nat → Prop} {v w : View} {g g' : Gateway} {t : Ticket} {c : Call} {r : Request}

theorem entered_of_waiting (ht : g.calls.get? t = some c) (hw : c.isWaiting = true)
    (hr : c.request? = some r) : g.entered (.advance t) = [(t, r)] := by
  simp [entered, ht, Option.filter, hw, hr]

theorem entered_of_busy (ht : g.calls.get? t = some c) (hw : c.isWaiting = false) :
    g.entered (.advance t) = [] := by
  simp [entered, ht, Option.filter, hw]

theorem entered_action (g : Gateway) (r : Request) : g.entered r.action = [] := by
  cases r <;> rfl

theorem calls_started (g : Gateway) (c : Call) (i : Identity) (u : Ticket) :
    ((g.start c).2.askLock g.nextTicket i).calls.get? u =
      if u = g.nextTicket then some c else g.calls.get? u :=
  calls_start g c u

theorem Asking.isWaiting {i : Identity} (hc : g.Asking c i) : c.isWaiting = true := by
  cases hc <;> rfl

/-- A call that waits does so for a request. -/
theorem CallStep.request (hs : CallStep g t c g') (hw : c.isWaiting = true) :
    ∃ r, c.request? = some r := by
  cases hs with
  | bind _ => exact ⟨_, rfl⟩
  | unbind _ => exact ⟨_, rfl⟩
  | shutdown _ => cases hw

inductive BindingStep (g : Gateway) : Action → Gateway → Prop
  | asks {c : Call} {i : Identity} {r : Request} (hc : g.Asking c i) (hr : c.request? = some r) :
      BindingStep g r.action ((g.start c).2.askLock g.nextTicket i)
  | goesOn {t : Ticket} {c : Call} {g' : Gateway} (ht : g.calls.get? t = some c)
      (hs : CallStep g t c g') : BindingStep g (.advance t) g'

theorem call_of_action (ha : g.act? r.action = some g') : ∃ c i, g.Asking c i ∧
    c.request? = some r ∧ g' = (g.start c).2.askLock g.nextTicket i := by
  cases r with
  | bind p h =>
    obtain ⟨ho, ha⟩ := Option.ite_none_right_eq_some.mp ha
    cases ha
    exact ⟨_, _, .bind (Option.isSome_iff_ne_none.mp ho), rfl, rfl⟩
  | unbind i connId =>
    cases ha
    exact ⟨_, _, .unbind i connId, rfl, rfl⟩

theorem bindingStep_of_act {a : Action} (ha : g.act? a = some g') (hbinds : a.isBinding = true)
    (hg : g.Consistent) : BindingStep g a g' := by
  have hmade : ∀ r : Request, g.act? r.action = some g' → BindingStep g r.action g' := by
    intro r ha
    obtain ⟨c, i, hc, hr, rfl⟩ := call_of_action ha
    exact .asks hc hr
  cases a with
  | bind p h => exact hmade (.bind p h) ha
  | unbind i connId => exact hmade (.unbind i connId) ha
  | advance t =>
    obtain ⟨c, hc, hs⟩ := callStep_of_step ha (hg.locking.isPublic t)
    exact .goesOn hc hs
  | _ => cases hbinds

/-! ## No shutdown -/

structure Serving (g : Gateway) : Prop where
  up : g.shuttingDown = false
  calls : ∀ t stage, g.calls.get? t ≠ some (.shutdown stage)

theorem Aside.shuttingDown (h : Aside g g') : g'.shuttingDown = g.shuttingDown := by
  cases h with
  | visits h => exact h.tame.shuttingDown
  | prunes h => exact h.tame.shuttingDown
  | connects connId capacity => rfl
  | relays _ hs => exact (Tame.relayStep hs).shuttingDown
  | brokers _ => rfl

theorem Serving.act (hs : g.Serving) (hg : g.Consistent) {a : Action} (ha : g.act? a = some g')
    (hne : a ≠ .shutdown) : g'.Serving := by
  have hstart : ∀ {c i}, (∀ stage, c ≠ .shutdown stage) →
      ((g.start c).2.askLock g.nextTicket i).Serving := by
    refine fun {c i} hc => ⟨hs.up, fun u stage hu => ?_⟩
    rw [calls_started] at hu
    split at hu
    · exact hc stage (Option.some.inj hu)
    · exact hs.calls u stage hu
  cases a with
  | bind p h =>
    obtain ⟨-, ha⟩ := Option.ite_none_right_eq_some.mp ha
    cases ha
    exact hstart (by rintro _ ⟨⟩)
  | unbind i connId =>
    cases ha
    exact hstart (by rintro _ ⟨⟩)
  | shutdown => exact absurd rfl hne
  | advance t =>
    obtain ⟨c, hc, hstep⟩ := callStep_of_step ha (hg.locking.isPublic t)
    obtain ⟨d, hd, -, hfollows⟩ := hstep.moves.calls
    refine ⟨?_, fun u stage hu => ?_⟩
    · cases hstep with
      | bind hstep => exact (hg.bindStep_within hc hstep).shuttingDown.trans hs.up
      | unbind hstep => exact (hg.unbindStep_within hc hstep).shuttingDown.trans hs.up
      | shutdown _ => exact absurd hc (hs.calls t _)
    · rw [hd] at hu
      split at hu
      · rcases hfollows with hf | ⟨o, rfl⟩
        · cases Option.some.inj hu
          cases hf
          exact hs.calls t _ hc
        · cases hu
      · exact hs.calls u stage hu
  | _ =>
    have haside := aside_of_act ha rfl
    exact ⟨haside.shuttingDown.trans hs.up, fun u stage => haside.calls ▸ hs.calls u stage⟩

theorem serving_fresh (exchange : String) (refusing : Bool) :
    Serving { exchange, broker := { refusing } } where
  up := rfl
  calls t stage h := by cases h

theorem Serving.run {as : List Action} (hs : g.Serving) (hg : g.Consistent)
    (hrun : g.run as = some g') (hno : .shutdown ∉ as) : g'.Serving := by
  induction as generalizing g with
  | nil =>
    cases hrun
    exact hs
  | cons a as ih =>
    obtain ⟨g₁, ha, has⟩ := run_cons_eq_some.mp hrun
    have hne : a ≠ .shutdown := fun he => hno (he ▸ List.mem_cons_self)
    have hg₁ := hg.act ha
    exact ih (hs.act hg ha hne) hg₁ has fun h => hno (List.mem_cons_of_mem _ h)

/-! ## One action -/

theorem Owes.stays {o : Outcome} (ho : g.Owes v t o)
    (hcall : ∀ c, g.calls.get? t = some c → g'.calls.get? t = some c)
    (hx : w.exchange = v.exchange) (hr : w.refusal = v.refusal) : g'.Owes w t o := by
  obtain ⟨c, hc, hw, hpromise⟩ := ho
  exact ⟨c, hcall c hc, hw, by rwa [View.promise_congr hx hr]⟩

theorem Promises.start {i : Identity} (hp : g.Promises bound v) (hl : g.Locking) (hc : g.Asking c i)
    (hbound : ∀ h, c.handle? = some h → bound h.slot) :
    ((g.start c).2.askLock g.nextTicket i).Promises bound v := by
  have hsection : c.section? = none := by cases hc <;> rfl
  have hdooms : ∀ slot, ¬ v.Dooms slot c := by
    intro slot hd
    cases hc with
    | bind _ => exact hd.1 rfl
    | unbind _ _ => exact hd
  have hold : ∀ u e, g.calls.get? u = some e →
      ((g.start c).2.askLock g.nextTicket i).calls.get? u = some e :=
    fun u e hu => hl.start_keeps c hu
  have hnew : ∀ u e, ((g.start c).2.askLock g.nextTicket i).calls.get? u = some e →
      e = c ∨ g.calls.get? u = some e := by
    intro u e hu
    rw [calls_started] at hu
    split at hu
    · exact .inl (Option.some.inj hu).symm
    · exact .inr hu
  refine ⟨hp.exchange, hp.refusal, hp.up, fun j hno => ?_, fun u e j hu he => ?_,
    fun u p h stage hu => ?_, ⟨fun slot hno => ?_, fun slot u e hu hd => ?_⟩, fun u e h hu hh => ?_,
    hp.apart⟩
  · exact hp.idle j fun u e hu => hno u e (hold u e hu)
  · rcases hnew u e hu with rfl | hu
    · rw [hsection] at he
      cases he
    · exact hp.busy u e j hu he
  · rcases hnew u _ hu with rfl | hu
    · cases hc
      trivial
    · exact hp.steady u p h stage hu
  · exact hp.stops.kept slot fun u e hu => hno u e (hold u e hu)
  · rcases hnew u e hu with rfl | hu
    · exact absurd hd (hdooms slot)
    · exact hp.stops.owed slot u e hu hd
  · rcases hnew u e hu with rfl | hu
    · exact hbound h hh
    · exact hp.handles u e h hu hh

theorem stopAt_connect (hg : g.Handled) (connId capacity : Nat) :
    (g.connect connId capacity).2.stopAt = g.stopAt := by
  funext slot
  simp only [stopAt, Gateway.connect, Table.get?_insert]
  split
  · next he =>
    rw [he, (hg.slots _).mpr (Nat.le_refl _)]
    rfl
  · rfl

theorem Promises.connect (hp : g.Promises bound v) (hg : g.Handled) (connId capacity : Nat) :
    (g.connect connId capacity).2.Promises bound v where
  exchange := hp.exchange
  refusal := hp.refusal
  up := hp.up
  idle := hp.idle
  busy := hp.busy
  steady := hp.steady
  stops := stopAt_connect hg connId capacity ▸ ⟨hp.stops.kept, hp.stops.owed⟩
  handles := hp.handles
  apart := hp.apart

theorem Promises.enters (hp : g.Promises bound v) (hg : g.Consistent)
    (ht : g.calls.get? t = some c) (hw : c.isWaiting = true) (hr : c.request? = some r)
    (hs : CallStep g t c g') :
    g'.Promises bound (v.effect r).2 ∧ g'.Owes (v.effect r).2 t (v.effect r).1 := by
  cases hs with
  | @bind p h stage _ hs =>
    cases hr
    cases stage with
    | waiting => exact hp.entersBind hg ht hs
    | _ => cases hw
  | @unbind i connId stage _ hs =>
    cases hr
    cases stage with
    | waiting => exact hp.entersUnbind hg ht hs
    | _ => cases hw
  | shutdown _ => cases hw

theorem Promises.goesOn (hp : g.Promises bound v) (hg : g.Consistent) (hserving : g.Serving)
    (ht : g.calls.get? t = some c) (hw : c.isWaiting = false) (hs : CallStep g t c g') :
    g'.Promises bound v ∧ g'.Owes v t (v.promise c).1 := by
  cases hs with
  | bind hs =>
    refine hp.bindStep hg ht ?_ hs
    rintro rfl
    cases hw
  | unbind hs =>
    refine hp.unbindStep hg ht ?_ hs
    rintro rfl
    cases hw
  | shutdown _ => exact absurd ht (hserving.calls t _)

/-! ## Runs -/

/-- The gateway has come to keep what is promised when these requests take effect on the view. -/
structure Replays (g : Gateway) (bound : Nat → Prop) (v : View) (order : List (Ticket × Request))
    (g' : Gateway) : Prop where
  promises : g'.Promises bound (v.replay (order.map Prod.snd)).2
  kept : ∀ t o, g.Owes v t o → g'.Owes (v.replay (order.map Prod.snd)).2 t o
  owed : List.Forall₂ (fun e o => g'.Owes (v.replay (order.map Prod.snd)).2 e.1 o) order
    (v.replay (order.map Prod.snd)).1

theorem Replays.trans {g₁ g₂ g₃ : Gateway} {order more : List (Ticket × Request)}
    (h : g₁.Replays bound v order g₂)
    (h' : g₂.Replays bound (v.replay (order.map Prod.snd)).2 more g₃) :
    g₁.Replays bound v (order ++ more) g₃ := by
  have hreplay := View.replay_append v (order.map Prod.snd) (more.map Prod.snd)
  rw [← List.map_append] at hreplay
  refine ⟨?_, fun t o ho => ?_, ?_⟩
  · rw [hreplay]
    exact h'.promises
  · rw [hreplay]
    exact h'.kept t o (h.kept t o ho)
  · rw [hreplay]
    exact List.rel_append (h.owed.imp fun e o ho => h'.kept e.1 o ho) h'.owed

theorem Promises.act {a : Action} (hp : g.Promises bound v) (hg : g.Consistent) (hs : g.Serving)
    (ha : g.act? a = some g')
    (hbinds : a.isBinding = true ∨ ∃ connId capacity, a = .connect connId capacity)
    (hbound : ∀ p h, a = .bind p h → bound h.slot) : g.Replays bound v (g.entered a) g' := by
  rcases hbinds with hbinds | ⟨connId, capacity, rfl⟩
  · cases bindingStep_of_act ha hbinds hg with
    | @asks c _ r hc hr =>
      have hhandle : ∀ h, c.handle? = some h → bound h.slot := by
        intro h hh
        cases hc with
        | bind _ =>
          cases hr
          cases hh
          exact hbound _ _ rfl
        | unbind _ _ => cases hh
      rw [entered_action]
      exact ⟨hp.start hg.locking hc hhandle,
        fun t o ho => ho.stays (fun d hd => hg.locking.start_keeps c hd) rfl rfl, .nil⟩
    | @goesOn t c _ hc hstep =>
      obtain ⟨d, hd, -⟩ := hstep.moves.calls
      have hother : ∀ u, u ≠ t → ∀ e, g.calls.get? u = some e → g'.calls.get? u = some e :=
        fun u hu e he => ((hd u).trans (if_neg hu)).trans he
      cases hw : c.isWaiting with
      | true =>
        obtain ⟨r, hr⟩ := hstep.request hw
        obtain ⟨hpromises, howes⟩ := hp.enters hg hc hw hr hstep
        rw [entered_of_waiting hc hw hr]
        refine ⟨hpromises, fun u o ho => ?_, .cons howes .nil⟩
        have hne : u ≠ t := by
          rintro rfl
          obtain ⟨e, he, hbusy, -⟩ := ho
          cases hc.symm.trans he
          exact Bool.false_ne_true (hbusy.symm.trans hw)
        exact ho.stays (hother u hne) (View.exchange_effect v r) (View.refusal_effect v r)
      | false =>
        obtain ⟨hpromises, howes⟩ := hp.goesOn hg hs hc hw hstep
        rw [entered_of_busy hc hw]
        refine ⟨hpromises, fun u o ho => ?_, .nil⟩
        by_cases hut : u = t
        · subst hut
          obtain ⟨e, he, -, rfl⟩ := ho
          cases hc.symm.trans he
          exact howes
        · exact ho.stays (hother u hut) rfl rfl
  · cases ha
    exact ⟨hp.connect hg.handled connId capacity, fun _ _ ho => ho, .nil⟩

theorem Promises.run {as : List Action} (hp : g.Promises bound v) (hg : g.Consistent)
    (hs : g.Serving) (hrun : g.run as = some g')
    (hbinds : ∀ a ∈ as, a.isBinding = true ∨ ∃ connId capacity, a = .connect connId capacity)
    (hbound : ∀ p h, .bind p h ∈ as → bound h.slot) :
    g.Replays bound v (noted entered g as) g' := by
  induction as generalizing g v with
  | nil =>
    cases hrun
    exact ⟨hp, fun _ _ ho => ho, .nil⟩
  | cons a as ih =>
    obtain ⟨g₁, ha, has⟩ := run_cons_eq_some.mp hrun
    have hne : a ≠ .shutdown := by
      rintro rfl
      rcases hbinds _ List.mem_cons_self with hb | ⟨_, _, hb⟩ <;> cases hb
    have hfirst := hp.act hg hs ha (hbinds a List.mem_cons_self)
      fun p h he => hbound p h (he ▸ List.mem_cons_self)
    have hg₁ := hg.act ha
    have hrest := ih hfirst.promises hg₁ (hs.act hg ha hne) has
      (fun b hb => hbinds b (List.mem_cons_of_mem _ hb))
      fun p h hb => hbound p h (List.mem_cons_of_mem _ hb)
    rw [noted, ha, Option.elim_some]
    exact hfirst.trans hrest

/-! ## When all calls are over -/

theorem Settled.unsectioned (hs : g.Settled) (j : Identity) (t : Ticket) (c : Call)
    (ht : g.calls.get? t = some c) : c.section? ≠ some j := by
  obtain ⟨o, rfl⟩ := hs t c ht
  rintro ⟨⟩

theorem Settled.undoomed (hs : g.Settled) (v : View) (slot : Nat) (t : Ticket) (c : Call)
    (ht : g.calls.get? t = some c) : ¬ v.Dooms slot c := by
  obtain ⟨o, rfl⟩ := hs t c ht
  exact fun h => h

/-- When all calls are over, everything is seen as it was promised. -/
theorem Promises.settled (hp : g.Promises bound v) (hs : g.Settled) : g.view = v := by
  have hentry : v.entry = g.entry := funext fun j => hp.idle j (hs.unsectioned j)
  have hstop : v.stop = g.stopAt := funext fun slot => hp.stops.kept slot (hs.undoomed v slot)
  unfold view
  rw [← hp.exchange, ← hp.refusal, ← hentry, ← hstop]

theorem Owes.settled {o : Outcome} (ho : g.Owes v t o) (hs : g.Settled) :
    g.outcome? t = some o := by
  obtain ⟨c, hc, -, rfl⟩ := ho
  obtain ⟨o, rfl⟩ := hs t c hc
  exact outcome_of_done hc

/-- No call is under way, and where binds fail, the connections for which binds are going to be asked are
not registered. -/
structure Resting (g : Gateway) (bound : Nat → Prop) : Prop where
  consistent : g.Consistent
  serving : g.Serving
  settled : g.Settled
  apart : (∀ q, g.broker.refusal? q ≠ none) → ∀ j h, g.registry.get? j = some h → ¬ bound h.slot

theorem Resting.promises (hg : g.Resting bound) : g.Promises bound g.view where
  exchange := rfl
  refusal := rfl
  up := hg.serving.up
  idle _ _ := rfl
  busy t c j ht hc := absurd hc (hg.settled.unsectioned j t c ht)
  steady t p h stage ht := by
    obtain ⟨o, ho⟩ := hg.settled t _ ht
    cases ho
  stops := ⟨fun _ _ => rfl, fun slot t c ht hd => absurd hd (hg.settled.undoomed _ slot t c ht)⟩
  handles t c h ht hh := by
    obtain ⟨o, rfl⟩ := hg.settled t c ht
    cases hh
  apart := hg.apart

/-- A run of binds and unbinds at the end of which all calls are over comes to what their requests come to
one after the other. -/
theorem Resting.run {as : List Action} (hg : g.Resting bound) (hrun : g.run as = some g')
    (hbinds : ∀ a ∈ as, a.isBinding = true ∨ ∃ connId capacity, a = .connect connId capacity)
    (hbound : ∀ p h, .bind p h ∈ as → bound h.slot) (hsettled : g'.Settled) : g'.Resting bound ∧
      g'.view = (g.view.replay ((noted entered g as).map Prod.snd)).2 ∧
      (noted entered g as).map (fun e => g'.outcome? e.1) =
        (g.view.replay ((noted entered g as).map Prod.snd)).1.map some := by
  have hno : .shutdown ∉ as := by
    intro h
    rcases hbinds _ h with hb | ⟨_, _, hb⟩ <;> cases hb
  have hreplays := hg.promises.run hg.consistent hg.serving hrun hbinds hbound
  have hview := hreplays.promises.settled hsettled
  refine ⟨⟨hg.consistent.run hrun, hg.serving.run hg.consistent hrun hno, hsettled,
    fun hrefused j h hh => ?_⟩, hview, ?_⟩
  · have hpromised := hreplays.promises.apart
    rw [← hview] at hpromised
    exact hpromised hrefused j h hh
  · refine List.forall₂_eq_eq_eq ▸ List.forall₂_map_left_iff.mpr (List.forall₂_map_right_iff.mpr ?_)
    exact hreplays.owed.imp fun e o ho => ho.settled hsettled

end Gateway
end LocationRelay
