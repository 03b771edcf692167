import LocationRelay.Proofs.Departure
import LocationRelay.Proofs.Within

/-! # What calls under way are going to come to

A bind or an unbind that has got its lock is bound to come to what its request comes to by itself, whatever
other calls do meanwhile. So the requests may be thought of as done at once at the moment at which they get
their locks: the view after them is seen at every identity on which no call works, and is promised by the
call that works on it at every other one. Only the request that a connection close because its bind has
failed is made later, which matters to no other request.
-/
namespace LocationRelay

/-- The error with which a bind is going to end, if it is. -/
def BindStage.fault? (refused : Option BrokerError) : BindStage → Option BrokerError
  | .opening (.declared (.error e)) => some e
  | .opening (.declared (.ok _)) => none
  | _ => refused

def BindStage.Steady (b : Broker) (own : Binding) : BindStage → Prop
  | .opening (.declared (.ok s)) => b.queues.get? own.queue = some (own, s)
  | .opening (.declared (.error e)) => b.refusal? own.queue = some e
  | .retracting _ | .retracted => False
  | _ => True

theorem BindStage.Steady.congr {b b' : Broker} {own : Binding} {stage : BindStage}
    (h : stage.Steady b own) (hq : b'.queues.get? own.queue = b.queues.get? own.queue)
    (hr : b'.refusal? = b.refusal?) : stage.Steady b' own := by
  cases stage with
  | opening o =>
    cases o with
    | declared answer =>
      cases answer with
      | error e => exact (congrFun hr own.queue).trans h
      | ok s => exact hq.trans h
    | _ => trivial
  | retracting x => exact h
  | retracted => exact h
  | _ => trivial

/-- The answer of the broker is the one that was expected. -/
theorem BindStage.declared_spec {b : Broker} {own : Binding} (h : b.queues.get? own.queue = none) :
    (BindStage.opening (.declared (b.subscribe own).1)).fault? (b.refusal? own.queue) =
      b.refusal? own.queue ∧
    (BindStage.opening (.declared (b.subscribe own).1)).Steady (b.subscribe own).2 own := by
  rw [Broker.subscribe_of_absent h]
  cases hr : b.refusal? own.queue with
  | some e => exact ⟨rfl, hr⟩
  | none => exact ⟨rfl, (Table.get?_insert _ _ _ _).trans (if_pos rfl)⟩

namespace View

/-- The outcome of a call that has got its lock, and what is seen of its identity after it. -/
def promise (v : View) : Call → Outcome × Entry
  | .bind p h stage =>
    match stage.fault? (v.refusal p.identity.text) with
    | some e => (.bound (.error e), {})
    | none => (.bound (.ok p.identity), p.entry v.exchange h)
  | .unbind _ _ _ => (.unbound true, {})
  | .done o => (o, {})
  | _ => (.shutDown, {})

def Dooms (v : View) (slot : Nat) : Call → Prop
  | .bind p h stage =>
    stage ≠ .waiting ∧ stage.fault? (v.refusal p.identity.text) ≠ none ∧ h.slot = slot
  | _ => False

/-- A bind that has not heard from the broker promises the effect of its request. -/
theorem promise_eq_effect {p : Principal} {stage : BindStage} (h : ∀ refused, stage.fault? refused = refused)
    (v : View) (k : Handle) : v.promise (.bind p k stage) =
      ((v.effect (.bind p k)).1, (v.effect (.bind p k)).2.entry p.identity) := by
  cases hr : v.refusal p.identity.text with
  | some e => simp only [promise, h, hr, effect_of_refused hr, entry_close, entry_put, if_true]
  | none => simp only [promise, h, hr, effect_of_accepted hr, entry_put, if_true]

theorem promise_congr {v w : View} (hx : w.exchange = v.exchange) (hr : w.refusal = v.refusal)
    (c : Call) : w.promise c = v.promise c := by
  cases c with
  | bind p h stage => simp only [promise, hx, hr]
  | _ => rfl

theorem dooms_congr {v w : View} (hr : w.refusal = v.refusal) (slot : Nat) (c : Call) :
    w.Dooms slot c ↔ v.Dooms slot c := by
  cases c with
  | bind p h stage => simp only [Dooms, hr]
  | _ => rfl

end View

namespace Gateway

/-- What has been made of the requests to stop that are seen in a view. -/
structure Owing (g : Gateway) (v : View) (made seen : Nat → Option Stop) : Prop where
  kept : ∀ slot, (∀ t c, g.calls.get? t = some c → ¬ v.Dooms slot c) → seen slot = made slot
  owed : ∀ slot t c, g.calls.get? t = some c → v.Dooms slot c →
    seen slot = some ((made slot).getD (.close .setupFailed))

structure Promises (g : Gateway) (bound : Nat → Prop) (v : View) : Prop where
  exchange : v.exchange = g.exchange
  refusal : v.refusal = g.broker.refusal?
  up : g.shuttingDown = false
  idle : ∀ j, (∀ t c, g.calls.get? t = some c → c.section? ≠ some j) → v.entry j = g.entry j
  busy : ∀ t c j, g.calls.get? t = some c → c.section? = some j → v.entry j = (v.promise c).2
  steady : ∀ t p h stage, g.calls.get? t = some (.bind p h stage) →
    stage.Steady g.broker (p.binding g.exchange)
  stops : g.Owing v g.stopAt v.stop
  handles : ∀ t c h, g.calls.get? t = some c → c.handle? = some h → bound h.slot
  /-- Where binds fail, none of them is for a connection that is registered. -/
  apart : (∀ q, v.refusal q ≠ none) → ∀ j h, (v.entry j).handle = some h → ¬ bound h.slot

variable {bound : Nat → Prop} {v : View}

def Owes (g : Gateway) (v : View) (t : Ticket) (o : Outcome) : Prop :=
  ∃ c, g.calls.get? t = some c ∧ c.isWaiting = false ∧ (v.promise c).1 = o

theorem refusal_uniform {b : Broker} {q r : String} (h : b.refusal? q = none) :
    b.refusal? r = none := by
  unfold Broker.refusal? at h ⊢
  split at h
  · cases h
  · next hc =>
    rw [if_neg hc]
    split at h
    · cases h
    · next hr => rw [if_neg hr]

/-- Where subscriptions are accepted, no bind is going to fail. -/
theorem Promises.no_doom {g : Gateway} (hp : g.Promises bound v) {q : String}
    (hq : v.refusal q = none) (slot : Nat) (t : Ticket) (c : Call) (ht : g.calls.get? t = some c) :
    ¬ v.Dooms slot c := by
  have hnone : ∀ r, v.refusal r = none := by
    intro r
    rw [hp.refusal] at hq ⊢
    exact refusal_uniform hq
  cases c with
  | bind p h stage =>
    rintro ⟨-, hfault, -⟩
    rw [hnone] at hfault
    cases stage with
    | opening o =>
      cases o with
      | declared answer =>
        cases answer with
        | error e =>
          have hrefused : g.broker.refusal? p.identity.text = some e := hp.steady t p h _ ht
          rw [← hp.refusal, hnone] at hrefused
          cases hrefused
        | ok s => exact hfault rfl
      | _ => exact hfault rfl
    | _ => exact hfault rfl
  | _ => exact fun h => h

/-! ## One call goes on -/

section Move

variable {g g' : Gateway} {t : Ticket} {c d : Call}

/-- The connections are left alone by a call that keeps what it owes to them. -/
theorem Owing.move {made seen : Nat → Option Stop} (ho : g.Owing v made seen)
    (ht : g.calls.get? t = some c)
    (hcalls : ∀ u, g'.calls.get? u = if u = t then some d else g.calls.get? u)
    (hsame : ∀ slot, v.Dooms slot d ↔ v.Dooms slot c) : g'.Owing v made seen where
  kept slot hno := by
    refine ho.kept slot fun u e hu hd => ?_
    by_cases he : u = t
    · subst he
      cases ht.symm.trans hu
      exact hno u d ((hcalls u).trans (if_pos rfl)) ((hsame slot).mpr hd)
    · exact hno u e (((hcalls u).trans (if_neg he)).trans hu) hd
  owed slot u e hu hd := by
    rw [hcalls] at hu
    split at hu
    · cases hu
      exact ho.owed slot t c ht ((hsame slot).mp hd)
    · exact ho.owed slot u e hu hd

theorem Owing.congr {w : View} {made seen : Nat → Option Stop} (ho : g.Owing v made seen)
    (hr : w.refusal = v.refusal) : g.Owing w made seen where
  kept slot hno := ho.kept slot fun u e hu hd => hno u e hu ((View.dooms_congr hr slot e).mpr hd)
  owed slot u e hu hd := ho.owed slot u e hu ((View.dooms_congr hr slot e).mp hd)

/-- A call that goes on has to be looked at only where its own identity is concerned. -/
theorem Promises.move {i : Identity} {w : View} (hp : g.Promises bound v)
    (ht : g.calls.get? t = some c)
    (hcalls : ∀ u, g'.calls.get? u = if u = t then some d else g.calls.get? u)
    (hwithin : g.Within i g') (halone : g.Alone t i) (hc : ∀ j, c.section? = some j → j = i)
    (hx : w.exchange = v.exchange) (hr : w.refusal = v.refusal)
    (helse : ∀ j, j ≠ i → w.entry j = v.entry j) (hd : ∀ j, d.section? = some j → j = i)
    (hbusy : d.section? = some i → w.entry i = (w.promise d).2)
    (hidle : d.section? ≠ some i → w.entry i = g'.entry i)
    (hsteady : ∀ p h stage, d = .bind p h stage → stage.Steady g'.broker (p.binding g'.exchange))
    (hstops : g'.Owing w g'.stopAt w.stop) (hhandle : ∀ h, d.handle? = some h → c.handle? = some h)
    (hapart : (∀ q, w.refusal q ≠ none) → ∀ h, (w.entry i).handle = some h →
      (v.entry i).handle = some h) : g'.Promises bound w where
  exchange := (hx.trans hp.exchange).trans hwithin.exchange.symm
  refusal := (hr.trans hp.refusal).trans hwithin.refusal.symm
  up := hwithin.shuttingDown.trans hp.up
  idle j hno := by
    by_cases hj : j = i
    · subst hj
      exact hidle (hno t d ((hcalls t).trans (if_pos rfl)))
    · rw [helse j hj, hwithin.entry hj]
      refine hp.idle j fun u e hu he => ?_
      by_cases hut : u = t
      · subst hut
        cases ht.symm.trans hu
        exact hj (hc j he)
      · exact hno u e (((hcalls u).trans (if_neg hut)).trans hu) he
  busy u e j hu he := by
    rw [hcalls] at hu
    split at hu
    · cases hu
      cases hd j he
      exact hbusy he
    · next hut =>
      have hj : j ≠ i := by
        rintro rfl
        exact hut (halone u e hu he)
      rw [helse j hj, View.promise_congr hx hr]
      exact hp.busy u e j hu he
  steady u p h stage hu := by
    rw [hcalls] at hu
    split at hu
    · exact hsteady p h stage (Option.some.inj hu)
    · next hut =>
      by_cases hstage : stage = .waiting
      · rw [hstage]
        trivial
      · have hj : p.identity ≠ i := by
          rintro rfl
          exact hut (halone u _ hu (Call.section_bind hstage))
        rw [hwithin.exchange]
        exact (hp.steady u p h stage hu).congr (hwithin.queues _ hj) hwithin.refusal
  stops := hstops
  handles u e h hu hh := by
    rw [hcalls] at hu
    split at hu
    · cases hu
      exact hp.handles t c h ht (hhandle h hh)
    · exact hp.handles u e h hu hh
  apart hrefused j h hh := by
    have hrefused' : ∀ q, v.refusal q ≠ none := fun q => hr ▸ hrefused q
    by_cases hj : j = i
    · subst hj
      exact hp.apart hrefused' j h (hapart hrefused h hh)
    · rw [helse j hj] at hh
      exact hp.apart hrefused' j h hh

end Move

end Gateway
end LocationRelay
