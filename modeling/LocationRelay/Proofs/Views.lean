import LocationRelay.Proofs.BrokerUse

/-! # What a request comes to by itself

A view of a gateway shows who is registered for an identity, how its consumer and its queue are bound, and
which connections have been asked to stop. On a view the effect of a bind or an unbind is written down as if
nothing else happened before it is over.
-/
namespace LocationRelay

inductive Request where
  | bind (p : Principal) (h : Handle)
  | unbind (i : Identity) (connId : Nat)

namespace Request

def identity : Request → Identity
  | bind p _ => p.identity
  | unbind i _ => i

def action : Request → Gateway.Action
  | bind p h => .bind p h
  | unbind i connId => .unbind i connId

end Request

structure Entry where
  handle : Option Handle := none
  consumer : Option Binding := none
  queue : Option Binding := none

def Principal.entry (p : Principal) (exchange : String) (h : Handle) : Entry :=
  ⟨some h, some (p.binding exchange), some (p.binding exchange)⟩

structure View where
  exchange : String
  /-- Why a subscription is refused, if it is. -/
  refusal : String → Option BrokerError
  entry : Identity → Entry
  stop : Nat → Option Stop

namespace View

def put (v : View) (i : Identity) (e : Entry) : View :=
  { v with entry := fun j => if j = i then e else v.entry j }

/-- A connection is asked to close, unless it was asked to stop before. -/
def close (v : View) (slot : Nat) (reason : CloseReason) : View :=
  { v with stop := fun s => if s = slot then some ((v.stop s).getD (.close reason)) else v.stop s }

def supersede (v : View) (i : Identity) : View :=
  match (v.entry i).handle with
  | some k => v.close k.slot .superseded
  | none => v

def effect (v : View) : Request → Outcome × View
  | .bind p h =>
    match v.refusal p.identity.text with
    | some e => (.bound (.error e),
        ((v.supersede p.identity).put p.identity {}).close h.slot .setupFailed)
    | none => (.bound (.ok p.identity),
        (v.supersede p.identity).put p.identity (p.entry v.exchange h))
  | .unbind i connId =>
    if (v.entry i).handle.map Handle.connId = some connId then (.unbound true, v.put i {})
    else (.unbound false, v)

def replay (v : View) : List Request → List Outcome × View
  | [] => ([], v)
  | r :: rs => ((v.effect r).1 :: ((v.effect r).2.replay rs).1, ((v.effect r).2.replay rs).2)

@[simp] theorem entry_put (v : View) (i j : Identity) (e : Entry) :
    (v.put i e).entry j = if j = i then e else v.entry j := rfl

@[simp] theorem entry_close (v : View) (slot : Nat) (reason : CloseReason) :
    (v.close slot reason).entry = v.entry := rfl

@[simp] theorem entry_supersede (v : View) (i : Identity) : (v.supersede i).entry = v.entry := by
  unfold supersede
  split <;> rfl

@[simp] theorem exchange_supersede (v : View) (i : Identity) :
    (v.supersede i).exchange = v.exchange := by
  unfold supersede
  split <;> rfl

@[simp] theorem refusal_supersede (v : View) (i : Identity) :
    (v.supersede i).refusal = v.refusal := by
  unfold supersede
  split <;> rfl

theorem effect_of_refused {v : View} {p : Principal} {e : BrokerError}
    (h : v.refusal p.identity.text = some e) (k : Handle) : v.effect (.bind p k) =
      (.bound (.error e),
        ((v.supersede p.identity).put p.identity {}).close k.slot .setupFailed) := by
  simp only [effect, h]

theorem effect_of_accepted {v : View} {p : Principal} (h : v.refusal p.identity.text = none)
    (k : Handle) : v.effect (.bind p k) = (.bound (.ok p.identity),
      (v.supersede p.identity).put p.identity (p.entry v.exchange k)) := by
  simp only [effect, h]

theorem effect_unbind (v : View) (i : Identity) (connId : Nat) : v.effect (.unbind i connId) =
    if (v.entry i).handle.map Handle.connId = some connId then (.unbound true, v.put i {})
    else (.unbound false, v) := rfl

theorem exchange_effect (v : View) (r : Request) : (v.effect r).2.exchange = v.exchange := by
  cases r with
  | bind p k =>
    cases h : v.refusal p.identity.text with
    | some e =>
      rw [effect_of_refused h]
      exact exchange_supersede v _
    | none =>
      rw [effect_of_accepted h]
      exact exchange_supersede v _
  | unbind i connId =>
    rw [effect_unbind]
    split <;> rfl

theorem refusal_effect (v : View) (r : Request) : (v.effect r).2.refusal = v.refusal := by
  cases r with
  | bind p k =>
    cases h : v.refusal p.identity.text with
    | some e =>
      rw [effect_of_refused h]
      exact refusal_supersede v _
    | none =>
      rw [effect_of_accepted h]
      exact refusal_supersede v _
  | unbind i connId =>
    rw [effect_unbind]
    split <;> rfl

theorem entry_effect {r : Request} {j : Identity} (hj : j ≠ r.identity) (v : View) :
    (v.effect r).2.entry j = v.entry j := by
  cases r with
  | bind p k =>
    have hj : j ≠ p.identity := hj
    cases h : v.refusal p.identity.text with
    | some e =>
      rw [effect_of_refused h, entry_close, entry_put, if_neg hj, entry_supersede]
    | none => rw [effect_of_accepted h, entry_put, if_neg hj, entry_supersede]
  | unbind i connId =>
    rw [effect_unbind]
    split
    · exact if_neg hj
    · rfl

/-- Where every subscription is refused, nobody is registered who was not so before. -/
theorem handle_effect {v : View} (hrefused : ∀ q, v.refusal q ≠ none) {r : Request} {j : Identity}
    {k : Handle} (h : ((v.effect r).2.entry j).handle = some k) : (v.entry j).handle = some k := by
  by_cases hj : j = r.identity
  · subst hj
    cases r with
    | bind p b =>
      obtain ⟨e, he⟩ := Option.ne_none_iff_exists'.mp (hrefused p.identity.text)
      rw [effect_of_refused he, entry_close, Request.identity, entry_put, if_pos rfl] at h
      cases h
    | unbind i connId =>
      rw [effect_unbind] at h
      split at h
      · rw [Request.identity, entry_put, if_pos rfl] at h
        cases h
      · exact h
  · rwa [entry_effect hj] at h

theorem refusal_of_effect {v : View} {r : Request} {e : BrokerError}
    (h : (v.effect r).1 = .bound (.error e)) : v.refusal r.identity.text = some e := by
  cases r with
  | bind p k =>
    cases he : v.refusal p.identity.text with
    | some e' =>
      rw [effect_of_refused he] at h
      cases h
      exact he
    | none =>
      rw [effect_of_accepted he] at h
      cases h
  | unbind i connId =>
    rw [effect_unbind] at h
    split at h <;> cases h

theorem supersede_of_some {v : View} {i : Identity} {k : Handle} (h : (v.entry i).handle = some k) :
    v.supersede i = v.close k.slot .superseded := by
  simp only [supersede, h]

theorem supersede_of_none {v : View} {i : Identity} (h : (v.entry i).handle = none) :
    v.supersede i = v := by
  simp only [supersede, h]

theorem replay_append (v : View) (rs qs : List Request) : v.replay (rs ++ qs) =
    ((v.replay rs).1 ++ ((v.replay rs).2.replay qs).1, ((v.replay rs).2.replay qs).2) := by
  induction rs generalizing v with
  | nil => rfl
  | cons r rs ih => simp only [List.cons_append, replay, ih]

theorem refusal_of_replay {v : View} {rs : List Request} {e : BrokerError}
    (h : .bound (.error e) ∈ (v.replay rs).1) : ∃ q, v.refusal q = some e := by
  induction rs generalizing v with
  | nil => cases h
  | cons r rs ih =>
    rw [replay] at h
    rcases List.mem_cons.mp h with h | h
    · exact ⟨_, refusal_of_effect h.symm⟩
    · obtain ⟨q, hq⟩ := ih h
      exact ⟨q, by rwa [refusal_effect] at hq⟩

/-- An unbind for another connection changes nothing. -/
theorem effect_of_stale {v : View} {i : Identity} {k : Handle} {connId : Nat}
    (h : (v.entry i).handle = some k) (hne : connId ≠ k.connId) :
    v.effect (.unbind i connId) = (.unbound false, v) := by
  have hother : (v.entry i).handle.map Handle.connId ≠ some connId := by
    rw [h]
    exact fun he => hne (Option.some.inj he).symm
  rw [effect_unbind, if_neg hother]

/-- A registration outlasts the unbinds for other connections. -/
theorem replay_of_stale {v : View} {i : Identity} {k : Handle} {rs : List Request}
    (h : (v.entry i).handle = some k) (hstale : ∀ r ∈ rs, r.identity = i →
      ∃ connId, r = .unbind i connId ∧ connId ≠ k.connId) : (v.replay rs).2.entry i = v.entry i := by
  induction rs generalizing v with
  | nil => rfl
  | cons r rs ih =>
    have hrest : ∀ r ∈ rs, r.identity = i → ∃ connId, r = .unbind i connId ∧ connId ≠ k.connId :=
      fun r hr => hstale r (List.mem_cons_of_mem _ hr)
    by_cases hi : r.identity = i
    · obtain ⟨connId, rfl, hne⟩ := hstale r List.mem_cons_self hi
      rw [replay, effect_of_stale h hne]
      exact ih h hrest
    · have hsame := entry_effect (fun he => hi he.symm) v
      rw [replay, ih (hsame ▸ h) hrest, hsame]

end View
end LocationRelay
