import LocationRelay.Proofs.Frames
import LocationRelay.Proofs.Names
import LocationRelay.Proofs.Waiting

/-! # What the gateway does to the broker

A call that goes on stops reading a stream, removes a queue, declares the queue of a principal or closes
the broker; a relay reads one delivery or stops reading. So the broker stays sound, every queue is bound as
the queue of some principal, and nothing is added to what waits in the streams.
-/
namespace LocationRelay

open Text (Bytes)

def Principal.binding (p : Principal) (exchange : String) : Binding :=
  ⟨p.identity.text, exchange, p.bindingPattern⟩

namespace Broker

/-- What one section of a call may do to the broker. -/
inductive Used (exchange : String) (b : Broker) : Broker → Prop
  | leaves : Used exchange b b
  | discards (s : StreamId) : Used exchange b (b.discard s)
  | unsubscribes (q : String) : Used exchange b (b.unsubscribe q)
  | subscribes (p : Principal) : Used exchange b (b.subscribe (p.binding exchange)).2
  | closes : Used exchange b b.close

theorem Used.sound {exchange : String} {b b' : Broker} (h : b.Used exchange b') (hb : b.Sound) :
    b'.Sound := by
  cases h with
  | leaves => exact hb
  | discards s => exact hb.discard s
  | unsubscribes q => exact hb.unsubscribe q
  | subscribes p => exact hb.subscribe _
  | closes => exact hb.close

theorem Used.drains {exchange : String} {b b' : Broker} (h : b.Used exchange b') : b.Drains b' := by
  cases h with
  | leaves => exact .refl b
  | discards s => exact .discard b s
  | unsubscribes q => exact .unsubscribe b q
  | subscribes p => exact .subscribe b _
  | closes => exact .close b

def Owned (exchange : String) (b : Broker) : Prop :=
  ∀ q e, b.queues.get? q = some e → ∃ p : Principal, e.1 = p.binding exchange

theorem Owned.used {exchange : String} {b b' : Broker} (hb : b.Owned exchange)
    (h : b.Used exchange b') : b'.Owned exchange := by
  cases h with
  | leaves => exact hb
  | discards s => exact hb
  | unsubscribes q =>
    intro r e he
    rw [queues_unsubscribe] at he
    split at he
    · cases he
    · exact hb r e he
  | subscribes p =>
    unfold subscribe
    split
    · exact hb
    · split
      · exact hb
      · split
        · exact hb
        · intro r e he
          simp only [Table.get?_insert] at he
          split at he
          · cases he
            exact ⟨p, rfl⟩
          · exact hb r e he
  | closes =>
    intro q e he
    cases he

theorem Owned.refills {exchange : String} {b b' : Broker} (hb : b.Owned exchange) (h : b.Refills b') :
    b'.Owned exchange := by
  intro q e he
  rw [h.queues] at he
  exact hb q e he

theorem Owned.binding {exchange : String} {b : Broker} (hb : b.Owned exchange) (hs : b.Sound)
    {p : Principal} {e : Binding × StreamId} (he : b.queues.get? p.identity.text = some e) :
    e.1 = p.binding exchange := by
  obtain ⟨q, hq⟩ := hb _ e he
  have hname : q.identity.text = p.identity.text := by
    rw [← hs.named _ e.1 e.2 he, hq]
    rfl
  rw [hq, Principal.identity_injective (Identity.eq_of_text hname)]

end Broker

namespace Gateway

theorem used_detached {g : Gateway} (exchange : String) (i : Identity) (c : Consumer) :
    g.broker.Used exchange (g.detached i c).broker := by
  unfold detached
  dsimp only
  split
  · exact .discards _
  · exact .leaves

theorem CallStep.used {g g' : Gateway} {t : Ticket} {c : Call} (hs : CallStep g t c g') :
    g.broker.Used g.exchange g'.broker := by
  cases hs with
  | @bind p h stage _ hs =>
    have habandon : ∀ reason e,
        g.broker.Used g.exchange (g.abandonBind t p h reason e).broker := by
      intro reason e
      have hrel : (g.release p.identity h.connId).2.broker = g.broker := by
        rcases release_eq g p.identity h.connId with he | he
        · rw [he]
        · rw [he]
          rfl
      have hleaves : g.broker.Used g.exchange (g.release p.identity h.connId).2.broker :=
        hrel ▸ .leaves
      exact hleaves
    have hdetached : ∀ c, g.broker.Used g.exchange
        ((g.registered p.identity h).detached p.identity c).broker := by
      intro c
      have hused := used_detached (g := g.registered p.identity h) g.exchange p.identity c
      rwa [broker_registered] at hused
    cases hs with
    | @evicts c _ _ _ _ => exact hdetached c
    | @clears c _ _ _ _ => exact hdetached c
    | enters _ _ _ =>
      have hleaves : g.broker.Used g.exchange (g.registered p.identity h).broker := by
        rw [broker_registered]
        exact .leaves
      exact hleaves
    | evicted x => exact .unsubscribes _
    | @finds c _ => exact used_detached g.exchange p.identity c
    | cleared x => exact .unsubscribes _
    | declares => exact .subscribes p
    | fails e => exact habandon _ _
    | retracts s _ =>
      exact used_detached (g := g.attach p.identity _ s) g.exchange p.identity _
    | retracted x => exact .unsubscribes _
    | gaveUp => exact habandon _ _
    | _ => exact .leaves
  | @unbind i connId stage _ hs =>
    cases hs with
    | @releases c _ _ _ => exact used_detached (g := g.unregistered i) g.exchange i c
    | deletes x => exact .unsubscribes _
    | _ => exact .leaves
  | @shutdown stage _ hs =>
    have hstop : ∀ {g₁ g' : Gateway} {is : List Identity}, StopStep g₁ t is g' →
        g₁.broker.Used g.exchange g'.broker := by
      intro g₁ g' is hs
      cases hs with
      | none_left _ _ => exact .leaves
      | @stops i c _ _ _ _ => exact used_detached g.exchange i c
    cases hs with
    | again _ => exact .leaves
    | begins _ hs =>
      have hflagged : g.flagged.broker = g.broker := by rw [(connectionsOnly_flagged g).rest]
      exact hflagged ▸ hstop hs
    | goesOn is hs => exact hstop hs
    | deletes x is => exact .unsubscribes _
    | disconnects => exact .closes

/-- A relay takes one delivery off its stream and acknowledges it, or stops reading a stream that has
ended. -/
theorem RelayStep.broker {g g' : Gateway} {s : StreamId} {r : Relay} (hs : RelayStep g s r g') :
    (∃ d b, g.broker.next s = (.delivery d, b) ∧ g'.broker = b.ack d) ∨
      (g.broker.next s).1 = .ended ∧ g'.broker = g.broker.discard s := by
  cases hs with
  | @delivers d b hnext =>
    have hforward := ConnectionsOnly.forward { g with broker := b } r.identity d.payload
    have hread : (forward { g with broker := b } r.identity d.payload).2.broker = b := by
      rw [hforward.rest]
    exact .inl ⟨d, b, hnext, congrArg (·.ack d) hread⟩
  | loses hnext =>
    refine .inr ⟨hnext, ?_⟩
    rw [(ConnectionsOnly.loseSubscription g s r).rest]
    rfl

theorem CallStep.sound {g g' : Gateway} {t : Ticket} {c : Call} (hs : CallStep g t c g')
    (hb : g.broker.Sound) : g'.broker.Sound := hs.used.sound hb

theorem RelayStep.sound {g g' : Gateway} {s : StreamId} {r : Relay} (hs : RelayStep g s r g')
    (hb : g.broker.Sound) : g'.broker.Sound := by
  rcases hs.broker with ⟨d, b, hnext, he⟩ | ⟨-, he⟩ <;> rw [he]
  · exact hb.refills ((Broker.refills_next hnext).ack d)
  · exact hb.discard s

theorem RelayStep.drains {g g' : Gateway} {s : StreamId} {r : Relay} (hs : RelayStep g s r g') :
    g.broker.Drains g'.broker := by
  rcases hs.broker with ⟨d, b, hnext, he⟩ | ⟨-, he⟩ <;> rw [he]
  · have hread := Broker.Drains.next hnext
    exact hread
  · exact .discard g.broker s

theorem BrokerStep.sound {b b' : Broker} (hs : BrokerStep b b') (hb : b.Sound) : b'.Sound := by
  cases hs with
  | publishes exchange key payload => exact hb.refills (b.refills_publish exchange key payload)
  | refuses on => exact ⟨hb.named, hb.read, hb.fed, hb.closed⟩
  | loses queue => exact hb.unsubscribe queue
  | closes => exact hb.close

/-- Only a publish adds anything to what waits in the streams. -/
theorem drains_of_act {g g' : Gateway} {a : Action} (ha : g.act? a = some g')
    (hpub : ∀ t c, g.calls.get? t = some c → c.isPublic = true)
    (hno : ∀ exchange key payload, a ≠ .publish exchange key payload) :
    g.broker.Drains g'.broker := by
  have hvisit : ∀ {g₁ : Gateway}, g.ConnectionsOnly g₁ → g.broker.Drains g₁.broker := by
    intro g₁ h
    rw [h.rest]
    exact .refl g.broker
  cases a with
  | bind p h =>
    obtain ⟨-, ha⟩ := Option.ite_none_right_eq_some.mp ha
    cases ha
    exact .refl g.broker
  | advance t =>
    obtain ⟨c, -, hs⟩ := callStep_of_step ha (hpub t)
    exact hs.used.drains
  | relay s =>
    obtain ⟨r, -, hs⟩ := relayStep_of_step ha
    exact hs.drains
  | publish exchange key payload => exact absurd rfl (hno exchange key payload)
  | take h => cases ha; exact hvisit (.take g h)
  | sweep config =>
    cases ha
    obtain ⟨g₁, hg₁, he⟩ := ConnectionsOnly.sweep g config
    have hswept := hvisit hg₁
    rw [he]
    exact hswept
  | deleteQueue queue => cases ha; exact .unsubscribe g.broker queue
  | closeBroker => cases ha; exact .close g.broker
  | _ => cases ha; exact .refl g.broker

theorem Happening.owned {g g' : Gateway} (h : g.Happening g') {exchange : String}
    (he : g.exchange = exchange) (hb : g.broker.Owned exchange) : g'.broker.Owned exchange := by
  subst he
  cases h with
  | aside h =>
    cases h with
    | visits h => rw [h.rest]; exact hb
    | prunes h => rw [h.rest]; exact hb
    | connects connId capacity => exact hb
    | relays _ hs =>
      rcases hs.broker with ⟨d, b, hnext, he⟩ | ⟨-, he⟩ <;> rw [he]
      · exact hb.refills ((Broker.refills_next hnext).ack d)
      · exact hb.used (.discards _)
    | brokers hs =>
      cases hs with
      | publishes exchange key payload => exact hb.refills (g.broker.refills_publish exchange key payload)
      | refuses on => exact hb
      | loses queue => exact hb.used (.unsubscribes queue)
      | closes => exact hb.used .closes
  | goesOn _ hs => exact hb.used hs.used
  | _ => exact hb

end Gateway
end LocationRelay
