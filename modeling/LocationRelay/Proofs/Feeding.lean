import LocationRelay.Proofs.Ledger
import LocationRelay.Proofs.Outboxes

/-! # What a connection is fed

The stream that feeds a connection is the one that its bind has declared, and later that of the consumer
of its identity, for as long as the connection is registered. What was put into its outbox, followed by what
waits in that stream, was published in this order to be received by the connection's principal.
-/
namespace LocationRelay.Gateway

open Text (Bytes)

def published (g : Gateway) : Action → List Post
  | .publish exchange key payload => g.broker.accepted ⟨exchange, key, payload⟩
  | _ => []

/-- The stream that feeds a connection. -/
inductive Feeds (g : Gateway) (p : Principal) (h : Handle) : StreamId → Prop
  | opening {t : Ticket} {s : StreamId}
      (ht : g.calls.get? t = some (.bind p h (.opening (.declared (.ok s))))) : Feeds g p h s
  | serving {c : Consumer} (hreg : g.registry.get? p.identity = some h)
      (hc : g.consumers.get? p.identity = some c) : Feeds g p h c.stream

variable {p : Principal} {h : Handle}

theorem Consistent.queue_of_feeds {g : Gateway} (hg : g.Consistent) {s : StreamId}
    (hf : g.Feeds p h s) (q : String) (hq : g.broker.queueOf? s = some q) : q = p.identity.text := by
  cases hf with
  | opening ht =>
    obtain ⟨-, -, hqueue, -⟩ := (hg.each p.identity).busy _ _ ht rfl
    exact Option.some.inj (hq.symm.trans hqueue)
  | serving _ hc => exact ((hg.each p.identity).consumed _ hc).queue q hq

/-! ## What feeds a connection after a step -/

/-- A bind that comes to know of the stream of its queue has just declared the queue. -/
theorem BindStep.declares_of_declared {g g' : Gateway} {t : Ticket} {stage : BindStage} {q : Principal}
    {k : Handle} {s : StreamId} (hs : BindStep g t q k stage g')
    (ht : g'.calls.get? t = some (.bind p h (.opening (.declared (.ok s))))) :
    (stage = .opening .declaring ∧ q = p ∧ k = h) ∧ g.broker.subscribe (p.binding g.exchange) =
      (.ok s, g'.broker) := by
  have hset : ∀ {g₁ : Gateway} {d : Call}, (g₁.setCall t d).calls.get? t = some d := by
    intro g₁ d
    simp only [setCall, Table.get?_insert, if_true]
  have hdone : ∀ {g₁ : Gateway} {o : Outcome}, (g₁.finish t o).calls.get? t = some (.done o) := by
    intro g₁ o
    simp only [finish, Table.get?_insert, if_true]
  cases hs with
  | declares =>
    have hanswer := Option.some.inj (hset.symm.trans ht)
    simp only [declare, Call.bind.injEq, BindStage.opening.injEq, Opening.declared.injEq] at hanswer
    obtain ⟨rfl, rfl, hok⟩ := hanswer
    exact ⟨⟨rfl, rfl, rfl⟩, Prod.ext hok rfl⟩
  | refused _ _ => cases hdone.symm.trans ht
  | fails e => cases hdone.symm.trans ht
  | succeeds s' _ => cases hdone.symm.trans ht
  | gaveUp => cases hdone.symm.trans ht
  | _ => cases hset.symm.trans ht

theorem consumers_abandonBind (g : Gateway) (t : Ticket) (p : Principal) (h : Handle)
    (reason : CloseReason) (e : BrokerError) : (g.abandonBind t p h reason e).consumers = g.consumers := by
  change ((g.release p.identity h.connId).2.close h reason).consumers = _
  rw [(ConnectionsOnly.close _ h reason).rest]
  rcases release_eq g p.identity h.connId with he | he
  · rw [he]
  · rw [he]
    rfl

/-- A consumer that is there after a step of a bind was there before for the same connection, or the bind
has just succeeded. -/
theorem Consistent.consumer_bindStep {g g' : Gateway} (hg : g.Consistent) {t : Ticket} {q : Principal}
    {b : Handle} {stage : BindStage} (ht : g.calls.get? t = some (.bind q b stage))
    (hs : BindStep g t q b stage g') {j : Identity} {k : Consumer}
    (hk : g'.consumers.get? j = some k) :
    (g.consumers.get? j = some k ∧ g'.registry.get? j = g.registry.get? j) ∨
      (stage = .opening (.declared (.ok k.stream)) ∧ q.identity = j ∧ g'.registry = g.registry) := by
  by_cases hj : j = q.identity
  · subst hj
    have herased : ∀ {cs : Table Identity Consumer} {k : Consumer},
        (cs.erase q.identity).get? q.identity ≠ some k := by
      intro cs k hk
      rw [Table.get?_erase, if_pos rfl] at hk
      cases hk
    -- A bind that has its lock leaves no consumer until it succeeds.
    have hinside : stage ≠ .waiting → g.consumers.get? q.identity ≠ some k := by
      intro hstage hk
      rw [(hg.each _).no_consumer ht (Call.section_bind hstage)] at hk
      cases hk
    cases hs with
    | refused _ _ =>
      have hrest := (ConnectionsOnly.close g b .shutdown).rest
      refine .inl ⟨?_, ?_⟩
      · rw [← hk, finish, hrest]
      · rw [finish, hrest]
    | evicts _ _ _ _ => exact absurd hk herased
    | clears _ _ _ _ => exact absurd hk herased
    | finds _ => exact absurd hk herased
    | enters _ _ hc =>
      rw [setCall, consumers_registered, hc] at hk
      cases hk
    | fails e =>
      rw [consumers_abandonBind] at hk
      exact absurd hk (hinside (by rintro ⟨⟩))
    | gaveUp =>
      rw [consumers_abandonBind] at hk
      exact absurd hk (hinside (by rintro ⟨⟩))
    | succeeds s _ =>
      simp only [finish, attach, Table.get?_insert, if_true, Option.some.injEq] at hk
      exact .inr ⟨by rw [← hk], rfl, rfl⟩
    | retracts s _ => exact absurd hk herased
    | _ => exact absurd hk (hinside (by rintro ⟨⟩))
  · have hspares := hg.spares_bindStep ht hs hj
    exact .inl ⟨hspares.consumers.symm.trans hk, hspares.registry⟩

theorem UnbindStep.consumer {g g' : Gateway} {t : Ticket} {i : Identity} {connId : Nat}
    {stage : UnbindStage} (hs : UnbindStep g t i connId stage g') {j : Identity} {k : Consumer}
    (hk : g'.consumers.get? j = some k) :
    g.consumers.get? j = some k ∧ g'.registry.get? j = g.registry.get? j := by
  cases hs with
  | @releases c _ _ hc =>
    simp only [setCall, detached, unregistered, Table.get?_erase] at hk ⊢
    by_cases hj : j = i
    · rw [if_pos hj] at hk
      cases hk
    · rw [if_neg hj] at hk
      exact ⟨hk, if_neg hj⟩
  | forgets _ _ hc =>
    have hj : j ≠ i := by
      rintro rfl
      rw [show g.consumers.get? j = some k from hk] at hc
      cases hc
    simp only [finish, unregistered, Table.get?_erase, if_neg hj, and_true]
    exact hk
  | _ => exact ⟨hk, rfl⟩

theorem StopStep.consumer {g g' : Gateway} {t : Ticket} {is : List Identity}
    (hs : StopStep g t is g') {j : Identity} {k : Consumer} (hk : g'.consumers.get? j = some k) :
    g.consumers.get? j = some k ∧ g'.registry = g.registry := by
  cases hs with
  | none_left _ _ => exact ⟨hk, rfl⟩
  | stops _ _ _ _ =>
    rw [setCall, detached, Table.get?_erase, Option.ite_none_left_eq_some] at hk
    exact ⟨hk.2, rfl⟩

theorem ShutdownStep.consumer {g g' : Gateway} {t : Ticket} {stage : ShutdownStage}
    (hs : ShutdownStep g t stage g') {j : Identity} {k : Consumer}
    (hk : g'.consumers.get? j = some k) :
    g.consumers.get? j = some k ∧ g'.registry = g.registry := by
  cases hs with
  | begins _ hs =>
    obtain ⟨hc, hreg⟩ := hs.consumer hk
    rw [(connectionsOnly_flagged g).rest] at hc hreg
    exact ⟨hc, hreg⟩
  | goesOn is hs => exact hs.consumer hk
  | _ => exact ⟨hk, rfl⟩

theorem RelayStep.registrations {g g' : Gateway} {s : StreamId} {r : Relay}
    (hs : RelayStep g s r g') : g'.registry = g.registry ∧ g'.consumers = g.consumers := by
  cases hs with
  | @delivers d b _ =>
    have hrest := (ConnectionsOnly.forward { g with broker := b } r.identity d.payload).rest
    constructor
    · change (forward { g with broker := b } r.identity d.payload).2.registry = _
      rw [hrest]
    · change (forward { g with broker := b } r.identity d.payload).2.consumers = _
      rw [hrest]
  | loses _ =>
    rw [(ConnectionsOnly.loseSubscription g s r).rest]
    exact ⟨rfl, rfl⟩

theorem Aside.consumers {g g' : Gateway} (ha : Aside g g') : g'.consumers = g.consumers := by
  cases ha with
  | visits h => rw [h.rest]
  | prunes h =>
    have hsame : ∀ g₁ : Gateway, g₁.prune.consumers = g₁.consumers := fun _ => rfl
    rw [hsame, h.rest]
  | connects connId capacity => rfl
  | relays _ hs => exact hs.registrations.2
  | brokers _ => rfl

theorem Feeds.calm {g g' : Gateway} {s : StreamId} (hf : g'.Feeds p h s) (hcalls : g'.calls = g.calls)
    (hreg : ∀ i k, g'.registry.get? i = some k → g.registry.get? i = some k)
    (hcons : g'.consumers = g.consumers) : g.Feeds p h s := by
  cases hf with
  | opening ht => exact .opening (hcalls ▸ ht)
  | serving hk hc => exact .serving (hreg _ _ hk) (hcons ▸ hc)

theorem Feeds.aside {g g' : Gateway} {s : StreamId} (hf : g'.Feeds p h s) (ha : Aside g g') :
    g.Feeds p h s :=
  hf.calm ha.calls (fun _ _ hk => ha.registry hk) ha.consumers

/-- A call that has just been started has declared nothing yet. -/
theorem Feeds.start {g : Gateway} {c : Call} {s : StreamId} (hf : (g.start c).2.Feeds p h s)
    (hc : c.declared? = none) : g.Feeds p h s := by
  cases hf with
  | opening ht =>
    rw [calls_start] at ht
    split at ht
    · cases ht
      cases hc
    · exact .opening ht
  | serving hreg hc => exact .serving hreg hc

/-- What feeds a connection after a step of a call has fed it before, unless the step is that of its bind
that declares the queue. -/
theorem Consistent.feeds_callStep {g g' : Gateway} (hg : g.Consistent) {t : Ticket} {c : Call}
    (ht : g.calls.get? t = some c) (hs : CallStep g t c g') {s : StreamId} (hf : g'.Feeds p h s) :
    g.Feeds p h s ∨ c = .bind p h (.opening .declaring) ∧
      g'.calls.get? t = some (.bind p h (.opening (.declared (.ok s)))) ∧
      g.broker.subscribe (p.binding g.exchange) = (.ok s, g'.broker) := by
  cases hf with
  | @opening u s hu =>
    obtain ⟨d, hcalls, -, hd⟩ := hs.moves.calls
    have hget := hcalls u
    rw [hu] at hget
    by_cases he : u = t
    · subst he
      rw [if_pos rfl] at hget
      cases hget
      right
      cases hs with
      | bind hs =>
        obtain ⟨⟨rfl, rfl, rfl⟩, hsubscribe⟩ := hs.declares_of_declared hu
        exact ⟨rfl, hu, hsubscribe⟩
      | _ =>
        rcases hd with hd | ⟨o, ⟨⟩⟩
        cases hd
    · rw [if_neg he] at hget
      exact .inl (.opening hget.symm)
  | serving hreg hc =>
    left
    cases hs with
    | @bind q b _ _ hs =>
      rcases hg.consumer_bindStep ht hs hc with ⟨hold, hsame⟩ | ⟨rfl, hq, hsame⟩
      · exact .serving (hsame ▸ hreg) hold
      · cases Principal.identity_injective hq
        obtain ⟨hreg', -⟩ := (hg.each p.identity).busy t _ ht rfl
        rw [hsame, hreg'] at hreg
        cases hreg
        exact .opening ht
    | unbind hs =>
      obtain ⟨hold, hsame⟩ := hs.consumer hc
      exact .serving (hsame ▸ hreg) hold
    | shutdown hs =>
      obtain ⟨hold, hsame⟩ := hs.consumer hc
      exact .serving (hsame ▸ hreg) hold

/-- What feeds a connection after an action that lets no call go on has fed it before. -/
theorem Feeds.act {g g' : Gateway} {s : StreamId} (hf : g'.Feeds p h s) {a : Action}
    (ha : g.act? a = some g') (hno : ∀ t, a ≠ .advance t) : g.Feeds p h s := by
  have hasked : ∀ {c : Call} {i : Identity}, ((g.start c).2.askLock g.nextTicket i).Feeds p h s →
      c.declared? = none → g.Feeds p h s := by
    intro c i hf hc
    have hstarted : (g.start c).2.Feeds p h s := hf.calm rfl (fun _ _ hk => hk) rfl
    exact hstarted.start hc
  cases a with
  | bind q k =>
    obtain ⟨-, ha⟩ := Option.ite_none_right_eq_some.mp ha
    cases ha
    exact hasked hf rfl
  | unbind i connId => cases ha; exact hasked hf rfl
  | shutdown => cases ha; exact hf.start rfl
  | advance t => exact absurd rfl (hno t)
  | _ => exact hf.aside (aside_of_act ha rfl)

/-- What feeds a connection has fed it before, or is empty. -/
theorem Consistent.feeds_back {g g' : Gateway} {a : Action} (hg : g.Consistent)
    (ha : g.act? a = some g') {s : StreamId} (hf : g'.Feeds p h s) :
    g.Feeds p h s ∨ g'.broker.waitingAt s = [] := by
  rcases hg.act_cases ha with ⟨t, c, -, ht, hs⟩ | hno
  · refine (hg.feeds_callStep ht hs hf).imp_right fun ⟨_, _, hsubscribe⟩ => ?_
    have hempty := Broker.waitingAt_subscribe (congrArg Prod.fst hsubscribe)
    rwa [hsubscribe] at hempty
  · exact .inl (hf.act ha hno)

/-! ## What the connection has been fed -/

/-- What was put into an outbox, and what may still be, was published before. -/
structure Feeding (g : Gateway) (p : Principal) (h : Handle) (got sent : List Bytes) : Prop where
  fed : got.Sublist sent
  waiting : ∀ s, g.Feeds p h s → (got ++ g.broker.waitingAt s).Sublist sent

variable {got sent : List Bytes}

theorem Feeding.drain {g g' : Gateway} (hf : g.Feeding p h got sent)
    (hdrains : g.broker.Drains g'.broker)
    (hback : ∀ s, g'.Feeds p h s → g.Feeds p h s ∨ g'.broker.waitingAt s = []) :
    g'.Feeding p h got sent where
  fed := hf.fed
  waiting s hs := by
    rcases hback s hs with hs | hempty
    · exact ((hdrains s).append_left got).trans (hf.waiting s hs)
    · rw [hempty, List.append_nil]
      exact hf.fed

theorem Feeding.publish {g : Gateway} (hf : g.Feeding p h got sent) (hg : g.Consistent)
    {exchange : String} (howned : g.broker.Owned exchange) (e : Post) :
    Feeding { g with broker := (g.broker.publish e.exchange e.key e.payload).2 } p h got
      (sent ++ (p.binding exchange).received (g.broker.accepted e)) where
  fed := hf.fed.trans (List.sublist_append_left _ _)
  waiting s hs := by
    have hs : g.Feeds p h s := by
      cases hs with
      | opening ht => exact .opening ht
      | serving hreg hc => exact .serving hreg hc
    have hown : ∀ x, g.broker.queues.get? (p.binding exchange).queue = some x →
        x.1 = p.binding exchange := fun x hx => howned.binding hg.broker hx
    have hmore := hg.broker.waitingAt_publish hown (hg.queue_of_feeds hs) e
    have hall := hmore.append_left got
    rw [← List.append_assoc] at hall
    exact hall.trans ((hf.waiting s hs).append_right _)

theorem Feeding.deliver {g g' : Gateway} (hf : g.Feeding p h got sent) (hg : g.Consistent)
    {s : StreamId} {r : Relay} {d : Delivery} {b : Broker} (ha : g.act? (.relay s) = some g')
    (hr : g.relays.get? s = some r) (hi : r.identity = p.identity)
    (hreg : g.registry.get? p.identity = some h) (hnext : g.broker.next s = (.delivery d, b)) :
    g'.Feeding p h (got ++ [d.payload]) sent := by
  obtain ⟨r', hr', hs⟩ := relayStep_of_step ha
  cases hr.symm.trans hr'
  obtain ⟨-, ⟨c, hc, rfl⟩, -⟩ := (hg.each p.identity).relayed s r hr hi
  have hwhole := hf.waiting c.stream (.serving hreg hc)
  rw [Broker.waitingAt_next hnext, List.append_cons] at hwhole
  have hbroker : g'.broker.waitingAt c.stream = b.waitingAt c.stream := by
    rcases hs.broker with ⟨d', b', hnext', he⟩ | ⟨hended, -⟩
    · cases hnext.symm.trans hnext'
      rw [he]
      rfl
    · rw [hnext] at hended
      cases hended
  refine ⟨(List.sublist_append_left _ _).trans hwhole, fun u hu => ?_⟩
  have hstream : u = c.stream := by
    cases hu with
    | @opening t u ht =>
      rw [(SameCalls.relayStep hs).calls] at ht
      rw [(hg.each p.identity).no_consumer ht rfl] at hc
      cases hc
    | serving _ hc' =>
      rw [hs.registrations.2, hc] at hc'
      cases hc'
      rfl
  rw [hstream, hbroker]
  exact hwhole

end LocationRelay.Gateway
