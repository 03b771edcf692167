import LocationRelay.Proofs.Delivery

/-! # Subscriptions

A record is kept of the queues that the broker opens in a run: for which bind, to be read through which
stream, and for whom, namely for the connection that is registered at that moment. A bind opens a queue once,
no stream is given out twice, and what feeds a connection is always the stream of its own queue.
-/
namespace LocationRelay

namespace Broker

theorem subscribe_eq_ok {b b' : Broker} {x : Binding} {s : StreamId}
    (h : b.subscribe x = (.ok s, b')) : s = b.fresh ∧ b' = b.declared x := by
  unfold subscribe at h
  split at h
  · cases h
  · split at h
    · cases h
    · split at h <;> cases h
      exact ⟨rfl, rfl⟩

/-- No queue appears that is read through an old stream. -/
structure Adds (b b' : Broker) : Prop where
  fresh : b.fresh ≤ b'.fresh
  queues : ∀ q x s, b'.queues.get? q = some (x, s) → b.queues.get? q = some (x, s) ∨ b.fresh ≤ s

theorem Adds.refl (b : Broker) : b.Adds b := ⟨Nat.le_refl _, fun _ _ _ h => .inl h⟩

theorem Adds.unsubscribe (b : Broker) (q : String) : b.Adds (b.unsubscribe q) := by
  refine ⟨Nat.le_of_eq (fresh_unsubscribe b q).symm, fun r x s h => ?_⟩
  rw [queues_unsubscribe] at h
  split at h
  · cases h
  · exact .inl h

theorem Adds.close (b : Broker) : b.Adds b.close :=
  ⟨Nat.le_refl _, fun _ _ _ h => by cases h⟩

theorem Adds.declared (b : Broker) (x : Binding) : b.Adds (b.declared x) := by
  refine ⟨Nat.le_succ _, fun q y s h => ?_⟩
  simp only [Broker.declared, Table.get?_insert] at h
  split at h
  · cases h
    exact .inr (Nat.le_refl _)
  · exact .inl h

theorem Adds.subscribe (b : Broker) (x : Binding) : b.Adds (b.subscribe x).2 := by
  unfold Broker.subscribe
  split
  · exact .refl b
  · split
    · exact .refl b
    · split
      · exact .refl b
      · exact .declared b x

theorem Used.adds {exchange : String} {b b' : Broker} (h : b.Used exchange b') : b.Adds b' := by
  cases h with
  | leaves => exact .refl b
  | discards s => exact ⟨Nat.le_refl _, fun _ _ _ h => .inl h⟩
  | unsubscribes q => exact .unsubscribe b q
  | subscribes p => exact .subscribe b _
  | closes => exact .close b

theorem Refills.adds {b b' : Broker} (h : b.Refills b') : b.Adds b' :=
  ⟨Nat.le_of_eq h.fresh.symm, fun _ _ _ hq => .inl (h.queues ▸ hq)⟩

end Broker

/-- A queue that the broker has opened: for which bind, to be read through which stream, and for which
connection, the one that was registered for the identity at that moment. -/
structure Subscription where
  ticket : Ticket
  stream : StreamId
  identity : Identity
  owner : Handle

namespace Gateway

def subscribed (g : Gateway) : Action → List Subscription
  | .advance t =>
    match g.calls.get? t with
    | some (.bind p _ (.opening .declaring)) =>
      match (g.broker.subscribe (p.binding g.exchange)).1 with
      | .ok s => (g.registry.get? p.identity).toList.map fun h => ⟨t, s, p.identity, h⟩
      | .error _ => []
    | _ => []
  | _ => []

def Stands (g : Gateway) (e : Subscription) : Prop :=
  ∃ x, g.broker.queues.get? e.identity.text = some (x, e.stream)

variable {g g' : Gateway} {t : Ticket} {c : Call} {p : Principal} {h : Handle}

theorem Happening.adds (hstep : g.Happening g') : g.broker.Adds g'.broker := by
  cases hstep with
  | aside ha =>
    cases ha with
    | visits hv => rw [hv.rest]; exact .refl _
    | prunes hv => rw [hv.rest]; exact .refl _
    | connects connId capacity => exact .refl _
    | @relays s _ _ _ hs =>
      rcases hs.broker with ⟨d, b, hnext, he⟩ | ⟨-, he⟩ <;> rw [he]
      · exact ((Broker.refills_next hnext).ack d).adds
      · have hused : g.broker.Used g.exchange (g.broker.discard s) := .discards s
        exact hused.adds
    | brokers hb =>
      cases hb with
      | publishes exchange key payload => exact (g.broker.refills_publish exchange key payload).adds
      | refuses on => exact ⟨Nat.le_refl _, fun _ _ _ hq => .inl hq⟩
      | loses queue => exact .unsubscribe _ queue
      | closes => exact .close _
  | goesOn _ hs => exact hs.used.adds
  | _ => exact .refl _

/-- A queue that is gone does not come back with the same stream. -/
theorem Happening.not_stands {e : Subscription} (hstep : g.Happening g')
    (hmade : e.stream < g.broker.fresh) (hgone : ¬ g.Stands e) : ¬ g'.Stands e := by
  rintro ⟨x, hx⟩
  rcases hstep.adds.queues _ x _ hx with hq | hnew
  · exact hgone ⟨x, hq⟩
  · exact Nat.not_le_of_lt hmade hnew

/-- A queue that has just been opened is there. -/
theorem stands_of_subscribed {e : Subscription} (hs : CallStep g t c g') (ht : g.calls.get? t = some c)
    (he : e ∈ subscribed g (.advance t)) : g'.Stands e := by
  simp only [subscribed, ht] at he
  split at he
  · next p k hc =>
    cases hc
    split at he
    · next s hok =>
      obtain ⟨h, -, rfl⟩ := List.mem_map.mp he
      have hopened : g.broker.subscribe (p.binding g.exchange) =
          (.ok s, (g.broker.subscribe (p.binding g.exchange)).2) := Prod.ext hok rfl
      obtain ⟨rfl, hb⟩ := Broker.subscribe_eq_ok hopened
      cases hs with
      | bind hs =>
        cases hs with
        | declares =>
          refine ⟨p.binding g.exchange, ?_⟩
          change (g.broker.subscribe (p.binding g.exchange)).2.queues.get? _ = _
          rw [hb]
          exact (Table.get?_insert _ _ _ _).trans (if_pos rfl)
    · cases he
  · cases he

/-! ## The record of a run -/

inductive Answered (g : Gateway) (t : Ticket) (s : StreamId) : Prop
  | declared {p : Principal} {h : Handle}
      (ht : g.calls.get? t = some (.bind p h (.opening (.declared (.ok s)))))
  | retracting {p : Principal} {h : Handle} {x : Binding} (hdown : g.shuttingDown = true)
      (ht : g.calls.get? t = some (.bind p h (.retracting x)))
  | retracted {p : Principal} {h : Handle} (hdown : g.shuttingDown = true)
      (ht : g.calls.get? t = some (.bind p h .retracted))
  | ended {o : Outcome} (ht : g.calls.get? t = some (.done o))

/-- A bind that still waits has been told nothing. -/
theorem Answered.not_waiting {s : StreamId} (ha : g.Answered t s)
    (ht : g.calls.get? t = some (.bind p h .waiting)) : False := by
  cases ha <;> next hu => cases ht.symm.trans hu

theorem Answered.happening {s : StreamId} (ha : g.Answered t s) (hg : g.Consistent)
    (hstep : g.Happening g') : g'.Answered t s := by
  have hgrows := Grows.happening hg.locking hg.handled hstep
  cases ha with
  | @declared p h ht =>
    rcases hstep.stays hg.locking ht with ht' | hs
    · exact .declared ht'
    · cases hs with
      | bind hs =>
        cases hs with
        | succeeds _ _ => exact .ended ((calls_finish _ _ _ _).trans (if_pos rfl))
        | retracts _ hdown =>
          exact .retracting (hgrows.shuttingDown hdown) ((calls_setCall _ _ _ _).trans (if_pos rfl))
  | retracting hdown ht =>
    rcases hstep.stays hg.locking ht with ht' | hs
    · exact .retracting (hgrows.shuttingDown hdown) ht'
    · cases hs with
      | bind hs =>
        cases hs with
        | retracted _ =>
          exact .retracted (hgrows.shuttingDown hdown) ((calls_setCall _ _ _ _).trans (if_pos rfl))
  | retracted hdown ht =>
    rcases hstep.stays hg.locking ht with ht' | hs
    · exact .retracted (hgrows.shuttingDown hdown) ht'
    · cases hs with
      | bind hs =>
        cases hs with
        | gaveUp => exact .ended ((calls_finish _ _ _ _).trans (if_pos rfl))
  | ended ht => exact .ended (hgrows.done _ _ ht)

/-- What the record of a run, with the binds that it has asked for, has to do with the gateway that the run
has come to. -/
structure Recorded (g : Gateway) (asks : List (Ticket × Principal × Handle))
    (log : List Subscription) : Prop where
  made : ∀ e ∈ log, e.stream < g.broker.fresh
  bound : ∀ e ∈ log, ∃ p, (e.ticket, p, e.owner) ∈ asks ∧ p.identity = e.identity
  answered : ∀ e ∈ log, g.Answered e.ticket e.stream
  tickets : (log.map Subscription.ticket).Nodup
  streams : (log.map Subscription.stream).Nodup
  feeds : ∀ p h s, g.Feeds p h s →
    ∃ e ∈ log, e.stream = s ∧ e.identity = p.identity ∧ e.owner = h

variable {asks asks' : List (Ticket × Principal × Handle)} {log : List Subscription}

theorem Recorded.still (hr : g.Recorded asks log) (hg : g.Consistent) (hstep : g.Happening g')
    (hsub : asks ⊆ asks') (hfeeds : ∀ p h s, g'.Feeds p h s → g.Feeds p h s) :
    g'.Recorded asks' log where
  made e he := Nat.lt_of_lt_of_le (hr.made e he) hstep.adds.fresh
  bound e he := by
    obtain ⟨p, hp, hi⟩ := hr.bound e he
    exact ⟨p, hsub hp, hi⟩
  answered e he := (hr.answered e he).happening hg hstep
  tickets := hr.tickets
  streams := hr.streams
  feeds p h s hf := hr.feeds p h s (hfeeds p h s hf)

/-- A bind whose queue is opened has not had one opened before. -/
theorem Recorded.declares (hr : g.Recorded asks log) (hg : g.Consistent) (hl : g.Ledger asks)
    (ht : g.calls.get? t = some (.bind p h (.opening .declaring)))
    (hs : BindStep g t p h (.opening .declaring) g') {s : StreamId} {b : Broker}
    (hok : g.broker.subscribe (p.binding g.exchange) = (.ok s, b)) :
    g'.Recorded asks (log ++ [⟨t, s, p.identity, h⟩]) := by
  have hstep : g.Happening g' := .goesOn ht (.bind hs)
  obtain ⟨rfl, rfl⟩ := Broker.subscribe_eq_ok hok
  have hbroker : g'.broker = g.broker.declared (p.binding g.exchange) := by
    cases hs
    exact congrArg Prod.snd hok
  have hanswered : g'.calls.get? t = some (.bind p h (.opening (.declared (.ok g.broker.fresh)))) := by
    cases hs
    rw [calls_setCall, if_pos rfl]
    exact congrArg (fun a => some (Call.bind p h (.opening (.declared a)))) (congrArg Prod.fst hok)
  have hnew : ∀ {P : Subscription → Prop}, (∀ e ∈ log, P e) → P ⟨t, g.broker.fresh, p.identity, h⟩ →
      ∀ e ∈ log ++ [⟨t, g.broker.fresh, p.identity, h⟩], P e := by
    intro P hold hlast e he
    rcases List.mem_append.mp he with he | he
    · exact hold e he
    · rw [List.mem_singleton.mp he]
      exact hlast
  refine ⟨hnew ?_ ?_, hnew hr.bound ⟨p, hl.calls t p h _ ht, rfl⟩, hnew ?_ (.declared hanswered), ?_, ?_,
    fun q k r hf => ?_⟩
  · exact fun e he => Nat.lt_of_lt_of_le (hr.made e he) hstep.adds.fresh
  · rw [hbroker]
    exact Nat.lt_succ_self _
  · exact fun e he => (hr.answered e he).happening hg hstep
  · rw [List.map_append]
    refine hr.tickets.append (List.nodup_singleton t) (List.disjoint_singleton.mpr fun hmem => ?_)
    obtain ⟨e, he, hticket⟩ := List.mem_map.mp hmem
    have hanswer := hr.answered e he
    rw [hticket] at hanswer
    cases hanswer <;> next hu => cases ht.symm.trans hu
  · rw [List.map_append]
    refine hr.streams.append (List.nodup_singleton _) (List.disjoint_singleton.mpr fun hmem => ?_)
    obtain ⟨e, he, hstream⟩ := List.mem_map.mp hmem
    exact Nat.ne_of_lt (hr.made e he) hstream
  · rcases hg.feeds_callStep ht (.bind hs) hf with hf | ⟨hc, -, hsame⟩
    · obtain ⟨e, he, hfed⟩ := hr.feeds q k r hf
      exact ⟨e, List.mem_append_left _ he, hfed⟩
    · cases hc
      refine ⟨_, List.mem_append_right _ (List.mem_singleton.mpr rfl), ?_, rfl, rfl⟩
      exact (Broker.subscribe_eq_ok hsame).1.symm

theorem Recorded.callStep (hr : g.Recorded asks log) (hg : g.Consistent) (hl : g.Ledger asks)
    (ht : g.calls.get? t = some c) (hs : CallStep g t c g') :
    g'.Recorded asks (log ++ subscribed g (.advance t)) := by
  by_cases hopens : ∃ p h s b, c = .bind p h (.opening .declaring) ∧
      g.broker.subscribe (p.binding g.exchange) = (.ok s, b)
  · obtain ⟨p, h, s, b, rfl, hok⟩ := hopens
    obtain ⟨hreg, -⟩ := (hg.each p.identity).busy t _ ht rfl
    have hnew : subscribed g (.advance t) = [⟨t, s, p.identity, h⟩] := by
      simp [subscribed, ht, hok, hreg]
    rw [hnew]
    cases hs with
    | bind hs => exact hr.declares hg hl ht hs hok
  · have hnone : subscribed g (.advance t) = [] := by
      simp only [subscribed, ht]
      split
      · next p k he =>
        split
        · next s hok => exact absurd ⟨p, k, s, _, Option.some.inj he, Prod.ext hok rfl⟩ hopens
        · rfl
      · rfl
    rw [hnone, List.append_nil]
    refine hr.still hg (.goesOn ht hs) (List.Subset.refl asks) fun p h s hf => ?_
    exact (hg.feeds_callStep ht hs hf).resolve_right fun ⟨hc, _, hok⟩ => hopens ⟨p, h, s, _, hc, hok⟩

theorem Recorded.act (hr : g.Recorded asks log) (hg : g.Consistent) (hl : g.Ledger asks) {a : Action}
    (ha : g.act? a = some g') : g'.Recorded (asks ++ asked g a) (log ++ subscribed g a) := by
  have hstep := happening_of_act ha hg.locking.isPublic
  cases a with
  | advance t =>
    obtain ⟨c, ht, hs⟩ := callStep_of_step ha (hg.locking.isPublic t)
    rw [show asked g (.advance t) = [] from rfl, List.append_nil]
    exact hr.callStep hg hl ht hs
  | _ =>
    rw [show subscribed g _ = [] from rfl, List.append_nil]
    exact hr.still hg hstep (List.subset_append_left _ _) fun p h s hf =>
      hf.act ha fun _ => by rintro ⟨⟩

variable {exchange : String} {refusing : Bool} {as : List Action}

theorem recorded_of_run (hrun : run { exchange, broker := { refusing } } as = some g) :
    g.Recorded (noted asked { exchange, broker := { refusing } } as)
      (noted subscribed { exchange, broker := { refusing } } as) := by
  refine run_induction (P := fun as g => g.Recorded (noted asked { exchange, broker := { refusing } } as)
    (noted subscribed { exchange, broker := { refusing } } as))
    ⟨List.forall_mem_nil _, List.forall_mem_nil _, List.forall_mem_nil _, List.nodup_nil, List.nodup_nil,
      fun p h s hf => ?_⟩ (fun as g a g' has ih ha => ?_) hrun
  · cases hf with
    | opening ht => cases ht
    | serving hreg _ => cases hreg
  · rw [noted_snoc _ has, noted_snoc _ has]
    exact ih.act ((consistent_fresh exchange refusing).run has) (ledger_of_run has) ha

end Gateway
end LocationRelay
