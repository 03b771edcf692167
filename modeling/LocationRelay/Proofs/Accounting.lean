import LocationRelay.Proofs.BrokerUse

/-! # Every delivery is accounted for

What a publish puts into a stream stays there, in its order, until it is read or the stream is dropped.
Deliveries are noted down together with the stream they were put into, so that a list of them tells, for
each stream and in order, what became of what went in. A change of the broker balances when what waited
before and what came make up what was read, what was lost and what waits afterwards.
-/
namespace LocationRelay

open Text (Bytes)

def onStream (s : StreamId) (es : List (StreamId × Delivery)) : List Delivery :=
  es.filterMap fun e => if e.1 = s then some e.2 else none

def countFor (queue : String) (es : List (StreamId × Delivery)) : Nat :=
  es.countP fun e => e.2.queue = queue

@[simp] theorem onStream_nil (s : StreamId) : onStream s [] = [] := rfl

@[simp] theorem onStream_append (s : StreamId) (es fs : List (StreamId × Delivery)) :
    onStream s (es ++ fs) = onStream s es ++ onStream s fs := List.filterMap_append

@[simp] theorem onStream_singleton (s r : StreamId) (d : Delivery) :
    onStream s [(r, d)] = if r = s then [d] else [] := by
  simp only [onStream, List.filterMap_cons, List.filterMap_nil]
  split <;> simp_all

@[simp] theorem countFor_nil (q : String) : countFor q [] = 0 := rfl

@[simp] theorem countFor_append (q : String) (es fs : List (StreamId × Delivery)) :
    countFor q (es ++ fs) = countFor q es + countFor q fs := List.countP_append

theorem mem_onStream {s : StreamId} {d : Delivery} {es : List (StreamId × Delivery)} :
    d ∈ onStream s es ↔ (s, d) ∈ es := by
  simp [onStream]

theorem count_onStream (s : StreamId) (d : Delivery) (es : List (StreamId × Delivery)) :
    (onStream s es).count d = es.count (s, d) := by
  rw [onStream, List.count, List.countP_filterMap, List.count]
  refine List.countP_congr fun e _ => ?_
  obtain ⟨r, x⟩ := e
  by_cases hr : r = s <;> simp [hr]

/-- Two lists that agree on every stream hold the same deliveries. -/
theorem perm_of_onStream {es fs : List (StreamId × Delivery)}
    (h : ∀ s, onStream s es = onStream s fs) : es.Perm fs :=
  List.perm_iff_count.mpr fun e => by rw [← count_onStream, h, count_onStream]

def inStreams (streams : Table StreamId Stream) : List (StreamId × Delivery) :=
  streams.entries.flatMap fun e => e.2.waiting.map fun d => (e.1, d)

/-- What is put together from the entry of one key only. -/
theorem Table.flatMap_entries {K V B : Type} [DecidableEq K] (t : Table K V) {k : K}
    {f : K × V → List B} (hf : ∀ e ∈ t.entries, e.1 ≠ k → f e = []) :
    t.entries.flatMap f = (t.get? k).elim [] fun v => f (k, v) := by
  have hjoin : ∀ es : List (K × V), (∀ e ∈ es, e.1 ≠ k → f e = []) →
      es.flatMap f = (es.filterMap fun e => if e.1 = k then some (f e) else none).flatten := by
    intro es
    induction es with
    | nil => exact fun _ => rfl
    | cons e es ih =>
      intro hes
      obtain ⟨he, hes⟩ := List.forall_mem_cons.mp hes
      rw [List.flatMap_cons, List.filterMap_cons, ih hes]
      by_cases hk : e.1 = k
      · simp [hk]
      · simp [hk, he hk]
  rw [hjoin _ hf, t.filterMap_entries (k := k) fun e _ hne => if_neg hne]
  cases t.get? k <;> simp

theorem onStream_inStreams (streams : Table StreamId Stream) (s : StreamId) :
    onStream s (inStreams streams) = (streams.get? s).elim [] Stream.waiting := by
  rw [inStreams, onStream, List.filterMap_flatMap,
    streams.flatMap_entries (k := s) fun e _ hne => by simp [List.filterMap_map, hne]]
  cases streams.get? s <;> simp [List.filterMap_map]

namespace Broker

def deliveriesAt (b : Broker) (s : StreamId) : List Delivery :=
  (b.streams.get? s).elim [] Stream.waiting

def heldFor (b : Broker) (queue : String) : Nat :=
  b.streams.entries.foldr (fun e n => (if e.2.queue = queue then e.2.waiting.length else 0) + n) 0

/-- What waits in the streams that one broker has and the other has not any more. -/
def lost (b b' : Broker) : List (StreamId × Delivery) :=
  inStreams (b.streams.filter fun s _ => !b'.streams.contains s)

def intake (b : Broker) (exchange key : String) (payload : Bytes) : List (StreamId × Delivery) :=
  if b.closed then []
  else
    b.queues.entries.filterMap fun (_, x, s) =>
      if x.reached exchange key && b.streams.contains s then some (s, ⟨x.queue, key, payload⟩) else none

theorem onStream_lost (b b' : Broker) (s : StreamId) :
    onStream s (b.lost b') = if (b'.streams.get? s).isSome then [] else b.deliveriesAt s := by
  rw [lost, onStream_inStreams, Table.get?_filter, deliveriesAt, Table.contains]
  cases b.streams.get? s <;> cases b'.streams.get? s <;> rfl

theorem mem_deliveriesAt {b : Broker} {s : StreamId} {d : Delivery} :
    d ∈ b.deliveriesAt s ↔ ∃ st, b.streams.get? s = some st ∧ d ∈ st.waiting := by
  unfold deliveriesAt
  cases b.streams.get? s <;> simp

theorem mem_lost {b b' : Broker} {s : StreamId} {d : Delivery} :
    (s, d) ∈ b.lost b' ↔ d ∈ b.deliveriesAt s ∧ b'.streams.get? s = none := by
  rw [← mem_onStream, onStream_lost]
  cases b'.streams.get? s <;> simp

theorem onStream_intake (b : Broker) (exchange key : String) (payload : Bytes) (s : StreamId) :
    onStream s (b.intake exchange key payload) =
      if b.closed || (b.streams.get? s).isNone then []
      else arrivals exchange key payload s (b.queues.entries.map Prod.snd) := by
  rw [intake]
  cases b.closed with
  | true => rfl
  | false =>
    rw [if_neg Bool.false_ne_true, onStream, List.filterMap_filterMap, arrivals, List.filterMap_map]
    cases hs : b.streams.get? s with
    | none =>
      refine List.filterMap_eq_nil_iff.mpr fun e _ => ?_
      obtain ⟨q, x, r⟩ := e
      by_cases hr : r = s
      · simp [hr, Table.contains, hs]
      · by_cases hx : x.reached exchange key && b.streams.contains r <;> simp [hx, hr]
    | some st =>
      refine List.filterMap_congr fun e _ => ?_
      obtain ⟨q, x, r⟩ := e
      by_cases hr : r = s
      · by_cases hx : x.reached exchange key <;> simp [hr, hx, Table.contains, hs]
      · by_cases hx : x.reached exchange key && b.streams.contains r <;> simp [hx, hr]

theorem ackedFor_ack (b : Broker) (d : Delivery) (q : String) :
    (b.ack d).ackedFor q = b.ackedFor q + if d.queue = q then 1 else 0 := by
  simp only [ackedFor, ack, Table.get?_insert]
  by_cases h : q = d.queue
  · simp [h]
  · simp [h, Ne.symm h]

/-- A delivery that waits carries the name of the queue that its stream reads. -/
def Stamped (b : Broker) : Prop :=
  ∀ s st, b.streams.get? s = some st → ∀ d ∈ st.waiting, d.queue = st.queue

theorem Stamped.heldFor_eq {b : Broker} (hb : b.Stamped) (q : String) :
    b.heldFor q = countFor q (inStreams b.streams) := by
  have hone : ∀ e ∈ b.streams.entries, countFor q (e.2.waiting.map fun d => (e.1, d)) =
      if e.2.queue = q then e.2.waiting.length else 0 := by
    intro e he
    have hall := hb e.1 e.2 (b.streams.mem_entries_iff.mp he)
    rw [countFor, List.countP_map]
    split
    · next hq => exact List.countP_eq_length.mpr fun d hd => by simpa [hq] using hall d hd
    · next hq => exact List.countP_eq_zero.mpr fun d hd => by simpa [hall d hd] using hq
  rw [heldFor, inStreams]
  revert hone
  induction b.streams.entries with
  | nil => exact fun _ => rfl
  | cons e es ih =>
    intro hone
    obtain ⟨he, hes⟩ := List.forall_mem_cons.mp hone
    rw [List.foldr_cons, List.flatMap_cons, countFor_append, he, ih hes]

/-! ## Changes that put nothing in and read nothing -/

/-- No stream gets anything new and none is read: a stream that is still there holds what it held, and a
stream that was not there before is a new and empty one. -/
structure Keeps (b b' : Broker) : Prop where
  streams : ∀ s st', b'.streams.get? s = some st' →
    (∃ st, b.streams.get? s = some st ∧ st.queue = st'.queue ∧ st.waiting = st'.waiting) ∨
      b.streams.get? s = none ∧ b.fresh ≤ s ∧ st'.waiting = []
  fresh : b.fresh ≤ b'.fresh
  acked : b'.acked = b.acked

theorem Keeps.of_streams {b b' : Broker} (hs : b'.streams = b.streams) (hf : b'.fresh = b.fresh)
    (ha : b'.acked = b.acked) : b.Keeps b' :=
  ⟨fun _ st hst => .inl ⟨st, hs ▸ hst, rfl, rfl⟩, Nat.le_of_eq hf.symm, ha⟩

theorem Keeps.refl (b : Broker) : b.Keeps b := .of_streams rfl rfl rfl

theorem Keeps.discard (b : Broker) (s : StreamId) : b.Keeps (b.discard s) := by
  refine ⟨fun r st hr => ?_, Nat.le_refl _, rfl⟩
  rw [Broker.discard, Table.get?_erase, Option.ite_none_left_eq_some] at hr
  exact .inl ⟨st, hr.2, rfl, rfl⟩

theorem Keeps.of_unfed {b b' : Broker}
    (hs : ∀ s, b'.streams.get? s = b.streams.get? s ∨
      b'.streams.get? s = (b.streams.get? s).map fun st => { st with fed := false })
    (hf : b'.fresh = b.fresh) (ha : b'.acked = b.acked) : b.Keeps b' := by
  refine ⟨fun s st' hst => .inl ?_, Nat.le_of_eq hf.symm, ha⟩
  rcases hs s with h | h <;> rw [h] at hst
  · exact ⟨st', hst, rfl, rfl⟩
  · obtain ⟨st, hget, rfl⟩ := Option.map_eq_some_iff.mp hst
    exact ⟨st, hget, rfl, rfl⟩

theorem Keeps.unsubscribe (b : Broker) (q : String) : b.Keeps (b.unsubscribe q) := by
  refine .of_unfed (fun s => (streams_unsubscribe b q s).imp_right And.right)
    (fresh_unsubscribe b q) ?_
  unfold Broker.unsubscribe
  split <;> rfl

theorem Keeps.close (b : Broker) : b.Keeps b.close :=
  .of_unfed (fun s => (streams_close b s).imp And.right And.right) rfl rfl

theorem Sound.keeps_subscribe {b : Broker} (hb : b.Sound) (x : Binding) :
    b.Keeps (b.subscribe x).2 := by
  unfold Broker.subscribe
  split
  · exact .refl b
  · split
    · exact .refl b
    · split
      · exact .refl b
      · refine ⟨fun s st hs => ?_, Nat.le_succ _, rfl⟩
        simp only [Table.get?_insert] at hs
        split at hs
        · next he =>
          cases hs
          have habsent : b.streams.get? s = none := by
            refine Option.eq_none_iff_forall_ne_some.mpr fun st hst => ?_
            exact Nat.ne_of_lt (hb.fed s st hst).1 he
          exact .inr ⟨habsent, Nat.le_of_eq he.symm, rfl⟩
        · exact .inl ⟨st, hs, rfl, rfl⟩

/-- Declaring a queue leaves every stream that exists. -/
theorem Sound.queueOf_subscribe {b : Broker} (hb : b.Sound) (x : Binding) {s : StreamId} {q : String}
    (hs : b.queueOf? s = some q) : (b.subscribe x).2.queueOf? s = some q := by
  unfold Broker.subscribe
  split
  · exact hs
  · split
    · exact hs
    · split
      · exact hs
      · have hne := Nat.ne_of_lt (hb.lt_of_queueOf hs)
        simpa only [queueOf?, Table.get?_insert, if_neg hne] using hs

theorem Used.keeps {exchange : String} {b b' : Broker} (h : b.Used exchange b') (hb : b.Sound) :
    b.Keeps b' := by
  cases h with
  | leaves => exact .refl b
  | discards s => exact .discard b s
  | unsubscribes q => exact .unsubscribe b q
  | subscribes p => exact hb.keeps_subscribe _
  | closes => exact .close b

/-! ## Balance -/

/-- A change of the broker, with what came into its streams and what was read and acknowledged. -/
structure Balances (b b' : Broker) (came read : List (StreamId × Delivery)) : Prop where
  streams : ∀ s, b.deliveriesAt s ++ onStream s came =
    onStream s read ++ onStream s (b.lost b') ++ b'.deliveriesAt s
  acked : ∀ q, b'.ackedFor q = b.ackedFor q + countFor q read
  present : ∀ e ∈ read, b.streams.get? e.1 ≠ none
  fresh : b.fresh ≤ b'.fresh
  /-- The number of a stream is not used again. -/
  gone : ∀ s, s < b.fresh → b.streams.get? s = none → b'.streams.get? s = none
  stamped : b.Stamped → b'.Stamped

theorem Keeps.balances {b b' : Broker} (h : b.Keeps b') : b.Balances b' [] [] where
  streams s := by
    rw [onStream_nil, List.append_nil, List.nil_append, onStream_lost]
    cases hs : b'.streams.get? s with
    | none => simp [deliveriesAt, hs]
    | some st' =>
      rcases h.streams s st' hs with ⟨st, hst, -, hw⟩ | ⟨hnone, -, hw⟩
      · simp [deliveriesAt, hs, hst, hw]
      · simp [deliveriesAt, hs, hnone, hw]
  acked q := by rw [ackedFor, h.acked, countFor_nil, Nat.add_zero, ackedFor]
  present e he := by cases he
  fresh := h.fresh
  gone s hlt hnone := by
    refine Option.eq_none_iff_forall_ne_some.mpr fun st' hs => ?_
    rcases h.streams s st' hs with ⟨st, hst, -⟩ | ⟨-, hle, -⟩
    · rw [hnone] at hst
      cases hst
    · exact Nat.not_le_of_lt hlt hle
  stamped hb s st' hs d hd := by
    rcases h.streams s st' hs with ⟨st, hst, hq, hw⟩ | ⟨-, -, hw⟩
    · exact hq ▸ hb s st hst d (hw ▸ hd)
    · rw [hw] at hd
      cases hd

theorem Sound.balances_publish {b : Broker} (hb : b.Sound) (exchange key : String) (payload : Bytes) :
    b.Balances (b.publish exchange key payload).2 (b.intake exchange key payload) [] := by
  by_cases hclosed : b.closed = true
  · have hnone : b.intake exchange key payload = [] := if_pos hclosed
    have hsame : (b.publish exchange key payload).2 = b := by rw [publish, if_pos hclosed]
    rw [hnone, hsame]
    exact (Keeps.refl b).balances
  · have hopen : b.closed = false := by simpa using hclosed
    have hstreams : ∀ s, (b.publish exchange key payload).2.streams.get? s =
        (b.streams.get? s).map fun st => { st with
          waiting := st.waiting ++
            arrivals exchange key payload s (b.queues.entries.map Prod.snd) } := by
      intro s
      rw [publish, if_neg hclosed]
      exact streams_distribute ..
    refine ⟨fun s => ?_, fun q => ?_, fun e he => (by cases he),
      Nat.le_of_eq (b.refills_publish exchange key payload).fresh.symm,
      fun s _ hnone => by rw [hstreams, hnone]; rfl, fun hstamped s st' hs d hd => ?_⟩
    · rw [onStream_intake, onStream_lost, hopen, deliveriesAt, deliveriesAt, hstreams]
      cases b.streams.get? s <;> simp
    · rw [publish, if_neg hclosed]
      rfl
    · rw [hstreams] at hs
      obtain ⟨st, hst, rfl⟩ := Option.map_eq_some_iff.mp hs
      rcases List.mem_append.mp hd with hd | hd
      · exact hstamped s st hst d hd
      · -- What arrives comes from the queue of the stream.
        obtain ⟨⟨x, r⟩, hx, harrived⟩ := List.mem_filterMap.mp hd
        obtain ⟨⟨q, -⟩, hq, rfl⟩ := List.mem_map.mp hx
        obtain ⟨⟨rfl, -⟩, he⟩ := Option.ite_none_right_eq_some.mp harrived
        cases he
        have hget := b.queues.mem_entries_iff.mp hq
        exact (hb.named q x _ hget).trans ((hb.read q x _ hget).2 st hst).1.symm

theorem balances_next {b b' : Broker} {s : StreamId} {d : Delivery}
    (h : b.next s = (.delivery d, b')) : b.Balances (b'.ack d) [] [(s, d)] := by
  obtain ⟨st, rest, hst, hw, hb'⟩ := next_delivery h
  have hstreams : ∀ r, (b'.ack d).streams.get? r =
      if r = s then some { st with waiting := rest } else b.streams.get? r := by
    intro r
    rw [hb']
    exact Table.get?_insert ..
  have hacked : b'.acked = b.acked := by rw [hb']
  refine ⟨fun r => ?_, fun q => ?_, fun e he => ?_, Nat.le_of_eq (refills_next h).fresh.symm,
    fun r _ hnone => ?_, fun hb r st' hr e he => ?_⟩
  · rw [onStream_lost, onStream_singleton, deliveriesAt, deliveriesAt, hstreams]
    by_cases hr : r = s
    · simp [hr, hst, hw]
    · cases b.streams.get? r <;> simp [hr, Ne.symm hr]
  · rw [ackedFor_ack, countFor, List.countP_singleton, ackedFor, hacked]
    simp only [decide_eq_true_eq]
    rfl
  · rw [List.mem_singleton.mp he, hst]
    exact Option.some_ne_none st
  · rw [hstreams, hnone]
    refine if_neg ?_
    rintro rfl
    rw [hst] at hnone
    cases hnone
  · rw [hstreams] at hr
    split at hr
    · cases hr
      exact hb s st hst e (hw ▸ List.mem_cons_of_mem _ he)
    · exact hb r st' hr e he

/-- What has been put into the streams of a broker, what of it has been read and acknowledged, and what has
been lost. -/
structure Balanced (b : Broker) (put read gone : List (StreamId × Delivery)) : Prop where
  streams : ∀ s, onStream s put = onStream s read ++ onStream s gone ++ b.deliveriesAt s
  acked : ∀ q, b.ackedFor q = countFor q read
  /-- A stream that has lost deliveries does not come back. -/
  closed : ∀ e ∈ gone, e.1 < b.fresh ∧ b.streams.get? e.1 = none
  stamped : b.Stamped

theorem balanced_fresh (refusing : Bool) : Balanced { refusing } [] [] [] where
  streams _ := rfl
  acked _ := rfl
  closed e he := by cases he
  stamped s st hs := by cases hs

theorem Balanced.none_lost {b : Broker} {put read gone : List (StreamId × Delivery)}
    (hb : b.Balanced put read gone) {s : StreamId} (hs : b.streams.get? s ≠ none) :
    onStream s gone = [] :=
  List.eq_nil_iff_forall_not_mem.mpr fun _ hd => hs (hb.closed _ (mem_onStream.mp hd)).2

theorem Balanced.step {b b' : Broker} {put read gone came next : List (StreamId × Delivery)}
    (hb : b.Balanced put read gone) (hsound : b.Sound) (h : b.Balances b' came next) :
    b'.Balanced (put ++ came) (read ++ next) (gone ++ b.lost b') where
  streams s := by
    have hstep := h.streams s
    simp only [onStream_append, hb.streams s]
    by_cases hgone : onStream s gone = []
    · simp only [hgone, List.append_nil, List.nil_append, List.append_assoc] at hstep ⊢
      rw [hstep]
    · -- A stream that has lost deliveries takes no part in the step.
      obtain ⟨d, hd⟩ := List.exists_mem_of_ne_nil _ hgone
      obtain ⟨hlt, hnone⟩ := hb.closed _ (mem_onStream.mp hd)
      have hread : onStream s next = [] :=
        List.eq_nil_iff_forall_not_mem.mpr fun _ he => h.present _ (mem_onStream.mp he) hnone
      have hlost : onStream s (b.lost b') = [] := by
        rw [onStream_lost, deliveriesAt, hnone]
        exact ite_self []
      have hbefore : b.deliveriesAt s = [] := by rw [deliveriesAt, hnone]; rfl
      have hafter : b'.deliveriesAt s = [] := by rw [deliveriesAt, h.gone s hlt hnone]; rfl
      rw [hread, hlost, hbefore, hafter] at hstep
      have hcame : onStream s came = [] := hstep
      simp only [hread, hlost, hbefore, hafter, hcame, List.append_nil]
  acked q := by rw [h.acked, hb.acked, countFor_append]
  closed e he := by
    rcases List.mem_append.mp he with he | he
    · obtain ⟨hlt, hnone⟩ := hb.closed e he
      exact ⟨Nat.lt_of_lt_of_le hlt h.fresh, h.gone e.1 hlt hnone⟩
    · obtain ⟨hd, hnone⟩ := mem_lost.mp he
      obtain ⟨st, hst, -⟩ := mem_deliveriesAt.mp hd
      exact ⟨Nat.lt_of_lt_of_le (hsound.fed _ st hst).1 h.fresh, hnone⟩
  stamped := h.stamped hb.stamped

/-- For every queue, what was put in has been acknowledged, waits, or was lost. -/
theorem Balanced.count {b : Broker} {put read gone : List (StreamId × Delivery)}
    (hb : b.Balanced put read gone) (q : String) :
    countFor q put = b.ackedFor q + b.heldFor q + countFor q gone := by
  have hperm : put.Perm (read ++ gone ++ inStreams b.streams) := by
    refine perm_of_onStream fun s => ?_
    simp only [onStream_append, onStream_inStreams]
    exact hb.streams s
  have hcount : countFor q put = countFor q read + countFor q gone + countFor q (inStreams b.streams) := by
    rw [← countFor_append, ← countFor_append]
    exact hperm.countP_eq _
  rw [hcount, hb.acked, hb.stamped.heldFor_eq]
  omega

theorem deliveriesAt_of_ended {b : Broker} {s : StreamId} (h : (b.next s).1 = .ended) :
    b.deliveriesAt s = [] := by
  unfold next at h
  unfold deliveriesAt
  split at h
  · next hnone => rw [hnone]; rfl
  · next st hst =>
    split at h
    · cases h
    · next hw => rw [hst]; exact hw

end Broker
end LocationRelay
