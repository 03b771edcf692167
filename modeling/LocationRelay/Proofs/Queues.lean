import LocationRelay.Broker
import Mathlib.Data.List.Nodup

/-! # Queues and their streams

A queue and the stream that reads it refer to each other for as long as both exist. The reading side
may be dropped first, and the queue may be removed first; in either case the other remains, and nothing
else ever takes the number of a stream.
-/
namespace LocationRelay.Broker

open Text (Bytes)

/-- Queues are found under their names, a stream is fed by the queue of its name and by no other, and
there are no queues on a closed broker. -/
structure Sound (b : Broker) : Prop where
  named : ∀ q x s, b.queues.get? q = some (x, s) → x.queue = q
  read : ∀ q x s, b.queues.get? q = some (x, s) → s < b.fresh ∧
    ∀ st, b.streams.get? s = some st → st.queue = q ∧ st.fed = true
  fed : ∀ s st, b.streams.get? s = some st → s < b.fresh ∧
    (st.fed = true → ∃ x, b.queues.get? st.queue = some (x, s))
  closed : b.closed = true → ∀ q, b.queues.get? q = none

theorem sound_empty (refusing : Bool) : Sound { refusing } where
  named q x s h := by cases h
  read q x s h := by cases h
  fed s st h := by cases h
  closed _ _ := rfl

def queueOf? (b : Broker) (s : StreamId) : Option String := (b.streams.get? s).map Stream.queue

theorem queueOf?_eq_some {b : Broker} {s : StreamId} {q : String} :
    b.queueOf? s = some q ↔ ∃ st, b.streams.get? s = some st ∧ st.queue = q :=
  Option.map_eq_some_iff

theorem Sound.lt_of_queueOf {b : Broker} (h : b.Sound) {s : StreamId} {q : String}
    (hs : b.queueOf? s = some q) : s < b.fresh := by
  obtain ⟨st, hst, -⟩ := queueOf?_eq_some.mp hs
  exact (h.fed s st hst).1

/-- Nothing happens to one queue but that it may be removed: its streams are still there, and no stream
that exists begins to read another queue. -/
structure Spares (q : String) (b b' : Broker) : Prop where
  fresh : b.fresh ≤ b'.fresh
  queue : ∀ e, b'.queues.get? q = some e → b.queues.get? q = some e
  kept : ∀ s, b.queueOf? s = some q → b'.queueOf? s = some q
  back : ∀ s r, s < b.fresh → b'.queueOf? s = some r → b.queueOf? s = some r

theorem Spares.refl (q : String) (b : Broker) : b.Spares q b :=
  ⟨Nat.le_refl _, fun _ h => h, fun _ h => h, fun _ _ _ h => h⟩

theorem Spares.trans {q : String} {b₁ b₂ b₃ : Broker} (h : b₁.Spares q b₂) (h' : b₂.Spares q b₃) :
    b₁.Spares q b₃ where
  fresh := Nat.le_trans h.fresh h'.fresh
  queue e he := h.queue e (h'.queue e he)
  kept s hs := h'.kept s (h.kept s hs)
  back s r hlt hs := h.back s r hlt (h'.back s r (Nat.lt_of_lt_of_le hlt h.fresh) hs)

/-! ## Declaring a queue -/

def refusal? (b : Broker) (queue : String) : Option BrokerError :=
  if b.closed then some .closed
  else if b.refusing then some (.setup queue "subscriptions disabled")
  else none

def declared (b : Broker) (x : Binding) : Broker :=
  { b with
    queues := b.queues.insert x.queue (x, b.fresh)
    streams := b.streams.insert b.fresh { queue := x.queue }
    fresh := b.fresh + 1 }

/-- A subscription whose queue does not exist fails exactly when the broker refuses. -/
theorem subscribe_of_absent {b : Broker} {x : Binding} (h : b.queues.get? x.queue = none) :
    b.subscribe x = match b.refusal? x.queue with
      | some e => (.error e, b)
      | none => (.ok b.fresh, b.declared x) := by
  have hc : b.queues.contains x.queue = false := by simp [Table.contains, h]
  unfold subscribe refusal?
  by_cases hclosed : b.closed = true
  · simp [hclosed]
  · by_cases hrefusing : b.refusing = true
    · simp [hclosed, hrefusing]
    · simp [hclosed, hrefusing, hc, declared]

theorem Sound.declared {b : Broker} (h : b.Sound) {x : Binding}
    (habsent : b.queues.get? x.queue = none) (hopen : b.closed = false) : (b.declared x).Sound where
  named q y s hq := by
    simp only [Broker.declared, Table.get?_insert] at hq
    split at hq
    · next he =>
      cases hq
      exact he.symm
    · exact h.named q y s hq
  read q y s hq := by
    simp only [Broker.declared, Table.get?_insert] at hq ⊢
    split at hq
    · next he =>
      cases hq
      refine ⟨Nat.lt_succ_self _, ?_⟩
      intro st hst
      rw [if_pos rfl] at hst
      cases hst
      exact ⟨he.symm, rfl⟩
    · obtain ⟨hs, hst⟩ := h.read q y s hq
      refine ⟨Nat.lt_succ_of_lt hs, ?_⟩
      rw [if_neg (Nat.ne_of_lt hs)]
      exact hst
  fed s st hs := by
    simp only [Broker.declared, Table.get?_insert] at hs ⊢
    split at hs
    · next he =>
      cases hs
      exact ⟨he ▸ Nat.lt_succ_self _, fun _ => ⟨x, by rw [if_pos rfl, he]⟩⟩
    · obtain ⟨hlt, hfed⟩ := h.fed s st hs
      refine ⟨Nat.lt_succ_of_lt hlt, fun hf => ?_⟩
      obtain ⟨y, hy⟩ := hfed hf
      have hne : st.queue ≠ x.queue := by
        intro he
        rw [he, habsent] at hy
        cases hy
      exact ⟨y, by rw [if_neg hne, hy]⟩
  closed hc := by
    rw [Broker.declared, hopen] at hc
    cases hc

theorem Sound.subscribe {b : Broker} (h : b.Sound) (x : Binding) : (b.subscribe x).2.Sound := by
  by_cases hq : b.queues.get? x.queue = none
  · rw [subscribe_of_absent hq]
    cases hr : b.refusal? x.queue with
    | some e => exact h
    | none =>
      refine h.declared hq ?_
      unfold refusal? at hr
      split at hr
      · cases hr
      · next hc => simpa using hc
  · have hc : b.queues.contains x.queue = true := by simpa [Table.contains, Option.isSome_iff_ne_none]
    unfold Broker.subscribe
    rw [if_pos hc]
    split
    · exact h
    · split <;> exact h

theorem Sound.spares_declared {b : Broker} (h : b.Sound) {x : Binding} {q : String}
    (hq : q ≠ x.queue) : b.Spares q (b.declared x) where
  fresh := Nat.le_succ _
  queue e he := by
    simpa only [Broker.declared, Table.get?_insert, if_neg hq] using he
  kept s hs := by
    have hne := Nat.ne_of_lt (h.lt_of_queueOf hs)
    simpa only [queueOf?, Broker.declared, Table.get?_insert, if_neg hne] using hs
  back s r hlt hs := by
    simpa only [queueOf?, Broker.declared, Table.get?_insert, if_neg (Nat.ne_of_lt hlt)] using hs

/-! ## Removing queues -/

theorem unsubscribe_of_absent {b : Broker} {q : String} (h : b.queues.get? q = none) :
    b.unsubscribe q = b := by
  simp only [unsubscribe, h]

@[simp] theorem queues_unsubscribe (b : Broker) (q r : String) :
    (b.unsubscribe q).queues.get? r = if r = q then none else b.queues.get? r := by
  cases h : b.queues.get? q with
  | none =>
    rw [unsubscribe_of_absent h]
    split
    · next he => rw [he, h]
    · rfl
  | some e => simp only [unsubscribe, h, Table.get?_erase]

theorem streams_unsubscribe (b : Broker) (q : String) (s : StreamId) :
    (b.unsubscribe q).streams.get? s = b.streams.get? s ∨
      (∃ x, b.queues.get? q = some (x, s)) ∧
        (b.unsubscribe q).streams.get? s =
          (b.streams.get? s).map fun st => { st with fed := false } := by
  cases h : b.queues.get? q with
  | none => exact .inl (by rw [unsubscribe_of_absent h])
  | some e =>
    obtain ⟨x, s₀⟩ := e
    simp only [unsubscribe, h, Table.get?_adjust]
    by_cases hs : s = s₀
    · exact .inr ⟨⟨x, by rw [hs]⟩, if_pos hs⟩
    · exact .inl (if_neg hs)

@[simp] theorem fresh_unsubscribe (b : Broker) (q : String) : (b.unsubscribe q).fresh = b.fresh := by
  unfold unsubscribe
  split <;> rfl

@[simp] theorem closed_unsubscribe (b : Broker) (q : String) :
    (b.unsubscribe q).closed = b.closed := by
  unfold unsubscribe
  split <;> rfl

@[simp] theorem refusing_unsubscribe (b : Broker) (q : String) :
    (b.unsubscribe q).refusing = b.refusing := by
  unfold unsubscribe
  split <;> rfl

theorem queueOf_unsubscribe (b : Broker) (q : String) (s : StreamId) :
    (b.unsubscribe q).queueOf? s = b.queueOf? s := by
  unfold queueOf?
  rcases streams_unsubscribe b q s with h | ⟨-, h⟩ <;> rw [h]
  exact Option.map_map ..

theorem spares_unsubscribe (b : Broker) (q r : String) : b.Spares r (b.unsubscribe q) where
  fresh := Nat.le_of_eq (fresh_unsubscribe b q).symm
  queue e he := by
    rw [queues_unsubscribe] at he
    split at he
    · cases he
    · exact he
  kept s hs := (queueOf_unsubscribe b q s).trans hs
  back s _ _ hs := (queueOf_unsubscribe b q s).symm.trans hs

theorem Sound.unsubscribe {b : Broker} (h : b.Sound) (q : String) : (b.unsubscribe q).Sound where
  named r x s hr := by
    rw [queues_unsubscribe] at hr
    split at hr
    · cases hr
    · exact h.named r x s hr
  read r x s hr := by
    rw [queues_unsubscribe] at hr
    split at hr
    · cases hr
    · next hne =>
      obtain ⟨hlt, hst⟩ := h.read r x s hr
      refine ⟨by rw [fresh_unsubscribe]; exact hlt, ?_⟩
      intro st hs
      rcases streams_unsubscribe b q s with he | ⟨⟨y, hy⟩, he⟩
      · exact hst st (he ▸ hs)
      · -- A stream that two queues claimed would belong to both of them.
        rw [he] at hs
        obtain ⟨st₀, hs₀, -⟩ := Option.map_eq_some_iff.mp hs
        exact absurd ((hst st₀ hs₀).1.symm.trans ((h.read q y s hy).2 st₀ hs₀).1) hne
  fed s st hs := by
    rw [fresh_unsubscribe]
    rcases streams_unsubscribe b q s with he | ⟨-, he⟩
    · rw [he] at hs
      obtain ⟨hlt, hfed⟩ := h.fed s st hs
      refine ⟨hlt, fun hf => ?_⟩
      obtain ⟨x, hx⟩ := hfed hf
      by_cases hq : st.queue = q
      · -- The stream of the removed queue is not fed any more.
        rw [hq] at hx
        have hu : (b.unsubscribe q).streams.get? s = some { st with fed := false } := by
          simp only [Broker.unsubscribe, hx, Table.get?_adjust, if_pos, hs, Option.map_some]
        rw [he, hs] at hu
        rw [congrArg Stream.fed (Option.some.inj hu)] at hf
        cases hf
      · exact ⟨x, by rw [queues_unsubscribe, if_neg hq, hx]⟩
    · rw [he] at hs
      obtain ⟨st₀, hs₀, rfl⟩ := Option.map_eq_some_iff.mp hs
      exact ⟨(h.fed s st₀ hs₀).1, fun hf => by cases hf⟩
  closed hc r := by
    rw [closed_unsubscribe] at hc
    rw [queues_unsubscribe, h.closed hc r, ite_self]

theorem streams_unfed (es : List (String × Binding × StreamId)) (streams : Table StreamId Stream)
    (s : StreamId) :
    let after := es.foldl
      (fun streams e => streams.adjust e.2.2 fun st => { st with fed := false }) streams
    ((∀ e ∈ es, e.2.2 ≠ s) ∧ after.get? s = streams.get? s) ∨
      (∃ e ∈ es, e.2.2 = s) ∧
        after.get? s = (streams.get? s).map fun st => { st with fed := false } := by
  induction es generalizing streams with
  | nil => exact .inl ⟨List.forall_mem_nil _, rfl⟩
  | cons e es ih =>
    obtain ⟨q, x, s₀⟩ := e
    by_cases hs : s₀ = s
    · subst hs
      refine .inr ⟨⟨_, List.mem_cons_self, rfl⟩, ?_⟩
      rcases ih (streams.adjust s₀ fun st => { st with fed := false }) with ⟨-, h⟩ | ⟨-, h⟩
      · simpa using h
      · cases hst : streams.get? s₀ <;> simpa [hst] using h
    · rcases ih (streams.adjust s₀ fun st => { st with fed := false }) with ⟨hno, h⟩ | ⟨⟨e, he, hes⟩, h⟩
      · refine .inl ⟨?_, by simpa [Ne.symm hs] using h⟩
        intro e he
        rcases List.mem_cons.mp he with rfl | he
        · exact hs
        · exact hno e he
      · exact .inr ⟨⟨e, List.mem_cons_of_mem _ he, hes⟩, by simpa [Ne.symm hs] using h⟩

/-- Closing leaves the streams of the removed queues unfed and changes no others. -/
theorem streams_close (b : Broker) (s : StreamId) :
    ((∀ q x, b.queues.get? q ≠ some (x, s)) ∧ b.close.streams.get? s = b.streams.get? s) ∨
      (∃ q x, b.queues.get? q = some (x, s)) ∧
        b.close.streams.get? s = (b.streams.get? s).map fun st => { st with fed := false } := by
  rcases streams_unfed b.queues.entries b.streams s with ⟨hno, h⟩ | ⟨⟨⟨q, x, s₀⟩, he, rfl⟩, h⟩
  · exact .inl ⟨fun q x hq => hno _ (b.queues.mem_entries_iff.mpr hq) rfl, h⟩
  · exact .inr ⟨⟨q, x, b.queues.mem_entries_iff.mp he⟩, h⟩

theorem queueOf_close (b : Broker) (s : StreamId) : b.close.queueOf? s = b.queueOf? s := by
  unfold queueOf?
  rcases streams_close b s with ⟨-, h⟩ | ⟨-, h⟩ <;> rw [h]
  exact Option.map_map ..

theorem spares_close (b : Broker) (q : String) : b.Spares q b.close where
  fresh := Nat.le_refl _
  queue _ he := by cases he
  kept s hs := (queueOf_close b s).trans hs
  back s _ _ hs := (queueOf_close b s).symm.trans hs

theorem Sound.close {b : Broker} (h : b.Sound) : b.close.Sound where
  named q x s hq := by cases hq
  read q x s hq := by cases hq
  fed s st hs := by
    rcases streams_close b s with ⟨hno, he⟩ | ⟨-, he⟩ <;> rw [he] at hs
    · obtain ⟨hlt, hfed⟩ := h.fed s st hs
      refine ⟨hlt, fun hf => ?_⟩
      obtain ⟨x, hx⟩ := hfed hf
      exact absurd hx (hno _ _)
    · obtain ⟨st₀, hs₀, rfl⟩ := Option.map_eq_some_iff.mp hs
      exact ⟨(h.fed s st₀ hs₀).1, fun hf => by cases hf⟩
  closed _ _ := rfl

/-! ## Reading and writing streams -/

/-- A change that leaves the queues alone and changes no more of the streams than what waits in
them. -/
structure Refills (b b' : Broker) : Prop where
  queues : b'.queues = b.queues
  fresh : b'.fresh = b.fresh
  closed : b'.closed = b.closed
  streams : ∀ s, (b.streams.get? s = none ∧ b'.streams.get? s = none) ∨
    ∃ st waiting, b.streams.get? s = some st ∧ b'.streams.get? s = some { st with waiting }

theorem Refills.refl (b : Broker) : b.Refills b := by
  refine ⟨rfl, rfl, rfl, fun s => ?_⟩
  cases h : b.streams.get? s with
  | none => exact .inl ⟨rfl, rfl⟩
  | some st => exact .inr ⟨st, st.waiting, rfl, rfl⟩

theorem Refills.queueOf {b b' : Broker} (h : b.Refills b') (s : StreamId) :
    b'.queueOf? s = b.queueOf? s := by
  unfold queueOf?
  rcases h.streams s with ⟨hn, hn'⟩ | ⟨st, waiting, hs, hs'⟩
  · rw [hn, hn']
  · rw [hs, hs']
    rfl

theorem Refills.spares {b b' : Broker} (h : b.Refills b') (q : String) : b.Spares q b' where
  fresh := Nat.le_of_eq h.fresh.symm
  queue _ he := h.queues ▸ he
  kept s hs := (h.queueOf s).trans hs
  back s _ _ hs := (h.queueOf s).symm.trans hs

theorem Sound.refills {b b' : Broker} (h : b.Sound) (hr : b.Refills b') : b'.Sound := by
  have hback : ∀ s st, b'.streams.get? s = some st → ∃ waiting, b.streams.get? s =
      some { st with waiting } := by
    intro s st hs
    rcases hr.streams s with ⟨-, hn⟩ | ⟨st₀, waiting, hs₀, hs'⟩
    · rw [hn] at hs
      cases hs
    · rw [hs'] at hs
      cases hs
      exact ⟨st₀.waiting, hs₀⟩
  refine ⟨?_, ?_, ?_, ?_⟩
  · rw [hr.queues]
    exact h.named
  · intro q x s hq
    rw [hr.queues] at hq
    obtain ⟨hlt, hst⟩ := h.read q x s hq
    refine ⟨hr.fresh ▸ hlt, fun st hs => ?_⟩
    obtain ⟨waiting, hw⟩ := hback s st hs
    exact hst { st with waiting } hw
  · intro s st hs
    obtain ⟨waiting, hw⟩ := hback s st hs
    rw [hr.fresh, hr.queues]
    exact h.fed s { st with waiting } hw
  · rw [hr.queues, hr.closed]
    exact h.closed

def arrivals (exchange key : String) (payload : Bytes) (s : StreamId)
    (queues : List (Binding × StreamId)) : List Delivery :=
  queues.filterMap fun e =>
    if e.2 = s ∧ e.1.reached exchange key then some ⟨e.1.queue, key, payload⟩ else none

theorem streams_distribute (exchange key : String) (payload : Bytes)
    (queues : List (Binding × StreamId)) (streams : Table StreamId Stream) (s : StreamId) :
    (distribute exchange key payload queues streams).get? s = (streams.get? s).map fun st =>
      { st with waiting := st.waiting ++ arrivals exchange key payload s queues } := by
  induction queues generalizing streams with
  | nil => simp [distribute, arrivals]
  | cons e queues ih =>
    obtain ⟨x, s₀⟩ := e
    have hcons : distribute exchange key payload ((x, s₀) :: queues) streams =
        distribute exchange key payload queues (if x.reached exchange key then
          streams.adjust s₀ fun st => { st with waiting := st.waiting ++ [⟨x.queue, key, payload⟩] }
          else streams) := rfl
    rw [hcons, ih]
    by_cases hreached : x.reached exchange key = true
    · by_cases hs : s = s₀
      · subst hs
        cases hst : streams.get? s <;> simp [hreached, arrivals, hst]
      · simp [hreached, hs, Ne.symm hs, arrivals]
    · simp [hreached, arrivals]

theorem refills_publish (b : Broker) (exchange key : String) (payload : Bytes) :
    b.Refills (b.publish exchange key payload).2 := by
  unfold publish
  split
  · exact .refl b
  · refine ⟨rfl, rfl, rfl, fun s => ?_⟩
    rw [streams_distribute]
    cases h : b.streams.get? s with
    | none => exact .inl ⟨rfl, rfl⟩
    | some st => exact .inr ⟨st, _, rfl, rfl⟩

theorem next_delivery {b b' : Broker} {s : StreamId} {d : Delivery}
    (h : b.next s = (.delivery d, b')) : ∃ st rest, b.streams.get? s = some st ∧
      st.waiting = d :: rest ∧
      b' = { b with streams := b.streams.insert s { st with waiting := rest } } := by
  unfold next at h
  split at h
  · cases h
  · next st hst =>
    split at h
    · next d' rest hw =>
      cases h
      exact ⟨st, rest, hst, hw, rfl⟩
    · split at h <;> cases h

theorem next_waiting {b b' : Broker} {s : StreamId} (h : b.next s = (.waiting, b')) :
    ∃ st, b.streams.get? s = some st ∧ st.waiting = [] ∧ st.fed = true := by
  unfold next at h
  split at h
  · cases h
  · next st hst =>
    split at h
    · cases h
    · next hw =>
      split at h
      · next hf => exact ⟨st, hst, hw, hf⟩
      · cases h

theorem refills_next {b b' : Broker} {s : StreamId} {d : Delivery}
    (h : b.next s = (.delivery d, b')) : b.Refills b' := by
  obtain ⟨st, rest, hst, -, rfl⟩ := next_delivery h
  refine ⟨rfl, rfl, rfl, fun r => ?_⟩
  simp only [Table.get?_insert]
  by_cases hr : r = s
  · subst hr
    exact .inr ⟨st, rest, hst, if_pos rfl⟩
  · rw [if_neg hr]
    exact (Refills.refl b).streams r

theorem Refills.ack {b b' : Broker} (h : b.Refills b') (d : Delivery) : b.Refills (b'.ack d) :=
  ⟨h.queues, h.fresh, h.closed, h.streams⟩

theorem queueOf_discard (b : Broker) (s r : StreamId) :
    (b.discard s).queueOf? r = if r = s then none else b.queueOf? r := by
  simp only [queueOf?, Broker.discard, Table.get?_erase]
  split <;> rfl

theorem spares_discard {b : Broker} {s : StreamId} {q : String} (h : b.queueOf? s ≠ some q) :
    b.Spares q (b.discard s) where
  fresh := Nat.le_refl _
  queue _ he := he
  kept r hr := by
    have hne : r ≠ s := fun he => h (he ▸ hr)
    rw [queueOf_discard, if_neg hne, hr]
  back r q' _ hr := by
    rw [queueOf_discard] at hr
    split at hr
    · cases hr
    · exact hr

theorem Sound.discard {b : Broker} (h : b.Sound) (s : StreamId) : (b.discard s).Sound where
  named := h.named
  read q x r hq := by
    obtain ⟨hlt, hst⟩ := h.read q x r hq
    refine ⟨hlt, fun st hr => ?_⟩
    rw [Broker.discard, Table.get?_erase] at hr
    split at hr
    · cases hr
    · exact hst st hr
  fed r st hr := by
    rw [Broker.discard, Table.get?_erase] at hr
    split at hr
    · cases hr
    · exact h.fed r st hr
  closed := h.closed

end LocationRelay.Broker
