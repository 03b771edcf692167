import LocationRelay.Proofs.Queues

/-! # What waits in the streams

A publish adds to a stream at most its own payload, and only if the queue that feeds the stream is bound
so as to receive it. Nothing else adds anything to what waits in a stream.
-/
namespace LocationRelay

open Text (Bytes)

structure Post where
  exchange : String
  key : String
  payload : Bytes
deriving DecidableEq

def Binding.received (x : Binding) (es : List Post) : List Bytes :=
  (es.filter fun e => x.reached e.exchange e.key).map Post.payload

theorem Binding.received_append (x : Binding) (es fs : List Post) :
    x.received (es ++ fs) = x.received es ++ x.received fs := by
  simp only [received, List.filter_append, List.map_append]

namespace Broker

def accepted (b : Broker) (e : Post) : List Post := if b.closed then [] else [e]

def waitingAt (b : Broker) (s : StreamId) : List Bytes :=
  (b.streams.get? s).elim [] fun st => st.waiting.map Delivery.payload

/-- Nothing is added to what waits in any stream. -/
def Drains (b b' : Broker) : Prop := ∀ s, (b'.waitingAt s).Sublist (b.waitingAt s)

theorem Drains.refl (b : Broker) : b.Drains b := fun _ => .refl _

theorem waitingAt_unfed (o : Option Stream) :
    ((o.map fun st => { st with fed := false }).elim [] fun st => st.waiting.map Delivery.payload) =
      o.elim [] fun st => st.waiting.map Delivery.payload := by
  cases o <;> rfl

theorem Drains.unsubscribe (b : Broker) (q : String) : b.Drains (b.unsubscribe q) := by
  intro s
  unfold waitingAt
  rcases streams_unsubscribe b q s with h | ⟨-, h⟩
  · rw [h]
  · rw [h, waitingAt_unfed]

theorem Drains.close (b : Broker) : b.Drains b.close := by
  intro s
  unfold waitingAt
  rcases streams_close b s with ⟨-, h⟩ | ⟨-, h⟩
  · rw [h]
  · rw [h, waitingAt_unfed]

theorem Drains.discard (b : Broker) (s : StreamId) : b.Drains (b.discard s) := by
  intro r
  unfold waitingAt
  rw [Broker.discard, Table.get?_erase]
  split
  · exact List.nil_sublist _
  · exact .refl _

theorem Drains.subscribe (b : Broker) (x : Binding) : b.Drains (b.subscribe x).2 := by
  unfold Broker.subscribe
  split
  · exact .refl b
  · split
    · exact .refl b
    · split
      · exact .refl b
      · intro s
        simp only [waitingAt, Table.get?_insert]
        split
        · exact List.nil_sublist _
        · exact .refl _

theorem waitingAt_subscribe {b : Broker} {x : Binding} {s : StreamId}
    (h : (b.subscribe x).1 = .ok s) : (b.subscribe x).2.waitingAt s = [] := by
  unfold Broker.subscribe at h ⊢
  split at h
  · cases h
  · split at h
    · cases h
    · split at h
      · cases h
      · next h₁ h₂ h₃ =>
        cases h
        rw [if_neg h₁, if_neg h₂, if_neg h₃]
        simp only [waitingAt, Table.get?_insert, if_true]
        rfl

theorem waitingAt_next {b b' : Broker} {s : StreamId} {d : Delivery}
    (h : b.next s = (.delivery d, b')) : b.waitingAt s = d.payload :: b'.waitingAt s := by
  obtain ⟨st, rest, hst, hw, rfl⟩ := next_delivery h
  simp only [waitingAt, hst, hw, Table.get?_insert, if_true, Option.elim_some, List.map_cons]

theorem Drains.next {b b' : Broker} {s : StreamId} {d : Delivery}
    (h : b.next s = (.delivery d, b')) : b.Drains b' := by
  intro r
  by_cases hr : r = s
  · rw [hr, waitingAt_next h]
    exact List.sublist_cons_self _ _
  · obtain ⟨st, rest, -, -, rfl⟩ := next_delivery h
    simp only [waitingAt, Table.get?_insert, if_neg hr]
    exact .refl _

/-- What a publish puts into a stream comes from the queue that the stream reads. -/
theorem Sound.arrivals_eq {b : Broker} (hb : b.Sound) {s : StreamId} {st : Stream}
    (hst : b.streams.get? s = some st) (exchange key : String) (payload : Bytes) :
    arrivals exchange key payload s (b.queues.entries.map Prod.snd) =
      ((b.queues.get? st.queue).bind fun x => if x.2 = s ∧ x.1.reached exchange key then
        some ⟨x.1.queue, key, payload⟩ else none).toList := by
  rw [arrivals, List.filterMap_map]
  refine b.queues.filterMap_entries (k := st.queue) fun x hx hne => ?_
  obtain ⟨q, x, r⟩ := x
  have hread := (hb.read q x r (b.queues.mem_entries_iff.mp hx)).2
  refine if_neg ?_
  rintro ⟨rfl, -⟩
  exact hne (hread st hst).1.symm

/-- A publish puts into a stream of a queue no more than what that queue receives. -/
theorem Sound.waitingAt_publish {b : Broker} (hb : b.Sound) {own : Binding} {s : StreamId}
    (hown : ∀ e, b.queues.get? own.queue = some e → e.1 = own)
    (hs : ∀ q, b.queueOf? s = some q → q = own.queue) (e : Post) :
    ((b.publish e.exchange e.key e.payload).2.waitingAt s).Sublist
      (b.waitingAt s ++ own.received (b.accepted e)) := by
  unfold publish accepted waitingAt
  by_cases hclosed : b.closed = true
  · rw [if_pos hclosed, if_pos hclosed]
    exact List.sublist_append_left _ _
  · rw [if_neg hclosed, if_neg hclosed]
    simp only [streams_distribute]
    cases hst : b.streams.get? s with
    | none => exact List.nil_sublist _
    | some st =>
      have hqueue : st.queue = own.queue := hs _ (queueOf?_eq_some.mpr ⟨st, hst, rfl⟩)
      rw [hb.arrivals_eq hst, hqueue]
      simp only [Option.map_some, Option.elim_some, List.map_append]
      refine List.Sublist.append_left ?_ _
      cases hq : b.queues.get? own.queue with
      | none => exact List.nil_sublist _
      | some x =>
        rw [Option.bind_some]
        split
        · next hreached =>
          rw [hown x hq] at hreached
          simp [Binding.received, hreached.2]
        · exact List.nil_sublist _

end Broker
end LocationRelay
