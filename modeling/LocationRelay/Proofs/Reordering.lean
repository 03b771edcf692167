import LocationRelay.Proofs.Connections
import Mathlib.Data.List.Nodup

/-! # Tables in another order

The order in which a table lists its entries is an accident. Two gateways are the same when each table of one
holds the entries of the other in any order, and what is done to a gateway respects this. A loop over the
entries ends in the same gateway whatever their order, if what it does for one entry and what it does for
another can be exchanged.
-/
namespace LocationRelay

/-- A loop may take the members of its list in any order, when its step respects a relation and any two steps
can be exchanged up to it. -/
theorem foldl_perm_rel {α β : Type} {R : β → β → Prop} (hR : Equivalence R) {f : β → α → β}
    (hcongr : ∀ {b b'} a, R b b' → R (f b a) (f b' a)) (hcomm : ∀ b x y, R (f (f b x) y) (f (f b y) x))
    {xs ys : List α} (hperm : xs.Perm ys) {b b' : β} (hb : R b b') : R (xs.foldl f b) (ys.foldl f b') := by
  induction hperm generalizing b b' with
  | nil => exact hb
  | cons x _ ih => exact ih (hcongr x hb)
  | swap x y zs =>
    have htail : ∀ {b b'}, R b b' → R (zs.foldl f b) (zs.foldl f b') := by
      induction zs with
      | nil => exact id
      | cons z _ ih => exact fun h => ih (hcongr z h)
    exact htail (hR.trans (hcongr x (hcongr y hb)) (hcomm b' y x))
  | trans _ _ ih ih' => exact hR.trans (ih (hR.refl b)) (ih' hb)

/-! ## Tables -/

namespace Table

variable {K V : Type} [DecidableEq K] {t t' t'' : Table K V} {k : K} {v : V}

def Same (t t' : Table K V) : Prop := t.entries.Perm t'.entries

theorem Same.refl (t : Table K V) : t.Same t := List.Perm.refl _

theorem Same.symm (h : t.Same t') : t'.Same t := List.Perm.symm h

theorem Same.trans (h : t.Same t') (h' : t'.Same t'') : t.Same t'' := List.Perm.trans h h'

theorem same_equivalence : Equivalence (Same (K := K) (V := V)) := ⟨.refl, .symm, .trans⟩

theorem same_iff : t.Same t' ↔ ∀ k, t.get? k = t'.get? k := by
  constructor
  · intro h k
    apply Option.ext
    intro v
    rw [← mem_entries_iff, ← mem_entries_iff, List.Perm.mem_iff h]
  · intro h
    have hnodup : ∀ t : Table K V, t.entries.Nodup := fun t => List.Nodup.of_map Prod.fst t.nodup
    refine (List.perm_ext_iff_of_nodup (hnodup t) (hnodup t')).mpr fun ⟨k, v⟩ => ?_
    rw [mem_entries_iff, mem_entries_iff, h]

theorem Same.get? (h : t.Same t') (k : K) : t.get? k = t'.get? k := same_iff.mp h k

theorem Same.keys (h : t.Same t') : t.keys.Perm t'.keys := List.Perm.map _ h

theorem Same.contains (h : t.Same t') (k : K) : t.contains k = t'.contains k :=
  congrArg Option.isSome (h.get? k)

theorem Same.erase (h : t.Same t') (k : K) : (t.erase k).Same (t'.erase k) := List.Perm.filter _ h

theorem Same.insert (h : t.Same t') (k : K) (v : V) : (t.insert k v).Same (t'.insert k v) :=
  List.Perm.cons _ (h.erase k)

theorem Same.adjust (h : t.Same t') (k : K) (f : V → V) : (t.adjust k f).Same (t'.adjust k f) :=
  List.Perm.map _ h

theorem Same.filter (h : t.Same t') (p : K → V → Bool) : (t.filter p).Same (t'.filter p) :=
  List.Perm.filter _ h

theorem adjust_comm (t : Table K V) {k k' : K} {f f' : V → V} (hf : k = k' → ∀ v, f' (f v) = f (f' v)) :
    ((t.adjust k f).adjust k' f').Same ((t.adjust k' f').adjust k f) := by
  refine same_iff.mpr fun l => ?_
  simp only [get?_adjust]
  by_cases hk : l = k
  · by_cases hk' : l = k'
    · simp only [if_pos hk, if_pos hk', Option.map_map]
      exact congrArg (Option.map · _) (funext (hf (hk.symm.trans hk')))
    · simp only [if_neg hk']
  · simp only [if_neg hk]

theorem erase_comm (t : Table K V) (k l : K) : ((t.erase k).erase l).Same ((t.erase l).erase k) := by
  refine same_iff.mpr fun m => ?_
  simp only [get?_erase]
  split <;> split <;> rfl

theorem erase_of_absent (h : t.get? k = none) : t.erase k = t := by
  have hsame : (t.entries.filter fun e => e.1 ≠ k) = t.entries := by
    refine List.filter_eq_self.mpr fun e he => decide_eq_true ?_
    rintro rfl
    cases h.symm.trans (t.mem_entries_iff.mp he)
  simp only [erase, hsame]

theorem adjust_of_absent (h : t.get? k = none) (f : V → V) : t.adjust k f = t := by
  have hsame : (t.entries.map fun e => if e.1 = k then (e.1, f e.2) else e) = t.entries.map id := by
    refine List.map_congr_left fun e he => if_neg ?_
    rintro rfl
    cases h.symm.trans (t.mem_entries_iff.mp he)
  simp only [adjust, hsame, List.map_id]

theorem insert_insert (t : Table K V) (k : K) (v w : V) : (t.insert k v).insert k w = t.insert k w := by
  simp [insert, erase, List.filter_filter]

theorem perm_cons_erase (h : t.get? k = some v) : t.entries.Perm ((k, v) :: (t.erase k).entries) := by
  have hsame : t.Same (t.insert k v) := by
    refine same_iff.mpr fun l => ?_
    rw [get?_insert]
    split
    · next hl => rw [hl, h]
    · rfl
  exact hsame

def put (t : Table K V) (k : K) (o : Option V) : Table K V := o.elim (t.erase k) (t.insert k)

@[simp] theorem get?_put (t : Table K V) (k l : K) (o : Option V) :
    (t.put k o).get? l = if l = k then o else t.get? l := by
  cases o with
  | none => exact t.get?_erase k l
  | some v => exact t.get?_insert k l v

theorem Same.put (h : t.Same t') (k : K) (o : Option V) : (t.put k o).Same (t'.put k o) := by
  cases o with
  | none => exact h.erase k
  | some v => exact h.insert k v

def mirrored (t : Table K V) : Table K V where
  entries := t.entries.reverse
  nodup := by
    rw [List.map_reverse]
    exact List.nodup_reverse.mpr t.nodup

theorem same_mirrored (t : Table K V) : t.Same t.mirrored := (List.reverse_perm t.entries).symm

end Table

/-! ## The parts of a gateway -/

structure IdentityLocks.Same (ls ls' : IdentityLocks) : Prop where
  current : ls.current.Same ls'.current
  fresh : ls.fresh = ls'.fresh
  requests : ls.requests = ls'.requests

namespace Broker

structure Same (b b' : Broker) : Prop where
  queues : b.queues.Same b'.queues
  streams : b.streams.Same b'.streams
  acked : b.acked.Same b'.acked
  fresh : b.fresh = b'.fresh
  published : b.published = b'.published
  refusing : b.refusing = b'.refusing
  closed : b.closed = b'.closed

variable {b b' b'' : Broker}

theorem Same.refl (b : Broker) : b.Same b := ⟨.refl _, .refl _, .refl _, rfl, rfl, rfl, rfl⟩

theorem Same.symm (h : b.Same b') : b'.Same b :=
  ⟨h.queues.symm, h.streams.symm, h.acked.symm, h.fresh.symm, h.published.symm, h.refusing.symm,
    h.closed.symm⟩

theorem Same.trans (h : b.Same b') (h' : b'.Same b'') : b.Same b'' :=
  ⟨h.queues.trans h'.queues, h.streams.trans h'.streams, h.acked.trans h'.acked, h.fresh.trans h'.fresh,
    h.published.trans h'.published, h.refusing.trans h'.refusing, h.closed.trans h'.closed⟩

theorem Same.discard (h : b.Same b') (s : StreamId) : (b.discard s).Same (b'.discard s) :=
  { h with streams := h.streams.erase s }

theorem Same.unsubscribe (h : b.Same b') (q : String) : (b.unsubscribe q).Same (b'.unsubscribe q) := by
  unfold Broker.unsubscribe
  rw [← h.queues.get? q]
  cases b.queues.get? q with
  | none => exact h
  | some e => exact { h with queues := h.queues.erase q, streams := h.streams.adjust e.2 _ }

theorem Same.close (h : b.Same b') : b.close.Same b'.close where
  queues := .refl _
  streams := by
    refine foldl_perm_rel Table.same_equivalence (fun e ht => ht.adjust e.2.2 _) ?_ h.queues h.streams
    exact fun streams e e' => streams.adjust_comm fun _ _ => rfl
  acked := h.acked
  fresh := h.fresh
  published := h.published
  refusing := h.refusing
  closed := rfl

end Broker

/-! ## Gateways -/

namespace Gateway

/-- The same gateway, each of its tables in any order. -/
structure Same (g g' : Gateway) : Prop where
  exchange : g.exchange = g'.exchange
  connections : g.connections.Same g'.connections
  registry : g.registry.Same g'.registry
  locks : g.locks.Same g'.locks
  broker : g.broker.Same g'.broker
  consumers : g.consumers.Same g'.consumers
  relays : g.relays.Same g'.relays
  calls : g.calls.Same g'.calls
  nextTicket : g.nextTicket = g'.nextTicket
  nextConnId : g.nextConnId = g'.nextConnId
  shuttingDown : g.shuttingDown = g'.shuttingDown

variable {g g' g'' : Gateway}

theorem Same.refl (g : Gateway) : g.Same g where
  exchange := rfl
  connections := .refl _
  registry := .refl _
  locks := ⟨.refl _, rfl, rfl⟩
  broker := .refl _
  consumers := .refl _
  relays := .refl _
  calls := .refl _
  nextTicket := rfl
  nextConnId := rfl
  shuttingDown := rfl

theorem Same.symm (h : g.Same g') : g'.Same g where
  exchange := h.exchange.symm
  connections := h.connections.symm
  registry := h.registry.symm
  locks := ⟨h.locks.current.symm, h.locks.fresh.symm, h.locks.requests.symm⟩
  broker := h.broker.symm
  consumers := h.consumers.symm
  relays := h.relays.symm
  calls := h.calls.symm
  nextTicket := h.nextTicket.symm
  nextConnId := h.nextConnId.symm
  shuttingDown := h.shuttingDown.symm

theorem Same.trans (h : g.Same g') (h' : g'.Same g'') : g.Same g'' where
  exchange := h.exchange.trans h'.exchange
  connections := h.connections.trans h'.connections
  registry := h.registry.trans h'.registry
  locks := ⟨h.locks.current.trans h'.locks.current, h.locks.fresh.trans h'.locks.fresh,
    h.locks.requests.trans h'.locks.requests⟩
  broker := h.broker.trans h'.broker
  consumers := h.consumers.trans h'.consumers
  relays := h.relays.trans h'.relays
  calls := h.calls.trans h'.calls
  nextTicket := h.nextTicket.trans h'.nextTicket
  nextConnId := h.nextConnId.trans h'.nextConnId
  shuttingDown := h.shuttingDown.trans h'.shuttingDown

theorem same_equivalence : Equivalence Same := ⟨.refl, .symm, .trans⟩

theorem Same.adjust (hs : g.Same g') (h : Handle) (f : Connection → Connection) :
    (g.adjust h f).Same (g'.adjust h f) :=
  { hs with connections := hs.connections.adjust h.slot f }

theorem Same.close (hs : g.Same g') (h : Handle) (reason : CloseReason) :
    (g.close h reason).Same (g'.close h reason) := hs.adjust h _

theorem Same.prune (hs : g.Same g') : g.prune.Same g'.prune := by
  have hreferred : g.locks.isReferred = g'.locks.isReferred :=
    congrArg (fun requests lock => List.any requests fun r : LockRequest => r.lock == lock) hs.locks.requests
  refine { hs with locks := ⟨?_, hs.locks.fresh, hs.locks.requests⟩ }
  change (g.locks.current.filter fun _ lock => g.locks.isReferred lock).Same
    (g'.locks.current.filter fun _ lock => g'.locks.isReferred lock)
  rw [hreferred]
  exact hs.locks.current.filter _

theorem Same.deleteQueue (hs : g.Same g') (q : String) : (g.deleteQueue q).Same (g'.deleteQueue q) :=
  { hs with broker := hs.broker.unsubscribe q }

theorem Same.detached (hs : g.Same g') (i : Identity) (c : Consumer) :
    (g.detached i c).Same (g'.detached i c) := by
  refine { hs with consumers := hs.consumers.erase i, relays := hs.relays.erase c.stream, broker := ?_ }
  change Broker.Same (if _ then _ else _) (if _ then _ else _)
  rw [← hs.relays.contains c.stream]
  split
  · exact hs.broker.discard c.stream
  · exact hs.broker

theorem Same.finish (hs : g.Same g') (t : Ticket) (o : Outcome) : (g.finish t o).Same (g'.finish t o) where
  exchange := hs.exchange
  connections := hs.connections
  registry := hs.registry
  locks := ⟨hs.locks.current, hs.locks.fresh, congrArg (List.filter _) hs.locks.requests⟩
  broker := hs.broker
  consumers := hs.consumers
  relays := hs.relays
  calls := hs.calls.insert t _
  nextTicket := hs.nextTicket
  nextConnId := hs.nextConnId
  shuttingDown := hs.shuttingDown

end Gateway
end LocationRelay
