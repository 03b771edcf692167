import LocationRelay.IdentityLocks
import Mathlib.Data.List.Nodup

/-! # Exclusion by identity locks

Locks are found through a table that pruning may shrink at any moment. What makes them exclude each
other is that every request refers to the lock which the table holds for its identity: then all requests
for one identity stand in one line, and only its first is granted.
-/
namespace LocationRelay.IdentityLocks

/-- Tickets ask once, every request refers to the current lock of its identity, and no two identities
share a lock. -/
structure Sound (ls : IdentityLocks) : Prop where
  tickets : (ls.requests.map LockRequest.ticket).Nodup
  current : ∀ r ∈ ls.requests, ls.current.get? r.identity = some r.lock
  apart : ∀ i j l, ls.current.get? i = some l → ls.current.get? j = some l → i = j
  made : ∀ i l, ls.current.get? i = some l → l < ls.fresh

def Granted (ls : IdentityLocks) (t : Ticket) (i : Identity) : Prop :=
  ∃ r ∈ ls.requests, r.ticket = t ∧ r.identity = i ∧ ls.holder? r.lock = some t

theorem sound_empty : Sound {} where
  tickets := List.nodup_nil
  current r hr := by cases hr
  apart i j l h := by cases h
  made i l h := by cases h

theorem holds_iff {ls : IdentityLocks} {t : Ticket} :
    ls.holds t = true ↔ ∃ i, ls.Granted t i := by
  simp only [holds, List.any_eq_true, Bool.and_eq_true, beq_iff_eq, Granted]
  constructor
  · rintro ⟨r, hr, ht, hl⟩
    exact ⟨r.identity, r, hr, ht, rfl, hl⟩
  · rintro ⟨i, r, hr, ht, -, hl⟩
    exact ⟨r, hr, ht, hl⟩

/-- The lock of an identity is granted to one ticket at a time. -/
theorem Sound.granted_unique {ls : IdentityLocks} (h : ls.Sound) {t u : Ticket} {i : Identity}
    (ht : ls.Granted t i) (hu : ls.Granted u i) : t = u := by
  obtain ⟨r, hr, -, rfl, hrl⟩ := ht
  obtain ⟨s, hs, -, hi, hsl⟩ := hu
  have hlock : r.lock = s.lock := by
    have hc := h.current s hs
    rw [hi, h.current r hr] at hc
    exact Option.some.inj hc
  rw [hlock, hsl] at hrl
  exact (Option.some.inj hrl).symm

/-! ## Requests -/

theorem lockOf_current {ls : IdentityLocks} {i : Identity} {l : Nat}
    (h : ls.current.get? i = some l) : ls.lockOf i = (l, ls) := by
  simp only [lockOf, h]

theorem lockOf_fresh {ls : IdentityLocks} {i : Identity} (h : ls.current.get? i = none) :
    ls.lockOf i =
      (ls.fresh, { ls with current := ls.current.insert i ls.fresh, fresh := ls.fresh + 1 }) := by
  simp only [lockOf, h]

/-- The lock that is made for an identity which has none bears a number above all the others. -/
theorem Sound.lockOf {ls : IdentityLocks} (h : ls.Sound) (i : Identity) : (ls.lockOf i).2.Sound := by
  cases hc : ls.current.get? i with
  | some l =>
    rw [lockOf_current hc]
    exact h
  | none =>
    rw [lockOf_fresh hc]
    refine ⟨h.tickets, ?_, ?_, ?_⟩ <;> simp only [Table.get?_insert]
    · intro r hr
      have hcur := h.current r hr
      have hne : r.identity ≠ i := by
        intro he
        rw [he, hc] at hcur
        cases hcur
      rw [if_neg hne]
      exact hcur
    · intro j k l hj hk
      by_cases hji : j = i <;> by_cases hki : k = i
      · rw [hji, hki]
      · rw [if_pos hji] at hj
        rw [if_neg hki] at hk
        have := h.made k l hk
        cases hj
        omega
      · rw [if_neg hji] at hj
        rw [if_pos hki] at hk
        have := h.made j l hj
        cases hk
        omega
      · rw [if_neg hji] at hj
        rw [if_neg hki] at hk
        exact h.apart j k l hj hk
    · intro j l hj
      by_cases hji : j = i
      · rw [if_pos hji] at hj
        cases hj
        omega
      · rw [if_neg hji] at hj
        have := h.made j l hj
        omega

theorem current_lockOf (ls : IdentityLocks) (i : Identity) :
    (ls.lockOf i).2.current.get? i = some (ls.lockOf i).1 := by
  cases hc : ls.current.get? i with
  | some l =>
    rw [lockOf_current hc]
    exact hc
  | none => rw [lockOf_fresh hc, Table.get?_insert, if_pos rfl]

theorem requests_lockOf (ls : IdentityLocks) (i : Identity) :
    (ls.lockOf i).2.requests = ls.requests := by
  cases hc : ls.current.get? i with
  | some l => rw [lockOf_current hc]
  | none => rw [lockOf_fresh hc]

theorem requests_request (ls : IdentityLocks) (t : Ticket) (i : Identity) :
    (ls.request t i).requests = ls.requests ++ [⟨t, i, (ls.lockOf i).1⟩] :=
  congrArg (· ++ [LockRequest.mk t i (ls.lockOf i).1]) (requests_lockOf ls i)

theorem Sound.request {ls : IdentityLocks} (h : ls.Sound) {t : Ticket} (i : Identity)
    (ht : ∀ r ∈ ls.requests, r.ticket ≠ t) : (ls.request t i).Sound where
  tickets := by
    rw [requests_request, List.map_append, List.map_singleton, List.nodup_append]
    refine ⟨h.tickets, List.nodup_singleton _, ?_⟩
    intro u hu v hv
    obtain ⟨r, hr, rfl⟩ := List.mem_map.mp hu
    rw [List.mem_singleton.mp hv]
    exact ht r hr
  current r hr := by
    rcases List.mem_append.mp hr with hr | hr
    · exact (h.lockOf i).current r hr
    · rw [List.mem_singleton.mp hr]
      exact current_lockOf ls i
  apart := (h.lockOf i).apart
  made := (h.lockOf i).made

theorem Granted.request {ls : IdentityLocks} {t u : Ticket} {i j : Identity}
    (h : ls.Granted u j) : (ls.request t i).Granted u j := by
  obtain ⟨r, hr, hu, hj, hl⟩ := h
  refine ⟨r, ?_, hu, hj, ?_⟩
  · rw [requests_request]
    exact List.mem_append_left _ hr
  · obtain ⟨s, hs, hst⟩ := Option.map_eq_some_iff.mp hl
    simp only [holder?, requests_request, List.find?_append, hs, Option.some_or, Option.map_some,
      hst]

/-! ## Giving back -/

theorem Sound.giveBack {ls : IdentityLocks} (h : ls.Sound) (t : Ticket) : (ls.giveBack t).Sound where
  tickets := h.tickets.sublist (List.filter_sublist.map _)
  current r hr := h.current r (List.mem_filter.mp hr).1
  apart := h.apart
  made := h.made

/-- Nobody loses a lock by what another ticket gives back. -/
theorem Granted.giveBack {ls : IdentityLocks} {t u : Ticket} {j : Identity}
    (h : ls.Granted u j) (hne : u ≠ t) : (ls.giveBack t).Granted u j := by
  obtain ⟨r, hr, hu, hj, hl⟩ := h
  refine ⟨r, List.mem_filter.mpr ⟨hr, ?_⟩, hu, hj, ?_⟩
  · simpa [hu] using hne
  · obtain ⟨s, hs, hst⟩ := Option.map_eq_some_iff.mp hl
    have hlock : (s.lock == r.lock) = true := by simpa using List.find?_some hs
    have hkeep : s.ticket ≠ t ∧ (s.lock == r.lock) = true := ⟨hst ▸ hne, hlock⟩
    obtain ⟨before, after, hsplit, hbefore⟩ := (List.find?_eq_some_iff_append.mp hs).2
    have hfind : (ls.requests.filter fun r => decide (r.ticket ≠ t)).find?
        (fun q => q.lock == r.lock) = some s := by
      rw [List.find?_filter, hsplit, List.find?_append, List.find?_eq_none.mpr, Option.none_or,
        List.find?_cons_of_pos (by simpa using hkeep)]
      intro q hq hqk
      have := hbefore q hq
      simp_all
    simp only [holder?, IdentityLocks.giveBack, hfind, Option.map_some, hst]

/-! ## Pruning -/

theorem Sound.prune {ls : IdentityLocks} (h : ls.Sound) : ls.prune.Sound := by
  have hsub : ∀ i l, ls.prune.current.get? i = some l → ls.current.get? i = some l := by
    intro i l hl
    rw [IdentityLocks.prune, Table.get?_filter] at hl
    exact (Option.filter_eq_some_iff.mp hl).1
  refine ⟨h.tickets, ?_, ?_, ?_⟩
  · intro r hr
    rw [IdentityLocks.prune, Table.get?_filter]
    refine Option.filter_eq_some_iff.mpr ⟨h.current r hr, ?_⟩
    exact List.any_eq_true.mpr ⟨r, hr, beq_self_eq_true _⟩
  · intro i j l hi hj
    exact h.apart i j l (hsub i l hi) (hsub j l hj)
  · intro i l hi
    exact h.made i l (hsub i l hi)

theorem holds_first {ls : IdentityLocks} (h : ls.requests = []) (t : Ticket) (i : Identity) :
    (ls.request t i).holds t = true := by
  simp [holds, holder?, requests_request, h]

end LocationRelay.IdentityLocks
