import LocationRelay.Proofs.Locks
import Mathlib.Data.List.Induction

/-! # The order in which locks are granted

Locks are asked for, given back and pruned in any order. The requests for one identity stand in one line in
the order in which they were made: the first of them has the lock and the others wait. Pruning leaves the
lines alone, since a lock to which a request refers stays in the table.
-/
namespace LocationRelay.IdentityLocks

inductive Action where
  | ask (t : Ticket) (i : Identity)
  /-- A lock is given back, or a request is given up before it was granted. -/
  | giveBack (t : Ticket)
  | prune
deriving DecidableEq

def act (ls : IdentityLocks) : Action → IdentityLocks
  | .ask t i => ls.request t i
  | .giveBack t => ls.giveBack t
  | .prune => ls.prune

def run (as : List Action) : IdentityLocks := as.foldl act {}

def used (as : List Action) : List Ticket :=
  as.filterMap fun
    | .ask t _ => some t
    | _ => none

def asked (i : Identity) (as : List Action) : List Ticket :=
  as.filterMap fun
    | .ask t j => if j = i then some t else none
    | _ => none

def line (ls : IdentityLocks) (i : Identity) : List Ticket :=
  (ls.requests.filter fun r => r.identity = i).map LockRequest.ticket

instance (ls : IdentityLocks) (t : Ticket) (i : Identity) : Decidable (ls.Granted t i) :=
  inferInstanceAs (Decidable (∃ r ∈ ls.requests, r.ticket = t ∧ r.identity = i ∧
    ls.holder? r.lock = some t))

def waiting (ls : IdentityLocks) (i : Identity) : List Ticket :=
  (ls.line i).filter fun t => ¬ ls.Granted t i

/-- What an observer notes down along a run, who looks at the locks before each action. -/
def noted (note : IdentityLocks → Action → List Ticket) (as : List Action) : List Ticket :=
  (as.foldl (fun (ls, log) a => (ls.act a, log ++ note ls a)) (({} : IdentityLocks), [])).2

def granted (i : Identity) (as : List Action) : List Ticket :=
  noted (fun ls a => ((ls.act a).line i).filter fun t => (ls.act a).Granted t i ∧ ¬ ls.Granted t i) as

def gaveUp (i : Identity) (as : List Action) : List Ticket :=
  noted (fun ls a => (ls.waiting i).filter fun t => a = .giveBack t) as

theorem run_snoc (as : List Action) (a : Action) : run (as ++ [a]) = (run as).act a := by
  rw [run, List.foldl_append]
  rfl

theorem noted_snoc (note : IdentityLocks → Action → List Ticket) (as : List Action) (a : Action) :
    noted note (as ++ [a]) = noted note as ++ note (run as) a := by
  have hrun : ∀ bs : List Action, (bs.foldl (fun (ls, log) a => (ls.act a, log ++ note ls a))
      (({} : IdentityLocks), [])).1 = run bs := by
    intro bs
    induction bs using List.reverseRecOn with
    | nil => rfl
    | append_singleton bs b ih =>
      rw [List.foldl_append, run_snoc, ← ih]
      rfl
  rw [noted, List.foldl_append, ← hrun as]
  rfl

/-! ## One line for each identity -/

section

variable {ls : IdentityLocks} {t u : Ticket} {i j : Identity} {l : Nat} {r : LockRequest}

/-- A request refers to the lock of an identity exactly when it was made for that identity. -/
theorem Sound.lock_eq_iff (h : ls.Sound) (hr : r ∈ ls.requests)
    (hl : ls.current.get? i = some l) : r.lock = l ↔ r.identity = i := by
  have hcur := h.current r hr
  constructor
  · rintro rfl
    exact h.apart _ _ _ hcur hl
  · rintro rfl
    exact Option.some.inj (hcur.symm.trans hl)

theorem Sound.isReferred_iff (h : ls.Sound) (hl : ls.current.get? i = some l) :
    ls.isReferred l = true ↔ ∃ r ∈ ls.requests, r.identity = i := by
  rw [isReferred, List.any_eq_true]
  constructor
  · rintro ⟨r, hr, hlock⟩
    exact ⟨r, hr, (h.lock_eq_iff hr hl).mp (beq_iff_eq.mp hlock)⟩
  · rintro ⟨r, hr, hi⟩
    exact ⟨r, hr, beq_iff_eq.mpr ((h.lock_eq_iff hr hl).mpr hi)⟩

theorem head?_line (ls : IdentityLocks) (i : Identity) : (ls.line i).head? =
    (ls.requests.find? fun r => r.identity = i).map LockRequest.ticket := by
  rw [line, List.head?_map, List.head?_filter]

/-- Whoever holds the lock that a request refers to is the first in line for its identity. -/
theorem Sound.holder?_eq (h : ls.Sound) (hr : r ∈ ls.requests) :
    ls.holder? r.lock = (ls.line r.identity).head? := by
  have hsame : ∀ q ∈ ls.requests, (q.lock == r.lock) = decide (q.identity = r.identity) := by
    intro q hq
    rw [Bool.eq_iff_iff, beq_iff_eq, decide_eq_true_iff]
    exact h.lock_eq_iff hq (h.current r hr)
  rw [head?_line, holder?, ← List.head?_filter, ← List.head?_filter, List.filter_congr hsame]

/-- The lock of an identity is granted to the first in line for it, and to nobody else. -/
theorem Sound.granted_iff (h : ls.Sound) : ls.Granted t i ↔ (ls.line i).head? = some t := by
  constructor
  · rintro ⟨r, hr, -, rfl, hl⟩
    exact h.holder?_eq hr ▸ hl
  · intro ht
    obtain ⟨r, hfind, rfl⟩ := Option.map_eq_some_iff.mp (head?_line ls i ▸ ht)
    obtain rfl : r.identity = i := by simpa using List.find?_some hfind
    have hr := List.mem_of_find?_eq_some hfind
    exact ⟨r, hr, rfl, rfl, (h.holder?_eq hr).trans ht⟩

theorem Sound.nodup_line (h : ls.Sound) (i : Identity) : (ls.line i).Nodup :=
  h.tickets.sublist (List.filter_sublist.map _)

theorem Sound.waiting_eq (h : ls.Sound) (i : Identity) : ls.waiting i = (ls.line i).tail := by
  have hnodup := h.nodup_line i
  simp only [waiting, h.granted_iff]
  cases hline : ls.line i with
  | nil => rfl
  | cons u rest =>
    rw [hline] at hnodup
    have hrest : ∀ t ∈ rest, decide (¬ some u = some t) = true := by
      intro t ht
      have hne : u ≠ t := fun he => (List.nodup_cons.mp hnodup).1 (he ▸ ht)
      simpa using hne
    rw [List.head?_cons, List.filter_cons_of_neg (by simp), List.filter_eq_self.mpr hrest]
    rfl

/-- A lock changes hands when another request comes to stand first in line. -/
theorem Sound.granting_eq {ls' : IdentityLocks} (h : ls.Sound) (h' : ls'.Sound) (i : Identity) :
    ((ls'.line i).filter fun t => ls'.Granted t i ∧ ¬ ls.Granted t i) =
      if (ls'.line i).head? = (ls.line i).head? then [] else (ls'.line i).head?.toList := by
  have hnodup := h'.nodup_line i
  simp only [h.granted_iff, h'.granted_iff]
  cases hline : ls'.line i with
  | nil => split <;> rfl
  | cons u rest =>
    rw [hline] at hnodup
    have hrest : ∀ t ∈ rest, ¬ decide (some u = some t ∧ ¬ (ls.line i).head? = some t) = true := by
      intro t ht
      have hne : u ≠ t := fun he => (List.nodup_cons.mp hnodup).1 (he ▸ ht)
      simp [hne]
    rw [List.head?_cons, List.filter_cons, List.filter_eq_nil_iff.mpr hrest]
    by_cases hhead : some u = (ls.line i).head?
    · simp [← hhead]
    · simp [hhead, Ne.symm hhead]

theorem line_request (ls : IdentityLocks) (t : Ticket) (i j : Identity) :
    (ls.request t j).line i = if j = i then ls.line i ++ [t] else ls.line i := by
  rw [line, requests_request, List.filter_append, List.map_append]
  by_cases hj : j = i
  · simp [hj, line]
  · simp [hj, line]

theorem line_giveBack (ls : IdentityLocks) (t : Ticket) (i : Identity) :
    (ls.giveBack t).line i = (ls.line i).filter (· ≠ t) := by
  rw [line, giveBack, line, List.filter_map, List.filter_filter, List.filter_filter]
  refine congrArg _ (List.filter_congr fun r _ => ?_)
  simp [Bool.and_comm]

theorem line_prune (ls : IdentityLocks) (i : Identity) : ls.prune.line i = ls.line i := rfl

end

/-! ## Runs -/

section

variable {ls : IdentityLocks} {as : List Action} {a : Action}

theorem used_snoc (as : List Action) (a : Action) : used (as ++ [a]) = used as ++ used [a] :=
  List.filterMap_append

theorem asked_snoc (i : Identity) (as : List Action) (a : Action) :
    asked i (as ++ [a]) = asked i as ++ asked i [a] :=
  List.filterMap_append

theorem asked_sublist (i : Identity) (as : List Action) : (asked i as).Sublist (used as) := by
  induction as with
  | nil => exact .refl _
  | cons a as ih =>
    cases a with
    | ask t j =>
      by_cases hj : j = i
      · simpa [asked, used, hj] using ih
      · simpa [asked, used, hj] using ih.cons t
    | giveBack t => exact ih
    | prune => exact ih

/-- What an action does to the line of an identity: whoever waited, and does not give up, has been granted the
lock or waits still, and whoever asks comes last. -/
theorem Sound.step (h : ls.Sound) (h' : (ls.act a).Sound) (i : Identity) :
    ((ls.act a).line i).filter (fun t => (ls.act a).Granted t i ∧ ¬ ls.Granted t i) ++
        (ls.act a).waiting i =
      ((ls.waiting i).filter fun t => a ≠ .giveBack t) ++ asked i [a] := by
  rw [h.granting_eq h', h.waiting_eq, h'.waiting_eq]
  cases a with
  | ask t j =>
    rw [act, line_request]
    by_cases hj : j = i
    · cases ls.line i <;> simp [asked, hj]
    · simp [asked, hj]
  | giveBack t =>
    rw [act, line_giveBack]
    have hnodup := h.nodup_line i
    cases hline : ls.line i with
    | nil => simp [asked]
    | cons u rest =>
      obtain ⟨hu, -⟩ := List.nodup_cons.mp (hline ▸ hnodup)
      by_cases hut : u = t
      · -- the one who held the lock gives it back to the next in line
        subst hut
        have hrest : ∀ v ∈ rest, v ≠ u := fun v hv he => hu (he ▸ hv)
        have hhead : rest.head? ≠ some u := fun hhead => hu (List.mem_of_head? hhead)
        have hkeep : rest.filter (fun v => v ≠ u) = rest :=
          List.filter_eq_self.mpr fun v hv => by simpa using hrest v hv
        have hstay : rest.filter (fun v => Action.giveBack u ≠ .giveBack v) = rest :=
          List.filter_eq_self.mpr fun v hv => by simpa using Ne.symm (hrest v hv)
        rw [List.filter_cons_of_neg (by simp), hkeep, List.head?_cons, if_neg hhead, List.tail_cons,
          hstay]
        cases rest <;> simp [asked]
      · -- one who waits gives up
        have hleave : rest.filter (fun v => v ≠ t) =
            rest.filter fun v => Action.giveBack t ≠ .giveBack v :=
          List.filter_congr fun v _ => by simp [eq_comm]
        rw [List.filter_cons_of_pos (by simpa using hut), List.head?_cons, List.head?_cons, if_pos rfl,
          List.tail_cons, List.tail_cons, hleave]
        exact (List.append_nil _).symm
  | prune => simp [act, line_prune, asked]

/-- What is kept along a run: whoever asked for the lock of an identity, and did not give up, has been
granted the lock or waits for it, in the order in which the requests were made. -/
structure Ordered (as : List Action) : Prop where
  sound : (run as).Sound
  tickets : ∀ r ∈ (run as).requests, r.ticket ∈ used as
  quitters : ∀ i, ∀ t ∈ gaveUp i as, t ∈ asked i as
  order : ∀ i, granted i as ++ (run as).waiting i = (asked i as).filter fun t => t ∉ gaveUp i as

theorem ordered_nil : Ordered [] where
  sound := sound_empty
  tickets r hr := by cases hr
  quitters i t ht := by cases ht
  order i := rfl

theorem Ordered.asked_of_waiting (h : Ordered as) {i : Identity} {t : Ticket}
    (ht : t ∈ (run as).waiting i) : t ∈ asked i as := by
  have hall := List.mem_append_right (granted i as) ht
  rw [h.order i] at hall
  exact (List.mem_filter.mp hall).1

theorem Ordered.sound_act (h : Ordered as) (hfresh : (used (as ++ [a])).Nodup) :
    ((run as).act a).Sound := by
  cases a with
  | ask t i =>
    refine h.sound.request i fun r hr he => ?_
    rw [used_snoc] at hfresh
    exact (List.nodup_append.mp hfresh).2.2 _ (h.tickets r hr) t List.mem_cons_self he
  | giveBack t => exact h.sound.giveBack t
  | prune => exact h.sound.prune

theorem filter_not_mem {ts us : List Ticket} (h : ∀ t ∈ ts, t ∉ us) : ts.filter (fun t => t ∉ us) = ts :=
  List.filter_eq_self.mpr fun t ht => decide_eq_true (h t ht)

/-- An action adds to the grants and to the requests what it does to the line, and takes out those who give
up. -/
theorem Ordered.order_snoc (h : Ordered as) (hfresh : (used (as ++ [a])).Nodup) (i : Identity) :
    granted i (as ++ [a]) ++ (run (as ++ [a])).waiting i =
      (asked i (as ++ [a])).filter fun t => t ∉ gaveUp i (as ++ [a]) := by
  have hused : (used as).Nodup ∧ ∀ t ∈ used as, t ∉ used [a] := by
    rw [used_snoc, List.nodup_append] at hfresh
    exact ⟨hfresh.1, fun t ht hta => hfresh.2.2 t ht t hta rfl⟩
  have hold : ∀ t ∈ asked i as, t ∉ asked i [a] := fun t ht hta =>
    hused.2 t ((asked_sublist i as).subset ht) ((asked_sublist i [a]).subset hta)
  have hapart : (granted i as ++ (run as).waiting i).Nodup :=
    h.order i ▸ (hused.1.sublist (asked_sublist i as)).filter _
  set quit := ((run as).waiting i).filter fun t => a = .giveBack t with hquit
  have hgranted : (granted i as).filter (fun t => t ∉ quit) = granted i as :=
    filter_not_mem fun t ht hq => (List.nodup_append.mp hapart).2.2 t ht t (List.mem_filter.mp hq).1 rfl
  have hwaiting : ((run as).waiting i).filter (fun t => t ∉ quit) =
      ((run as).waiting i).filter fun t => a ≠ .giveBack t :=
    List.filter_congr fun t ht => by simp [hquit, ht]
  have hnew : (asked i [a]).filter (fun t => t ∉ gaveUp i as ++ quit) = asked i [a] := by
    refine filter_not_mem fun t ht hq => ?_
    rcases List.mem_append.mp hq with hq | hq
    · exact hold t (h.quitters i t hq) ht
    · exact hold t (h.asked_of_waiting (List.mem_filter.mp hq).1) ht
  have hsplit : (asked i as).filter (fun t => t ∉ gaveUp i as ++ quit) =
      ((asked i as).filter fun t => t ∉ gaveUp i as).filter fun t => t ∉ quit := by
    rw [List.filter_filter]
    exact List.filter_congr fun t _ => by simp [Bool.and_comm]
  rw [granted, gaveUp, noted_snoc, noted_snoc, run_snoc, asked_snoc, List.append_assoc,
    h.sound.step (h.sound_act hfresh), List.filter_append]
  change granted i as ++ _ = ((asked i as).filter fun t => t ∉ gaveUp i as ++ quit) ++
    (asked i [a]).filter fun t => t ∉ gaveUp i as ++ quit
  rw [hnew, hsplit, ← h.order i, List.filter_append, hgranted, hwaiting, List.append_assoc]

theorem Ordered.snoc (h : Ordered as) (hfresh : (used (as ++ [a])).Nodup) : Ordered (as ++ [a]) where
  sound := run_snoc as a ▸ h.sound_act hfresh
  tickets r hr := by
    rw [used_snoc, List.mem_append]
    rw [run_snoc] at hr
    cases a with
    | ask t i =>
      rw [act, requests_request, List.mem_append, List.mem_singleton] at hr
      rcases hr with hr | rfl
      · exact .inl (h.tickets r hr)
      · exact .inr List.mem_cons_self
    | giveBack t => exact .inl (h.tickets r (List.mem_filter.mp hr).1)
    | prune => exact .inl (h.tickets r hr)
  quitters i t ht := by
    rw [gaveUp, noted_snoc, List.mem_append] at ht
    rw [asked_snoc, List.mem_append]
    rcases ht with ht | ht
    · exact .inl (h.quitters i t ht)
    · exact .inl (h.asked_of_waiting (List.mem_filter.mp ht).1)
  order := h.order_snoc hfresh

theorem ordered_of_run (hfresh : (used as).Nodup) : Ordered as := by
  induction as using List.reverseRecOn with
  | nil => exact ordered_nil
  | append_singleton as a ih =>
    exact (ih (hfresh.sublist (used_snoc as a ▸ List.sublist_append_left _ _))).snoc hfresh

end

/-! ## Pruning -/

section

variable {ls : IdentityLocks}

/-- Pruning keeps the lock of an identity exactly when somebody has it or waits for it. -/
theorem Sound.get?_prune (h : ls.Sound) {i : Identity} {l : Nat} :
    ls.prune.current.get? i = some l ↔
      ls.current.get? i = some l ∧ ∃ r ∈ ls.requests, r.identity = i := by
  rw [IdentityLocks.prune, Table.get?_filter, Option.filter_eq_some_iff]
  exact and_congr_right fun hl => h.isReferred_iff hl

theorem Sound.idle_eq (h : ls.Sound) :
    ls.idle = ls.current.keys.countP fun i => ls.requests.all fun r => r.identity ≠ i := by
  have hcount : ls.current.entries.countP (fun e => !ls.isReferred e.2) =
      ls.current.keys.countP fun i => ls.requests.all fun r => r.identity ≠ i := by
    rw [Table.keys, List.countP_map]
    refine List.countP_congr fun e he => ?_
    have hreferred := h.isReferred_iff (ls.current.mem_entries_iff.mp he)
    simp only [Function.comp, Bool.not_eq_true', ← Bool.not_eq_true, hreferred, List.all_eq_true,
      decide_eq_true_eq, not_exists, not_and]
  have hsize : ls.current.entries.length = ls.prune.current.entries.length +
      ls.current.entries.countP fun e => !ls.isReferred e.2 := by
    rw [List.length_eq_countP_add_countP fun e => ls.isReferred e.2, List.countP_eq_length_filter]
    exact congrArg _ (List.countP_congr fun e _ => by simp)
  rw [idle, Table.size, Table.size, hsize, Nat.add_sub_cancel_left, hcount]

end

/-- A lock that nobody has and nobody waits for is granted at once. -/
theorem Sound.granted_at_once {ls : IdentityLocks} (h : ls.Sound) {i : Identity}
    (hfree : ∀ r ∈ ls.requests, r.identity ≠ i) (t : Ticket) : (ls.request t i).Granted t i := by
  have hnone : ls.requests.find? (fun r => r.lock == (ls.lockOf i).1) = none := by
    refine List.find?_eq_none.mpr fun r hr hlock => hfree r hr ?_
    have hmem : r ∈ (ls.lockOf i).2.requests := requests_lockOf ls i ▸ hr
    exact ((h.lockOf i).lock_eq_iff hmem (current_lockOf ls i)).mp (beq_iff_eq.mp hlock)
  refine ⟨⟨t, i, (ls.lockOf i).1⟩, ?_, rfl, rfl, ?_⟩
  · rw [requests_request]
    exact List.mem_append_right _ List.mem_cons_self
  · simp [holder?, requests_request, hnone]

/-- Whatever is asked for, given back and pruned, in whatever order: a lock is granted to one ticket at a
time, every request refers to the lock that the table holds for its identity, and the first in line has it.
The locks of an identity are granted in the order in which they were asked for, but for those who gave up
waiting, and at once to whoever finds no line. Pruning takes out the locks for which there is no line, and
only these. -/
theorem exclusive_in_order {as : List Action} (hfresh : (used as).Nodup) :
    (∀ t u i, (run as).Granted t i → (run as).Granted u i → t = u) ∧
    (∀ r ∈ (run as).requests, (run as).current.get? r.identity = some r.lock) ∧
    (∀ t i, (run as).Granted t i ↔ ((run as).line i).head? = some t) ∧
    (∀ i, granted i as ++ (run as).waiting i = (asked i as).filter fun t => t ∉ gaveUp i as) ∧
    (∀ i, (∀ r ∈ (run as).requests, r.identity ≠ i) →
      ∀ t, (run (as ++ [.ask t i])).Granted t i) ∧
    (run (as ++ [.prune])).requests = (run as).requests ∧
    (∀ i l, (run (as ++ [.prune])).current.get? i = some l ↔
      (run as).current.get? i = some l ∧ ∃ r ∈ (run as).requests, r.identity = i) ∧
    (run as).idle =
      (run as).current.keys.countP fun i => (run as).requests.all fun r => r.identity ≠ i := by
  have h := ordered_of_run hfresh
  simp only [run_snoc, act]
  exact ⟨fun _ _ _ => h.sound.granted_unique, h.sound.current, fun _ _ => h.sound.granted_iff,
    h.order, fun _ hfree => h.sound.granted_at_once hfree, rfl, fun _ _ => h.sound.get?_prune,
    h.sound.idle_eq⟩

namespace Sample

def phone : Identity := ⟨"location.ada.phone"⟩

def tablet : Identity := ⟨"location.ada.tablet"⟩

/-- Of four requests for one lock the second is given up, while the first is granted. -/
def crossed : List Action :=
  [.ask 0 phone, .ask 1 tablet, .ask 2 phone, .ask 3 phone, .prune, .giveBack 2, .giveBack 0, .prune,
    .ask 4 phone, .giveBack 1]

end Sample

/-- The third request is granted in its turn, and the lock of the other identity is left to be pruned. -/
theorem exclusive_in_order_crossed : (used Sample.crossed).Nodup ∧
    granted Sample.phone Sample.crossed ++ (run Sample.crossed).waiting Sample.phone = [0, 3, 4] ∧
    (run Sample.crossed).Granted 3 Sample.phone ∧ ¬ (run Sample.crossed).Granted 4 Sample.phone ∧
    (run (Sample.crossed ++ [.ask 5 Sample.tablet])).Granted 5 Sample.tablet ∧
    (run Sample.crossed).idle = 1 := by
  have hfresh : (used Sample.crossed).Nodup := by decide
  obtain ⟨hone, -, hfirst, horder, hfree, -, -, hidle⟩ := exclusive_in_order hfresh
  have hthird : (run Sample.crossed).Granted 3 Sample.phone := (hfirst 3 Sample.phone).mpr (by decide)
  refine ⟨hfresh, (horder Sample.phone).trans (by decide), hthird, fun hfourth => ?_,
    hfree Sample.tablet (by decide) 5, hidle.trans (by decide)⟩
  exact absurd (hone _ _ _ hthird hfourth) (by decide)

end LocationRelay.IdentityLocks
