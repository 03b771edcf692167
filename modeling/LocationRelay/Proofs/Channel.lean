import LocationRelay.Proofs.Outboxes
import Mathlib.Data.List.Induction

/-! # What an outbox hands out

Any number of handles offer parcels to an outbox and ask it to stop, while its one reader takes commands
out. The requests to stop escalate: the first of them stays, unless a request to terminate follows a request
to close. What is handed out of them follows this escalation, before all parcels, and the parcels come out
in the order in which they were accepted.
-/
namespace LocationRelay

namespace Outbox

theorem offer?_eq_some {o o' : Outbox} {p : Parcel} :
    o.offer? p = some o' ↔ o.accepts = true ∧ o' = { o with queued := o.queued ++ [p] } := by
  rw [offer?, Option.ite_none_right_eq_some, Option.some.injEq, eq_comm (b := o')]

theorem accepts_iff {o : Outbox} :
    o.accepts = true ↔ o.attended = true ∧ o.queued.length < o.capacity := by
  simp [accepts]

/-- A request to stop changes nothing else. -/
theorem request_eq (o : Outbox) (s : Stop) :
    o.request s = { o with requested := (o.request s).requested } := by
  unfold request
  split <;> rfl

theorem take_of_pending {o : Outbox} {s : Stop} (h : o.pendingStop? = some s) (handles : Bool) :
    o.take handles = (.command (.stop s), { o with reported := some s }) := by
  simp only [take, h]

theorem takeStop_of_pending {o : Outbox} {s : Stop} (h : o.pendingStop? = some s) :
    o.takeStop = (some s, { o with reported := some s }) := by
  simp only [takeStop, h]

theorem take_of_none {o : Outbox} (h : o.pendingStop? = none) (handles : Bool) :
    o.take handles = (match o.queued with
      | p :: _ => .command (.send p)
      | [] => if handles then .waiting else .ended, { o with queued := o.queued.tail }) := by
  obtain ⟨capacity, queued, requested, reported, attended⟩ := o
  cases queued <;> simp only [take, h, List.tail_nil, List.tail_cons]

theorem takeStop_of_none {o : Outbox} (h : o.pendingStop? = none) : o.takeStop = (none, o) := by
  simp only [takeStop, h]

end Outbox

structure Channel where
  outbox : Outbox
  handles : Nat
deriving DecidableEq

namespace Channel

inductive Operation where
  /-- A payload is forwarded or a probe is sent. -/
  | offer (p : Parcel)
  /-- A handle asks to close or to terminate. -/
  | request (s : Stop)
  | clone
  | drop
  /-- The reader takes a command, or looks whether there is one. -/
  | take
  /-- The reader looks for a request to stop only. -/
  | takeStop
  /-- The outbox goes. -/
  | abandon
deriving DecidableEq

inductive Answer where
  | offered (accepted : Bool)
  | took (taken : Outbox.Taken)
  | stopped (request : Option Stop)
  | done
deriving DecidableEq

def new (capacity : Nat) : Channel := ⟨.new capacity, 1⟩

/-- What an operation on a handle that is left, or on an outbox that is still there, answers and makes of
the channel. -/
def op? (c : Channel) : Operation → Option (Answer × Channel)
  | .offer p =>
    if 0 < c.handles then
      match c.outbox.offer? p with
      | some o => some (.offered true, { c with outbox := o })
      | none => some (.offered false, c)
    else none
  | .request s =>
    if 0 < c.handles then some (.done, { c with outbox := c.outbox.request s }) else none
  | .clone => if 0 < c.handles then some (.done, { c with handles := c.handles + 1 }) else none
  | .drop => if 0 < c.handles then some (.done, { c with handles := c.handles - 1 }) else none
  | .take =>
    if c.outbox.attended then
      let (taken, o) := c.outbox.take (0 < c.handles)
      some (.took taken, { c with outbox := o })
    else none
  | .takeStop =>
    if c.outbox.attended then
      let (request, o) := c.outbox.takeStop
      some (.stopped request, { c with outbox := o })
    else none
  | .abandon =>
    if c.outbox.attended then some (.done, { c with outbox := c.outbox.abandon }) else none

theorem offer_eq {c : Channel} (hleft : 0 < c.handles) (p : Parcel) : c.op? (.offer p) =
    if c.outbox.accepts = true then
      some (.offered true, { c with outbox := { c.outbox with queued := c.outbox.queued ++ [p] } })
    else some (.offered false, c) := by
  rw [op?, if_pos hleft, Outbox.offer?]
  cases c.outbox.accepts <;> rfl

theorem take_of_pending {c : Channel} {s : Stop} (halive : c.outbox.attended = true)
    (hs : c.outbox.pendingStop? = some s) : c.op? .take =
      some (.took (.command (.stop s)), { c with outbox := { c.outbox with reported := some s } }) := by
  rw [op?, if_pos halive, Outbox.take_of_pending hs]

theorem takeStop_of_pending {c : Channel} {s : Stop} (halive : c.outbox.attended = true)
    (hs : c.outbox.pendingStop? = some s) : c.op? .takeStop =
      some (.stopped (some s), { c with outbox := { c.outbox with reported := some s } }) := by
  rw [op?, if_pos halive, Outbox.takeStop_of_pending hs]

theorem take_of_none {c : Channel} (halive : c.outbox.attended = true)
    (hs : c.outbox.pendingStop? = none) : c.op? .take =
      some (.took (match c.outbox.queued with
        | p :: _ => .command (.send p)
        | [] => if 0 < c.handles then .waiting else .ended),
        { c with outbox := { c.outbox with queued := c.outbox.queued.tail } }) := by
  rw [op?, if_pos halive, Outbox.take_of_none hs]
  cases c.outbox.queued <;> simp

theorem takeStop_of_none {c : Channel} (halive : c.outbox.attended = true)
    (hs : c.outbox.pendingStop? = none) : c.op? .takeStop = some (.stopped none, c) := by
  rw [op?, if_pos halive, Outbox.takeStop_of_none hs]

/-- The operations of a run with their answers, the first one first. -/
abbrev Log := List (Operation × Answer)

def goOn (e : Log × Channel) (o : Operation) : Option (Log × Channel) :=
  (e.2.op? o).map fun r => (e.1 ++ [(o, r.1)], r.2)

def run (c : Channel) (os : List Operation) : Option (Log × Channel) := os.foldlM goOn ([], c)

theorem run_induction {P : List Operation → Log → Channel → Prop} {c₀ : Channel} (hnil : P [] [] c₀)
    (hstep : ∀ os log c o a c', P os log c → c.op? o = some (a, c') →
      P (os ++ [o]) (log ++ [(o, a)]) c')
    {os : List Operation} {log : Log} {c : Channel} (hrun : c₀.run os = some (log, c)) :
    P os log c := by
  induction os using List.reverseRecOn generalizing log c with
  | nil =>
    cases hrun
    exact hnil
  | append_singleton os o ih =>
    rw [run, List.foldlM_append, Option.bind_eq_bind, Option.bind_eq_some_iff] at hrun
    obtain ⟨⟨log₁, c₁⟩, hbefore, hlast⟩ := hrun
    rw [List.foldlM_cons, Option.bind_eq_bind, Option.bind_eq_some_iff] at hlast
    obtain ⟨e, ho, he⟩ := hlast
    cases he
    obtain ⟨⟨a, c₂⟩, hop, he⟩ := Option.map_eq_some_iff.mp ho
    cases he
    exact hstep os log₁ c₁ o a c₂ (ih hbefore) hop

/-! ## What a log shows -/

def asked? : Operation × Answer → Option Stop
  | (.request s, _) => some s
  | _ => none

def accepted? : Operation × Answer → Option Parcel
  | (.offer p, .offered true) => some p
  | _ => none

def sent? : Operation × Answer → Option Parcel
  | (_, .took (.command (.send p))) => some p
  | _ => none

def stop? : Operation × Answer → Option Stop
  | (_, .took (.command (.stop s))) => some s
  | (_, .stopped (some s)) => some s
  | _ => none

def asked (log : Log) : List Stop := log.filterMap asked?

def accepted (log : Log) : List Parcel := log.filterMap accepted?

def sent (log : Log) : List Parcel := log.filterMap sent?

def stops (log : Log) : List Stop := log.filterMap stop?

@[simp] theorem asked_snoc (log : Log) (e : Operation × Answer) :
    asked (log ++ [e]) = asked log ++ (asked? e).toList := by
  cases h : asked? e <;> simp [asked, h]

@[simp] theorem accepted_snoc (log : Log) (e : Operation × Answer) :
    accepted (log ++ [e]) = accepted log ++ (accepted? e).toList := by
  cases h : accepted? e <;> simp [accepted, h]

@[simp] theorem sent_snoc (log : Log) (e : Operation × Answer) :
    sent (log ++ [e]) = sent log ++ (sent? e).toList := by
  cases h : sent? e <;> simp [sent, h]

@[simp] theorem stops_snoc (log : Log) (e : Operation × Answer) :
    stops (log ++ [e]) = stops log ++ (stop? e).toList := by
  cases h : stop? e <;> simp [stops, h]

/-! ## Escalation -/

def escalation : List Stop → List Stop
  | [] => []
  | .close r :: rest => if .terminate ∈ rest then [.close r, .terminate] else [.close r]
  | .terminate :: _ => [.terminate]

def inEffect (ss : List Stop) : Option Stop := if .terminate ∈ ss then some .terminate else ss.head?

theorem getLast?_escalation (ss : List Stop) : (escalation ss).getLast? = inEffect ss := by
  cases ss with
  | nil => rfl
  | cons s rest =>
    cases s with
    | close r => by_cases h : .terminate ∈ rest <;> simp [escalation, inEffect, h]
    | terminate => simp [escalation, inEffect]

theorem escalation_sublist (ss : List Stop) : ∃ r, (escalation ss).Sublist [.close r, .terminate] := by
  cases ss with
  | nil => exact ⟨.shutdown, List.nil_sublist _⟩
  | cons s rest =>
    cases s with
    | close r =>
      refine ⟨r, ?_⟩
      by_cases h : .terminate ∈ rest <;> simp [escalation, h]
    | terminate => exact ⟨.shutdown, by simp [escalation]⟩

theorem head?_of_close_mem {ss : List Stop} {r : CloseReason} (h : .close r ∈ escalation ss) :
    ss.head? = some (.close r) := by
  cases ss with
  | nil => cases h
  | cons s rest =>
    cases s with
    | close r' => by_cases ht : .terminate ∈ rest <;> simp_all [escalation]
    | terminate => simp [escalation] at h

theorem nodup_escalation (ss : List Stop) : (escalation ss).Nodup := by
  obtain ⟨r, hr⟩ := escalation_sublist ss
  exact hr.nodup (by simp)

theorem escalation_extends (ss : List Stop) (s : Stop) : escalation ss <+: escalation (ss ++ [s]) := by
  cases ss with
  | nil => exact List.nil_prefix
  | cons s' rest =>
    cases s' with
    | close r =>
      by_cases h : .terminate ∈ rest
      · simp [escalation, h]
      · cases s <;> simp [escalation, h]
    | terminate => exact List.prefix_rfl

theorem requested_request {o : Outbox} {ss : List Stop} (ho : o.requested = inEffect ss) (s : Stop) :
    (o.request s).requested = inEffect (ss ++ [s]) := by
  unfold Outbox.request
  cases ss with
  | nil => cases s <;> simp_all [inEffect]
  | cons s' rest =>
    cases s' <;> cases s <;> by_cases h : .terminate ∈ rest <;> simp_all [inEffect]

/-- A request to stop is asked for only once, or escalates. -/
theorem requested_moves (o : Outbox) (s : Stop) : (o.request s).requested = o.requested ∨
    (o.request s).requested = some s ∧
      (o.requested = none ∨ s = .terminate ∧ ∃ r, o.requested = some (.close r)) := by
  unfold Outbox.request
  split <;> simp_all

theorem requested_of_op {c c' : Channel} {o : Operation} {a : Answer} (ho : c.op? o = some (a, c')) :
    c'.outbox.requested = c.outbox.requested ∨ ∃ s, o = .request s ∧ c'.outbox.requested = some s ∧
      (c.outbox.requested = none ∨ s = .terminate ∧ ∃ r, c.outbox.requested = some (.close r)) := by
  cases o with
  | offer p =>
    obtain ⟨-, ho⟩ := Option.ite_none_right_eq_some.mp ho
    split at ho
    · next o' hoffer =>
      cases ho
      exact .inl (Outbox.requested_offer hoffer)
    · cases ho
      exact .inl rfl
  | request s =>
    obtain ⟨-, ho⟩ := Option.ite_none_right_eq_some.mp ho
    cases ho
    exact (requested_moves c.outbox s).imp_right fun h => ⟨s, rfl, h⟩
  | take =>
    obtain ⟨-, ho⟩ := Option.ite_none_right_eq_some.mp ho
    injection ho with ho
    cases ho
    exact .inl (Outbox.requested_take _ _)
  | takeStop =>
    obtain ⟨-, ho⟩ := Option.ite_none_right_eq_some.mp ho
    injection ho with ho
    cases ho
    exact .inl (Outbox.requested_takeStop _)
  | _ =>
    obtain ⟨-, ho⟩ := Option.ite_none_right_eq_some.mp ho
    cases ho
    exact .inl rfl

/-! ## What holds throughout a run -/

/-- The outbox agrees with the log about what was accepted, asked for and handed out. -/
structure Kept (capacity : Nat) (os : List Operation) (log : Log) (c : Channel) : Prop where
  capacity : c.outbox.capacity = max 1 capacity
  attended : c.outbox.attended = true ↔ .abandon ∉ os
  requested : c.outbox.requested = inEffect (asked log)
  reported : c.outbox.reported = (stops log).getLast?
  stops : (stops log).Sublist (escalation (asked log))
  parcels : ∃ lost, accepted log = sent log ++ c.outbox.queued ++ lost ∧
    (c.outbox.attended = true → lost = [])

variable {capacity : Nat} {os : List Operation} {log : Log} {c c' : Channel}

theorem kept_new (capacity : Nat) : Kept capacity [] [] (new capacity) :=
  ⟨rfl, by simp [new, Outbox.new], rfl, rfl, .refl _, [], rfl, fun _ => rfl⟩

/-- What has not been handed out of the requests to stop is pending. -/
theorem Kept.pending (hk : Kept capacity os log c) {s : Stop} (hs : c.outbox.requested = some s)
    (hnot : s ∉ Channel.stops log) : c.outbox.pendingStop? = some s := by
  have hne : c.outbox.requested ≠ c.outbox.reported := by
    rw [hs, hk.reported]
    exact fun he => hnot (List.mem_of_getLast? he.symm)
  rw [Outbox.pendingStop?, if_neg hne, hs]

/-- A request to stop that has been handed out is not pending any more. -/
theorem Kept.not_pending (hk : Kept capacity os log c)
    (hall : ∀ s, c.outbox.requested = some s → s ∈ Channel.stops log) :
    c.outbox.pendingStop? = none := by
  refine if_pos ?_
  have hsub := hk.stops
  rw [hk.reported]
  cases hs : c.outbox.requested with
  | none =>
    rw [hk.requested, ← getLast?_escalation, List.getLast?_eq_none_iff] at hs
    rw [hs, List.sublist_nil] at hsub
    rw [hsub]
    rfl
  | some s =>
    have hmem := hall s hs
    rw [hk.requested, ← getLast?_escalation] at hs
    obtain ⟨before, he⟩ := List.getLast?_eq_some_iff.mp hs
    have hnodup := nodup_escalation (asked log)
    rw [he] at hsub hnodup
    obtain ⟨l₁, l₂, hl, h₁, h₂⟩ := List.sublist_append_iff.mp hsub
    rcases List.sublist_singleton.mp h₂ with rfl | rfl
    · -- It would be there twice.
      rw [hl, List.append_nil] at hmem
      exact absurd rfl ((List.nodup_append.mp hnodup).2.2 s (h₁.subset hmem) s List.mem_cons_self)
    · rw [hl]
      simp

/-- A pending request to stop goes on with the escalation. -/
theorem Kept.hand_out (hk : Kept capacity os log c) {s : Stop} (hs : c.outbox.pendingStop? = some s) :
    (Channel.stops log ++ [s]).Sublist (escalation (asked log)) := by
  have hne : c.outbox.requested ≠ c.outbox.reported := by
    intro he
    rw [Outbox.pendingStop?, if_pos he] at hs
    cases hs
  rw [Outbox.pendingStop?, if_neg hne, hk.requested, ← getLast?_escalation] at hs
  obtain ⟨before, he⟩ := List.getLast?_eq_some_iff.mp hs
  have hsub := hk.stops
  rw [he] at hsub ⊢
  obtain ⟨l₁, l₂, hl, h₁, h₂⟩ := List.sublist_append_iff.mp hsub
  rcases List.sublist_singleton.mp h₂ with rfl | rfl
  · rw [hl, List.append_nil]
    exact h₁.append_right _
  · refine absurd ?_ hne
    rw [hk.requested, hk.reported, hl, ← getLast?_escalation, he]
    simp

/-- A step that neither asks for a stop nor hands one out. -/
theorem Kept.parcelStep (hk : Kept capacity os log c) {o : Operation} {a : Answer}
    (hstays : o ≠ .abandon) (hasked : asked? (o, a) = none) (hstop : stop? (o, a) = none)
    (hsame : c'.outbox = { c.outbox with queued := c'.outbox.queued })
    (hparcels : ∀ lost, (c.outbox.attended = true → lost = []) →
      accepted log = sent log ++ c.outbox.queued ++ lost →
      accepted (log ++ [(o, a)]) = sent (log ++ [(o, a)]) ++ c'.outbox.queued ++ lost) :
    Kept capacity (os ++ [o]) (log ++ [(o, a)]) c' := by
  obtain ⟨lost, hlog, hlost⟩ := hk.parcels
  refine ⟨?_, ?_, ?_, ?_, ?_, lost, hparcels lost hlost hlog, ?_⟩
  · rw [hsame]
    exact hk.capacity
  · rw [hsame, hk.attended]
    simp [Ne.symm hstays]
  · rw [hsame, asked_snoc, hasked]
    simpa using hk.requested
  · rw [hsame, stops_snoc, hstop]
    simpa using hk.reported
  · rw [asked_snoc, stops_snoc, hasked, hstop]
    simpa using hk.stops
  · rw [hsame]
    exact hlost

/-- A step that hands out a pending request to stop. -/
theorem Kept.stopStep (hk : Kept capacity os log c) {s : Stop} {o : Operation} {a : Answer}
    (hstays : o ≠ .abandon) (hasked : asked? (o, a) = none) (hstop : stop? (o, a) = some s)
    (haccepted : accepted? (o, a) = none) (hsent : sent? (o, a) = none)
    (hs : c.outbox.pendingStop? = some s)
    (hsame : c'.outbox = { c.outbox with reported := some s }) :
    Kept capacity (os ++ [o]) (log ++ [(o, a)]) c' := by
  refine ⟨?_, ?_, ?_, ?_, ?_, ?_⟩
  · rw [hsame]
    exact hk.capacity
  · rw [hsame, hk.attended]
    simp [Ne.symm hstays]
  · rw [hsame, asked_snoc, hasked]
    simpa using hk.requested
  · rw [hsame, stops_snoc, hstop]
    simp
  · rw [asked_snoc, stops_snoc, hasked, hstop]
    simpa using hk.hand_out hs
  · rw [hsame, accepted_snoc, sent_snoc, haccepted, hsent]
    simpa using hk.parcels

theorem Kept.step (hk : Kept capacity os log c) {o : Operation} {a : Answer}
    (ho : c.op? o = some (a, c')) : Kept capacity (os ++ [o]) (log ++ [(o, a)]) c' := by
  cases o with
  | offer p =>
    obtain ⟨-, ho⟩ := Option.ite_none_right_eq_some.mp ho
    split at ho
    · next o' hoffer =>
      cases ho
      obtain ⟨haccepts, rfl⟩ := Outbox.offer?_eq_some.mp hoffer
      refine hk.parcelStep (by rintro ⟨⟩) rfl rfl rfl fun lost hlost hlog => ?_
      cases hlost (Outbox.accepts_iff.mp haccepts).1
      simp [hlog, accepted?, sent?]
    · cases ho
      refine hk.parcelStep (by rintro ⟨⟩) rfl rfl rfl fun lost _ hlog => ?_
      simpa [accepted?, sent?] using hlog
  | request s =>
    obtain ⟨-, ho⟩ := Option.ite_none_right_eq_some.mp ho
    cases ho
    refine ⟨?_, ?_, ?_, ?_, ?_, ?_⟩
    · rw [Outbox.request_eq]
      exact hk.capacity
    · rw [Outbox.request_eq]
      simpa using hk.attended
    · rw [asked_snoc]
      exact requested_request hk.requested s
    · rw [Outbox.request_eq]
      simpa [stop?] using hk.reported
    · rw [asked_snoc, stops_snoc]
      simpa [stop?, asked?] using hk.stops.trans (escalation_extends _ s).sublist
    · rw [Outbox.request_eq]
      simpa [accepted?, sent?] using hk.parcels
  | clone =>
    obtain ⟨-, ho⟩ := Option.ite_none_right_eq_some.mp ho
    cases ho
    refine hk.parcelStep (by rintro ⟨⟩) rfl rfl rfl fun lost _ hlog => ?_
    simpa [accepted?, sent?] using hlog
  | drop =>
    obtain ⟨-, ho⟩ := Option.ite_none_right_eq_some.mp ho
    cases ho
    refine hk.parcelStep (by rintro ⟨⟩) rfl rfl rfl fun lost _ hlog => ?_
    simpa [accepted?, sent?] using hlog
  | take =>
    have halive := (Option.ite_none_right_eq_some.mp ho).1
    cases hs : c.outbox.pendingStop? with
    | some s =>
      cases (take_of_pending halive hs).symm.trans ho
      exact hk.stopStep (by rintro ⟨⟩) rfl rfl rfl rfl hs rfl
    | none =>
      cases (take_of_none halive hs).symm.trans ho
      refine hk.parcelStep (by rintro ⟨⟩) rfl ?_ rfl fun lost _ hlog => ?_
      · cases c.outbox.queued <;> by_cases hh : 0 < c.handles <;> simp [hh, stop?]
      · rw [accepted_snoc, sent_snoc, hlog]
        cases c.outbox.queued <;> by_cases hh : 0 < c.handles <;> simp [hh, accepted?, sent?]
  | takeStop =>
    have halive := (Option.ite_none_right_eq_some.mp ho).1
    cases hs : c.outbox.pendingStop? with
    | some s =>
      cases (takeStop_of_pending halive hs).symm.trans ho
      exact hk.stopStep (by rintro ⟨⟩) rfl rfl rfl rfl hs rfl
    | none =>
      cases (takeStop_of_none halive hs).symm.trans ho
      refine hk.parcelStep (by rintro ⟨⟩) rfl rfl rfl fun lost _ hlog => ?_
      simpa [accepted?, sent?] using hlog
  | abandon =>
    obtain ⟨halive, ho⟩ := Option.ite_none_right_eq_some.mp ho
    cases ho
    obtain ⟨lost, hlog, -⟩ := hk.parcels
    refine ⟨hk.capacity, by simp [Outbox.abandon], ?_, ?_, ?_, c.outbox.queued ++ lost, ?_,
      fun h => by cases h⟩
    · simpa [asked?, Outbox.abandon] using hk.requested
    · simpa [stop?, Outbox.abandon] using hk.reported
    · simpa [asked?, stop?] using hk.stops
    · simp [accepted?, sent?, hlog, Outbox.abandon]

theorem kept_of_run (hrun : (new capacity).run os = some (log, c)) : Kept capacity os log c :=
  run_induction (P := Kept capacity) (kept_new capacity) (fun _ _ _ _ _ _ hk ho => hk.step ho) hrun

/-- Whatever is done through the handles and by the reader, in whatever order. -/
theorem outbox_law (hrun : (new capacity).run os = some (log, c)) :
    (c.outbox.requested = inEffect (asked log) ∧
      ∀ o a c', c.op? o = some (a, c') → c'.outbox.requested = c.outbox.requested ∨
        ∃ s, o = .request s ∧ c'.outbox.requested = some s ∧
          (c.outbox.requested = none ∨ s = .terminate ∧ ∃ r, c.outbox.requested = some (.close r))) ∧
    ((∃ r, (stops log).Sublist [.close r, .terminate]) ∧
      ∀ r, .close r ∈ stops log → (asked log).head? = some (.close r)) ∧
    (∀ s, c.outbox.requested = some s → s ∉ stops log → .abandon ∉ os →
      c.op? .take =
        some (.took (.command (.stop s)), { c with outbox := { c.outbox with reported := some s } }) ∧
      c.op? .takeStop =
        some (.stopped (some s), { c with outbox := { c.outbox with reported := some s } })) ∧
    (sent log <+: accepted log ∧
      (.abandon ∉ os → accepted log = sent log ++ c.outbox.queued) ∧
      ((∀ s, c.outbox.requested = some s → s ∈ stops log) → .abandon ∉ os →
        c.op? .take = some (.took (match c.outbox.queued with
          | p :: _ => .command (.send p)
          | [] => if 0 < c.handles then .waiting else .ended),
          { c with outbox := { c.outbox with queued := c.outbox.queued.tail } }) ∧
        c.op? .takeStop = some (.stopped none, c))) ∧
    ∀ p, 0 < c.handles → c.op? (.offer p) =
      if .abandon ∉ os ∧ c.outbox.queued.length < max 1 capacity then
        some (.offered true, { c with outbox := { c.outbox with queued := c.outbox.queued ++ [p] } })
      else some (.offered false, c) := by
  have hk := kept_of_run hrun
  refine ⟨⟨hk.requested, fun o a c' ho => requested_of_op ho⟩, ⟨?_, fun r hr => ?_⟩,
    fun s hs hnot hstays => ?_, ⟨?_, fun hstays => ?_, fun hall hstays => ?_⟩, fun p hp => ?_⟩
  · obtain ⟨r, hr⟩ := escalation_sublist (asked log)
    exact ⟨r, hk.stops.trans hr⟩
  · exact head?_of_close_mem (hk.stops.subset hr)
  · have hpending := hk.pending hs hnot
    have halive := hk.attended.mpr hstays
    exact ⟨take_of_pending halive hpending, takeStop_of_pending halive hpending⟩
  · obtain ⟨lost, hlog, -⟩ := hk.parcels
    rw [hlog, List.append_assoc]
    exact List.prefix_append _ _
  · obtain ⟨lost, hlog, hlost⟩ := hk.parcels
    rw [hlog, hlost (hk.attended.mpr hstays), List.append_nil]
  · have hnone := hk.not_pending hall
    have halive := hk.attended.mpr hstays
    exact ⟨take_of_none halive hnone, takeStop_of_none halive hnone⟩
  · have haccepts : (.abandon ∉ os ∧ c.outbox.queued.length < max 1 capacity) ↔
        c.outbox.accepts = true := by
      rw [Outbox.accepts_iff, hk.attended, hk.capacity]
    simp only [haccepts]
    exact offer_eq hp p

/-- Every handle has gone and a payload waits, but the request to terminate comes first. -/
theorem outbox_law_terminated : ∃ log c, (new 0).run [.clone, .offer (.payload [7]), .offer .probe,
      .request (.close .superseded), .request (.close .shutdown), .take, .drop, .request .terminate,
      .drop] = some (log, c) ∧
    accepted log = [.payload [7]] ∧ stops log = [.close .superseded] ∧ c.handles = 0 ∧
    c.op? .take =
      some (.took (.command (.stop .terminate)),
        { c with outbox := { c.outbox with reported := some .terminate } }) := by
  refine ⟨_, _, rfl, rfl, rfl, rfl, ?_⟩
  have hlaw := outbox_law (show (new 0).run [.clone, .offer (.payload [7]), .offer .probe,
      .request (.close .superseded), .request (.close .shutdown), .take, .drop, .request .terminate,
      .drop] = some (_, _) from rfl)
  exact (hlaw.2.2.1 .terminate rfl (by decide) (by decide)).1

end Channel
end LocationRelay
