import LocationRelay.Gateway.Sweep
import LocationRelay.Proofs.Channel
import Mathlib.Logic.Function.Iterate

/-! # When silence ends a connection

A visit of a sweep judges a connection by what was heard of it since the visit before: if nothing was, a
round has been missed, and enough missed rounds in a row end the connection. Every other visit probes. The
verdict is read off a history that records visits and answers only, whatever else happens between sweeps.
-/
namespace LocationRelay

namespace Table

variable {K V : Type} [DecidableEq K]

theorem adjust_adjust (t : Table K V) (k : K) (f f' : V → V) :
    (t.adjust k f).adjust k f' = t.adjust k (f' ∘ f) := by
  simp only [adjust, List.map_map, mk.injEq]
  refine List.map_congr_left fun e _ => ?_
  simp only [Function.comp]
  split <;> rfl

end Table

/-! ## Visits -/

inductive Verdict where
  /-- It is asked to terminate. -/
  | ended
  | probed
  /-- There is no room for the probe, or nobody reads it. -/
  | unheard
deriving DecidableEq

def Gateway.SweepReport.add (r : SweepReport) : Verdict → SweepReport
  | .ended => { r with terminated := r.terminated + 1 }
  | .probed => { r with probed := r.probed + 1 }
  | .unheard => r

namespace Connection

def Overdue (maxMissed : Nat) (c : Connection) : Prop :=
  c.liveness.alive = false ∧ maxMissed ≤ c.liveness.recordMiss.1

instance (maxMissed : Nat) (c : Connection) : Decidable (c.Overdue maxMissed) :=
  inferInstanceAs (Decidable (_ ∧ _))

def verdict (maxMissed : Nat) (c : Connection) : Verdict :=
  if c.Overdue maxMissed then .ended else if c.outbox.accepts then .probed else .unheard

def visitedLiveness (c : Connection) : Liveness :=
  (if c.liveness.alive then c.liveness else c.liveness.recordMiss.2).arm

def visited (maxMissed : Nat) (c : Connection) : Connection :=
  { c with
    liveness := c.visitedLiveness
    outbox :=
      if c.Overdue maxMissed then c.outbox.terminate
      else (c.outbox.offer? .probe).getD c.outbox }

end Connection

namespace Gateway

variable {g : Gateway} {h : Handle} {c : Connection}

theorem adjust_twice (g : Gateway) (h : Handle) (f f' : Connection → Connection) :
    (g.adjust h f).adjust h f' = g.adjust h (f' ∘ f) := by
  simp only [adjust, Table.adjust_adjust]

theorem probeOnce_eq (hc : g.connection? h = some c) (report : SweepReport) :
    g.probeOnce report h =
      (report.add (if c.outbox.accepts then .probed else .unheard),
        g.adjust h fun c => { c with
          liveness := c.liveness.arm
          outbox := (c.outbox.offer? .probe).getD c.outbox }) := by
  rw [probeOnce, offer_eq (connection_adjust hc _), adjust_twice]
  cases c.outbox.accepts <;> rfl

/-- A visit does to the connection what its verdict says, and counts it. -/
theorem visit_eq (hc : g.connection? h = some c) (maxMissed : Nat) (report : SweepReport) :
    g.visit maxMissed report h =
      (report.add (c.verdict maxMissed), g.adjust h fun c => c.visited maxMissed) := by
  rw [visit, hc]
  dsimp only
  cases ha : c.liveness.alive with
  | true =>
    have hnot : ¬ c.Overdue maxMissed := fun ho => by cases ha.symm.trans ho.1
    rw [if_pos rfl, probeOnce_eq hc, Connection.verdict, if_neg hnot]
    refine congrArg _ (adjust_eq hc ?_)
    rw [Connection.visited, Connection.visitedLiveness, if_neg hnot, if_pos ha]
  | false =>
    rw [if_neg Bool.false_ne_true]
    by_cases hm : maxMissed ≤ c.liveness.recordMiss.1
    · have hover : c.Overdue maxMissed := ⟨ha, hm⟩
      rw [if_pos hm, terminate, adjustOutbox, adjust_twice, Connection.verdict, if_pos hover]
      refine congrArg _ (adjust_eq hc ?_)
      rw [Connection.visited, Connection.visitedLiveness, if_pos hover, ha]
      simp [Liveness.recordMiss, Liveness.arm, ha]
    · have hnot : ¬ c.Overdue maxMissed := fun ho => hm ho.2
      rw [if_neg hm, probeOnce_eq (connection_adjust hc _), adjust_twice, Connection.verdict,
        if_neg hnot]
      refine congrArg _ (adjust_eq hc ?_)
      rw [Connection.visited, Connection.visitedLiveness, if_neg hnot, ha]
      rfl

theorem visit_of_none (hc : g.connection? h = none) (maxMissed : Nat) (report : SweepReport) :
    g.visit maxMissed report h = (report, g) := by
  rw [visit, hc]

def verdicts (maxMissed : Nat) : Gateway → List (Identity × Handle) → List (Option Verdict)
  | _, [] => []
  | g, e :: es =>
    (g.connection? e.2).map (·.verdict maxMissed) ::
      verdicts maxMissed (g.visit maxMissed {} e.2).2 es

def visits (maxMissed : Nat) (g : Gateway) (es : List (Identity × Handle)) : Gateway :=
  es.foldl (fun g e => (g.visit maxMissed {} e.2).2) g

theorem visits_cons (maxMissed : Nat) (g : Gateway) (e : Identity × Handle)
    (es : List (Identity × Handle)) :
    g.visits maxMissed (e :: es) = (g.visit maxMissed {} e.2).2.visits maxMissed es := rfl

/-- What a visit counts and does, whether or not there is a connection. -/
theorem visit_counts (g : Gateway) (maxMissed : Nat) (report : SweepReport) (h : Handle) :
    g.visit maxMissed report h =
      (((g.connection? h).map (·.verdict maxMissed)).elim report report.add,
        (g.visit maxMissed {} h).2) := by
  cases hc : g.connection? h with
  | none => rw [visit_of_none hc, visit_of_none hc]; rfl
  | some c => rw [visit_eq hc, visit_eq hc]; rfl

theorem foldl_visit (maxMissed : Nat) (es : List (Identity × Handle)) (report : SweepReport)
    (g : Gateway) :
    es.foldl (fun acc e => Gateway.visit maxMissed acc.2 acc.1 e.2) (report, g) =
      ({ probed := report.probed + (g.verdicts maxMissed es).count (some .probed)
         terminated := report.terminated + (g.verdicts maxMissed es).count (some .ended) },
        g.visits maxMissed es) := by
  induction es generalizing report g with
  | nil => rfl
  | cons e es ih =>
    rw [List.foldl_cons, visit_counts, ih, verdicts, visits_cons]
    refine congrArg (·, _) ?_
    cases (g.connection? e.2).map (·.verdict maxMissed) with
    | none => simp
    | some v => cases v <;> simp [SweepReport.add, Nat.add_assoc, Nat.add_comm 1]

theorem sweep_eq (g : Gateway) (config : SweepConfig) :
    g.sweep config =
      ({ probed := (g.verdicts config.maxMissed g.registry.entries).count (some .probed)
         terminated := (g.verdicts config.maxMissed g.registry.entries).count (some .ended) },
        (g.visits config.maxMissed g.registry.entries).prune) := by
  have hfold := foldl_visit config.maxMissed g.registry.entries {} g
  rw [Nat.zero_add, Nat.zero_add] at hfold
  exact congrArg (fun acc : SweepReport × Gateway => (acc.1, acc.2.prune)) hfold

theorem registry_visits (maxMissed : Nat) (g : Gateway) (es : List (Identity × Handle)) :
    (g.visits maxMissed es).registry = g.registry := by
  induction es generalizing g with
  | nil => rfl
  | cons e es ih =>
    rw [visits_cons, ih]
    cases hc : g.connection? e.2 with
    | none => rw [visit_of_none hc]
    | some c => rw [visit_eq hc]; rfl

theorem get?_visit (g : Gateway) (maxMissed : Nat) (report : SweepReport) (h : Handle) (slot : Nat) :
    (g.visit maxMissed report h).2.connections.get? slot =
      (g.connections.get? slot).map fun c => if h.slot = slot then c.visited maxMissed else c := by
  cases hc : g.connection? h with
  | none =>
    rw [visit_of_none hc]
    by_cases hs : h.slot = slot
    · subst hs
      rw [show g.connections.get? h.slot = none from hc, Option.map_none]
    · simp only [if_neg hs, Option.map_id']
  | some c =>
    rw [visit_eq hc]
    by_cases hs : h.slot = slot
    · simp [adjust, hs]
    · simp [adjust, hs, Ne.symm hs]

/-- Visits to a connection add up, and visits to others do not matter. -/
theorem get?_visits (maxMissed : Nat) (g : Gateway) (es : List (Identity × Handle)) (slot : Nat) :
    (g.visits maxMissed es).connections.get? slot = (g.connections.get? slot).map
      (Connection.visited maxMissed)^[es.countP fun e => e.2.slot = slot] := by
  induction es generalizing g with
  | nil => exact (congrFun Option.map_id _).symm
  | cons e es ih =>
    rw [visits_cons, ih, get?_visit, Option.map_map, List.countP_cons]
    by_cases hs : e.2.slot = slot
    · simp [hs, Function.comp_def]
    · simp [hs, Function.comp_def]

theorem get?_sweep (g : Gateway) (config : SweepConfig) (slot : Nat) :
    (g.sweep config).2.connections.get? slot = (g.connections.get? slot).map
      (Connection.visited config.maxMissed)^[g.registry.entries.countP fun e => e.2.slot = slot] := by
  rw [sweep_eq]
  exact get?_visits _ g _ slot

/-- The verdict on a connection that has not been visited before in the same sweep. -/
theorem verdicts_at (maxMissed : Nat) {before : List (Identity × Handle)} (i : Identity)
    (after : List (Identity × Handle)) (hfirst : ∀ e ∈ before, e.2.slot ≠ h.slot) (g : Gateway) :
    (g.verdicts maxMissed (before ++ (i, h) :: after))[before.length]? =
      some ((g.connection? h).map (·.verdict maxMissed)) := by
  induction before generalizing g with
  | nil => rfl
  | cons e before ih =>
    obtain ⟨he, hfirst⟩ := List.forall_mem_cons.mp hfirst
    rw [List.cons_append, verdicts, List.length_cons, List.getElem?_cons_succ, ih hfirst]
    simp only [connection?, get?_visit, if_neg he, Option.map_id']

end Gateway

/-! ## What is heard of a connection -/

inductive Sign where
  | visited
  | answered
deriving DecidableEq

/-- The number of rounds in a row that are missed when a connection is visited now, given what was heard
of it until now, the latest first. -/
def streak : List Sign → Nat
  | [] => 0
  | .answered :: _ => 0
  | .visited :: before => streak before + 1

/-- Visits add up as long as nothing is heard. -/
theorem streak_append {signs : List Sign} (hsilent : .answered ∉ signs) (before : List Sign) :
    streak (signs ++ before) = signs.length + streak before := by
  induction signs with
  | nil => exact (Nat.zero_add _).symm
  | cons s signs ih =>
    obtain ⟨hs, hrest⟩ := not_or.mp (List.mem_cons.not.mp hsilent)
    cases s with
    | answered => exact absurd rfl hs
    | visited =>
      rw [List.cons_append, streak, ih hrest, List.length_cons]
      omega

theorem streak_of_silent {signs : List Sign} (h : .answered ∉ signs) : streak signs = signs.length := by
  have happend := streak_append h []
  rwa [List.append_nil] at happend

theorem streak_of_heard {signs : List Sign} (h : signs.head? ≠ some .visited) : streak signs = 0 := by
  cases signs with
  | nil => rfl
  | cons s signs =>
    cases s with
    | answered => rfl
    | visited => exact absurd rfl h

def Liveness.after : List Sign → Liveness
  | [] | .answered :: _ => {}
  | .visited :: before => ⟨false, .ofNat (streak before)⟩

/-- The number told for the `n`-th round missed in a row. -/
def Liveness.tally (n : Nat) : Nat := min ((n - 1) % UInt32.size + 1) (UInt32.size - 1)

theorem Liveness.recordMiss_told {l : Liveness} {n : Nat} (hl : l.missed = .ofNat n) :
    l.recordMiss.1 = tally (n + 1) := by
  unfold recordMiss
  rw [hl, UInt32.toNat_ofNat', tally, Nat.add_sub_cancel]
  rfl

namespace Connection

variable {c : Connection} {signs : List Sign}

theorem visitedLiveness_after (hc : c.liveness = .after signs) :
    c.visitedLiveness = .after (.visited :: signs) := by
  unfold visitedLiveness
  rw [hc]
  cases signs with
  | nil => rfl
  | cons s before =>
    cases s with
    | answered => rfl
    | visited =>
      simp only [Liveness.after, Bool.false_eq_true, if_false, Liveness.recordMiss, Liveness.arm,
        streak, UInt32.ofNat_add, UInt32.ofNat_one]

theorem liveness_visited (maxMissed : Nat) (hc : c.liveness = .after signs) (n : Nat) :
    ((visited maxMissed)^[n] c).liveness = .after (List.replicate n .visited ++ signs) := by
  induction n with
  | zero => exact hc
  | succ n ih =>
    rw [Function.iterate_succ_apply']
    exact visitedLiveness_after ih

/-- The verdict goes by the number that is told for the round that has been missed. -/
theorem overdue_iff_tally {maxMissed : Nat} (hc : c.liveness = .after signs) :
    c.Overdue maxMissed ↔ streak signs ≠ 0 ∧ maxMissed ≤ Liveness.tally (streak signs) := by
  unfold Overdue
  rw [hc]
  cases signs with
  | nil => simp [Liveness.after, streak]
  | cons s before =>
    cases s with
    | answered => simp [Liveness.after, streak]
    | visited =>
      rw [Liveness.recordMiss_told (n := streak before) rfl, streak]
      simp [Liveness.after]

/-- The streak decides, as long as it can be counted. -/
theorem overdue_iff {maxMissed : Nat} (hc : c.liveness = .after signs) (hone : 1 ≤ maxMissed)
    (hcount : streak signs < UInt32.size) : c.Overdue maxMissed ↔ maxMissed ≤ streak signs := by
  rw [overdue_iff_tally hc, Liveness.tally, Nat.mod_eq_of_lt (by omega)]
  omega

end Connection

/-! ## Between sweeps -/

namespace Gateway

inductive Event where
  | sweep
  | answer (h : Handle)
  /-- A payload is forwarded. -/
  | offer (h : Handle) (p : Parcel)
  | take (h : Handle)
  | takeStop (h : Handle)
  | abandon (h : Handle)
  | register (i : Identity) (h : Handle)
  | release (i : Identity) (connId : Nat)
  | close (h : Handle) (reason : CloseReason)
  | terminate (h : Handle)

def happen (config : SweepConfig) (g : Gateway) : Event → Gateway
  | .sweep => (g.sweep config).2
  | .answer h => g.adjust h fun c => { c with liveness := c.liveness.markAlive }
  | .offer h p => (g.offer h p).2
  | .take h => (g.take h).2
  | .takeStop h => g.adjustOutbox h fun o => o.takeStop.2
  | .abandon h => g.adjustOutbox h (·.abandon)
  | .register i h => (g.register i h).2
  | .release i connId => (g.release i connId).2
  | .close h reason => g.close h reason
  | .terminate h => g.terminate h

def signs (slot : Nat) (g : Gateway) : Event → List Sign
  | .sweep => List.replicate (g.registry.entries.countP fun e => e.2.slot = slot) .visited
  | .answer h => if h.slot = slot then [.answered] else []
  | _ => []

/-- Watches a connection through events: what was heard of it, the latest first, and the gateway. -/
def watch (config : SweepConfig) (slot : Nat) (g : Gateway) (es : List Event) : List Sign × Gateway :=
  es.foldl (fun s e => (s.2.signs slot e ++ s.1, s.2.happen config e)) ([], g)

def livenessAt (g : Gateway) (slot : Nat) : Option Liveness :=
  (g.connections.get? slot).map Connection.liveness

theorem livenessAt_adjust (g : Gateway) (h : Handle) (f : Connection → Connection) (slot : Nat) :
    (g.adjust h f).livenessAt slot = if slot = h.slot then
      (g.connections.get? slot).map fun c => (f c).liveness else g.livenessAt slot := by
  simp only [livenessAt, adjust, Table.get?_adjust]
  split
  · rw [Option.map_map]
    rfl
  · rfl

theorem livenessAt_adjustOutbox (g : Gateway) (h : Handle) (f : Outbox → Outbox) (slot : Nat) :
    (g.adjustOutbox h f).livenessAt slot = g.livenessAt slot := by
  rw [adjustOutbox, livenessAt_adjust]
  exact ite_id _

theorem livenessAt_offer (g : Gateway) (h : Handle) (p : Parcel) (slot : Nat) :
    (g.offer h p).2.livenessAt slot = g.livenessAt slot := by
  unfold offer
  split
  · exact livenessAt_adjustOutbox g h _ slot
  · rfl

theorem livenessAt_take (g : Gateway) (h : Handle) (slot : Nat) :
    (g.take h).2.livenessAt slot = g.livenessAt slot := by
  unfold take
  split
  · rfl
  · exact livenessAt_adjustOutbox g h _ slot

theorem livenessAt_register (g : Gateway) (i : Identity) (h : Handle) (slot : Nat) :
    (g.register i h).2.livenessAt slot = g.livenessAt slot := by
  unfold register
  dsimp only
  split
  · exact livenessAt_adjustOutbox _ _ _ slot
  · rfl

theorem livenessAt_sweep {g : Gateway} {slot : Nat} {heard : List Sign} (config : SweepConfig)
    (hg : g.livenessAt slot = some (.after heard)) :
    (g.sweep config).2.livenessAt slot = some (.after (g.signs slot .sweep ++ heard)) := by
  obtain ⟨c, hc, hl⟩ := Option.map_eq_some_iff.mp hg
  rw [livenessAt, get?_sweep, hc, Option.map_some, Option.map_some, Connection.liveness_visited _ hl,
    signs]

/-- The liveness record follows what is heard of the connection, and nothing else. -/
theorem livenessAt_happen {g : Gateway} {slot : Nat} {heard : List Sign} (config : SweepConfig)
    (e : Event) (hg : g.livenessAt slot = some (.after heard)) :
    (g.happen config e).livenessAt slot = some (.after (g.signs slot e ++ heard)) := by
  cases e with
  | sweep => exact livenessAt_sweep config hg
  | answer h =>
    obtain ⟨c, hc, -⟩ := Option.map_eq_some_iff.mp hg
    simp only [happen, signs, livenessAt_adjust, eq_comm (a := slot)]
    split
    · rw [hc]
      rfl
    · exact hg
  | offer h p => exact (livenessAt_offer g h p slot).trans hg
  | take h => exact (livenessAt_take g h slot).trans hg
  | register i h => exact (livenessAt_register g i h slot).trans hg
  | release i connId =>
    rcases release_eq g i connId with he | he
    · exact (congrArg (·.2.livenessAt slot) he).trans hg
    · exact (congrArg (·.2.livenessAt slot) he).trans hg
  | _ => exact (livenessAt_adjustOutbox g _ _ slot).trans hg

theorem livenessAt_watch {config : SweepConfig} {slot : Nat} {g₀ g : Gateway} {es : List Event}
    {heard : List Sign} (hnew : g₀.livenessAt slot = some {})
    (hrun : g₀.watch config slot es = (heard, g)) : g.livenessAt slot = some (.after heard) := by
  have hfold : ∀ (es : List Event) (s : List Sign × Gateway), s.2.livenessAt slot = some (.after s.1) →
      let s' := es.foldl (fun s e => (s.2.signs slot e ++ s.1, s.2.happen config e)) s
      s'.2.livenessAt slot = some (.after s'.1) := by
    intro es
    induction es with
    | nil => exact fun s hs => hs
    | cons e es ih => exact fun s hs => ih _ (livenessAt_happen config e hs)
  have hlast := hfold es ([], g₀) hnew
  rw [← watch, hrun] at hlast
  exact hlast

/-- A connection of which there is no other record is visited once. -/
theorem countP_own {before after : List (Identity × Handle)} {h : Handle} (i : Identity)
    (hown : ∀ e ∈ before ++ after, e.2.slot ≠ h.slot) :
    (before ++ (i, h) :: after).countP (fun e => e.2.slot = h.slot) = 1 := by
  have hothers : (before ++ after).countP (fun e => e.2.slot = h.slot) = 0 :=
    List.countP_eq_zero.mpr fun e he => by simpa using hown e he
  rw [List.countP_append] at hothers
  rw [List.countP_append, List.countP_cons, ← Nat.add_assoc, hothers]
  simp

/-- A visit asks a connection to terminate exactly when enough rounds in a row were missed, and probes it
otherwise. -/
theorem evicts_exactly {period maxMissed slot : Nat} {g₀ g : Gateway} {es : List Event}
    {heard : List Sign} (hnew : g₀.livenessAt slot = some {})
    (hrun : g₀.watch (.of period maxMissed) slot es = (heard, g)) :
    let swept := g.sweep (.of period maxMissed)
    let verdicts := g.verdicts (max 1 maxMissed) g.registry.entries
    swept.2.registry = g.registry ∧
    swept.1.terminated = verdicts.count (some .ended) ∧
    swept.1.probed = verdicts.count (some .probed) ∧
    ∀ i h before after, g.registry.entries = before ++ (i, h) :: after → h.slot = slot →
      (∀ e ∈ before ++ after, e.2.slot ≠ slot) → streak heard < UInt32.size →
      ∃ c c', g.connection? h = some c ∧ swept.2.connection? h = some c' ∧
        (if max 1 maxMissed ≤ streak heard then
          verdicts[before.length]? = some (some .ended) ∧ c'.outbox = c.outbox.terminate
        else
          verdicts[before.length]? = some (some (if c.outbox.accepts then .probed else .unheard)) ∧
          c'.liveness.alive = false ∧ c'.outbox = (c.outbox.offer? .probe).getD c.outbox) ∧
        (.answered ∉ heard → (verdicts[before.length]? = some (some .ended) ↔
          max 1 maxMissed + 1 ≤ heard.length + 1)) ∧
        (heard.head? ≠ some .visited → verdicts[before.length]? ≠ some (some .ended)) := by
  intro swept verdicts
  have hswept := sweep_eq g (.of period maxMissed)
  refine ⟨?_, congrArg (·.1.terminated) hswept, congrArg (·.1.probed) hswept, ?_⟩
  · exact (congrArg (·.2.registry) hswept).trans (registry_visits _ _ _)
  intro i h before after hentries hslot hown hcount
  obtain ⟨c, hc, hl⟩ := Option.map_eq_some_iff.mp (livenessAt_watch hnew hrun)
  have hover := c.overdue_iff hl (Nat.le_max_left 1 maxMissed) hcount
  subst hslot
  have hverdict : verdicts[before.length]? = some (some (c.verdict (max 1 maxMissed))) := by
    have hat := verdicts_at (max 1 maxMissed) i after
      (fun e he => hown e (List.mem_append_left _ he)) g
    rwa [← hentries, show g.connection? h = some c from hc] at hat
  have honce : g.registry.entries.countP (fun e => e.2.slot = h.slot) = 1 :=
    hentries ▸ countP_own i hown
  have hafter : swept.2.connection? h = some (c.visited (max 1 maxMissed)) := by
    refine (get?_sweep g (.of period maxMissed) h.slot).trans ?_
    rw [hc, honce]
    rfl
  have hended : verdicts[before.length]? = some (some .ended) ↔ max 1 maxMissed ≤ streak heard := by
    rw [hverdict, ← hover, Connection.verdict]
    split
    · next ho => simp [ho]
    · next ho => split <;> simp [ho]
  refine ⟨c, _, hc, hafter, ?_, fun hsilent => ?_, fun hheard hv => ?_⟩
  · split
    · next hle => exact ⟨hended.mpr hle, if_pos (hover.mpr hle)⟩
    · next hle =>
      refine ⟨?_, rfl, if_neg (mt hover.mp hle)⟩
      rw [hverdict, Connection.verdict, if_neg (mt hover.mp hle)]
  · rw [hended, streak_of_silent hsilent, Nat.add_le_add_iff_right]
  · have hle := hended.mp hv
    rw [streak_of_heard hheard] at hle
    omega

/-- A connection whose outbox is full answers late, and is ended two missed rounds later, while another one
is probed. -/
theorem evicts_exactly_late :
    let g₀ : Gateway := ((connect {} 1 1).2.connect 2 8).2
    ∃ heard g, g₀.watch (.of 1000 2) 0 [.register ⟨"location.u.a"⟩ ⟨1, 0⟩, .answer ⟨1, 0⟩, .sweep,
        .offer ⟨1, 0⟩ (.payload [7]), .sweep, .answer ⟨1, 0⟩, .sweep, .sweep,
        .register ⟨"location.u.b"⟩ ⟨2, 1⟩] = (heard, g) ∧
      heard = [.visited, .visited, .answered, .visited, .visited, .answered] ∧
      g.registry.entries = [(⟨"location.u.b"⟩, ⟨2, 1⟩), (⟨"location.u.a"⟩, ⟨1, 0⟩)] ∧
      ∃ c c', g.connection? ⟨1, 0⟩ = some c ∧ c.outbox.queued = [.probe] ∧
        (g.sweep (.of 1000 2)).2.connection? ⟨1, 0⟩ = some c' ∧ c'.outbox = c.outbox.terminate := by
  intro g₀
  let es : List Event := [.register ⟨"location.u.a"⟩ ⟨1, 0⟩, .answer ⟨1, 0⟩, .sweep,
    .offer ⟨1, 0⟩ (.payload [7]), .sweep, .answer ⟨1, 0⟩, .sweep, .sweep,
    .register ⟨"location.u.b"⟩ ⟨2, 1⟩]
  have hheard : (g₀.watch (.of 1000 2) 0 es).1 =
      [.visited, .visited, .answered, .visited, .visited, .answered] := by decide
  have hentries : (g₀.watch (.of 1000 2) 0 es).2.registry.entries =
      [(⟨"location.u.b"⟩, ⟨2, 1⟩)] ++ (⟨"location.u.a"⟩, ⟨1, 0⟩) :: [] := by decide
  have hqueued : ((g₀.watch (.of 1000 2) 0 es).2.connection? ⟨1, 0⟩).map (·.outbox.queued) =
      some [.probe] := by decide
  obtain ⟨⟨heard, g⟩, hrun⟩ : ∃ s, g₀.watch (.of 1000 2) 0 es = s := ⟨_, rfl⟩
  rw [hrun] at hheard hentries hqueued
  obtain rfl : heard = _ := hheard
  have hlaw := evicts_exactly (show g₀.livenessAt 0 = some {} from rfl) hrun
  obtain ⟨c, c', hc, hc', hended, -, -⟩ :=
    hlaw.2.2.2 _ _ _ _ hentries rfl (by decide) (by decide)
  rw [if_pos (by decide)] at hended
  obtain ⟨c₁, hc₁, hprobe⟩ := Option.map_eq_some_iff.mp hqueued
  cases hc.symm.trans hc₁
  exact ⟨_, g, hrun, rfl, hentries, c, c', hc, hprobe, hc', hended.2⟩

end Gateway
end LocationRelay
