import LocationRelay.Proofs.Consistency
import LocationRelay.Proofs.Eviction

/-! # How far missed rounds are counted

The rounds that a peer misses in a row are counted in 32 bits, and past its limit the count starts again, while
the number that is told stays at the limit for one round. As long as the limit is not passed, a connection that
has been asked to terminate is asked again by every sweep that finds it still silent; the first sweep after it
goes back to probing, unless a single missed round is enough. Main statement: the number told for every missed
round, and from it the verdict of every visit in every run.
-/
namespace LocationRelay

/-! ## Counting on a record -/

namespace Liveness

inductive Quiet where
  | armed
  | missed
deriving DecidableEq

def told : Liveness → List Quiet → List Nat
  | _, [] => []
  | l, .armed :: qs => l.arm.told qs
  | l, .missed :: qs => l.recordMiss.1 :: l.recordMiss.2.told qs

theorem told_eq {l : Liveness} {n : Nat} (hl : l.missed = .ofNat n) (qs : List Quiet) :
    l.told qs = (List.range' (n + 1) (qs.count .missed)).map tally := by
  induction qs generalizing l n with
  | nil => rfl
  | cons q qs ih =>
    cases q with
    | armed => exact ih (l := l.arm) hl
    | missed =>
      have hnext : l.recordMiss.2.missed = .ofNat (n + 1) := by
        rw [recordMiss, hl, UInt32.ofNat_add]
        rfl
      rw [told, recordMiss_told hl, ih hnext, List.count_cons_self, List.range'_succ, List.map_cons]

/-- Past the limit of the count the number told stays at the limit only where the count has just come to it. -/
theorem tally_eq_min_iff {n : Nat} (hn : 1 ≤ n) : tally n = min n (UInt32.size - 1) ↔
    n ≤ UInt32.size ∨ n % UInt32.size = 0 ∨ n % UInt32.size = UInt32.size - 1 := by
  unfold tally
  rw [UInt32.size]
  omega

end Liveness

theorem streak_replicate (n : Nat) (before : List Sign) :
    streak (List.replicate n .visited ++ before) = n + streak before := by
  have hsilent : Sign.answered ∉ List.replicate n Sign.visited := fun hin => by
    cases List.eq_of_mem_replicate hin
  rw [streak_append hsilent, List.length_replicate]

namespace Connection

variable {c : Connection} {signs : List Sign} {maxMissed : Nat}

theorem verdict_eq_ended : c.verdict maxMissed = .ended ↔ c.Overdue maxMissed := by
  unfold verdict
  split
  · next ho => exact iff_of_true rfl ho
  · next ho => split <;> exact iff_of_false (by rintro ⟨⟩) ho

end Connection

namespace Gateway

variable {g g' g₁ g₂ : Gateway} {slot maxMissed : Nat}

/-! ## The visits of a sweep -/

theorem verdicts_append (maxMissed : Nat) (g : Gateway) (es es' : List (Identity × Handle)) :
    g.verdicts maxMissed (es ++ es') =
      g.verdicts maxMissed es ++ (g.visits maxMissed es).verdicts maxMissed es' := by
  induction es generalizing g with
  | nil => rfl
  | cons e es ih => rw [List.cons_append, verdicts, ih, verdicts, visits_cons, List.cons_append]

theorem length_verdicts (maxMissed : Nat) (g : Gateway) (es : List (Identity × Handle)) :
    (g.verdicts maxMissed es).length = es.length := by
  induction es generalizing g with
  | nil => rfl
  | cons e es ih => rw [verdicts, List.length_cons, ih, List.length_cons]

/-- A sweep that has already visited the connection of a slot `k` times comes to it again, with a verdict. -/
def Visits (g : Gateway) (maxMissed slot k : Nat) (v : Verdict) : Prop :=
  ∃ before i h after, g.registry.entries = before ++ (i, h) :: after ∧ h.slot = slot ∧
    before.countP (fun e => e.2.slot = slot) = k ∧
    (g.verdicts maxMissed g.registry.entries)[before.length]? = some (some v)

/-- The verdict is on the connection as the earlier visits have left it. -/
theorem Visits.spec {k : Nat} {v : Verdict} (hv : g.Visits maxMissed slot k v) :
    k < g.registry.entries.countP (fun e => e.2.slot = slot) ∧
      ∃ c, g.connections.get? slot = some c ∧
        ((Connection.visited maxMissed)^[k] c).verdict maxMissed = v := by
  obtain ⟨before, i, h, after, hentries, rfl, rfl, hat⟩ := hv
  rw [hentries] at hat ⊢
  constructor
  · simp [List.countP_append]
  · rw [verdicts_append, List.getElem?_append_right (Nat.le_of_eq (length_verdicts ..)), length_verdicts,
      Nat.sub_self, verdicts, List.getElem?_cons_zero, connection?, get?_visits, Option.map_map,
      Option.some_inj, Option.map_eq_some_iff] at hat
    exact hat

/-! ## What is heard along a run -/

def signsOf (slot : Nat) (g : Gateway) : Action → List Sign
  | .sweep _ => g.signs slot .sweep
  | .answer h => g.signs slot (.answer h)
  | _ => []

def heard (slot : Nat) (g : Gateway) (as : List Action) : List Sign :=
  (noted (signsOf slot) g as).reverse

theorem reverse_signsOf (slot : Nat) (g : Gateway) (a : Action) :
    (signsOf slot g a).reverse = signsOf slot g a := by
  cases a with
  | sweep config => exact List.reverse_replicate
  | answer h =>
    rw [signsOf, signs]
    split <;> rfl
  | _ => rfl

theorem heard_append {as : List Action} (hrun : g.run as = some g₁) (bs : List Action) :
    heard slot g (as ++ bs) = heard slot g₁ bs ++ heard slot g as := by
  rw [heard, noted_append _ hrun, List.reverse_append, heard, heard]

theorem heard_singleton (slot : Nat) (g : Gateway) (a : Action) : heard slot g [a] = signsOf slot g a := by
  have hnoted : noted (signsOf slot) g ([] ++ [a]) = [] ++ signsOf slot g a :=
    noted_snoc (signsOf slot) (show g.run [] = some g from rfl) a
  rw [heard, ← List.nil_append [a], hnoted]
  exact reverse_signsOf slot g a

theorem heard_sweep (slot : Nat) (g : Gateway) (config : SweepConfig) : heard slot g [.sweep config] =
    List.replicate (g.registry.entries.countP fun e => e.2.slot = slot) .visited :=
  heard_singleton slot g _

theorem not_answered_sweep (slot : Nat) (g : Gateway) (config : SweepConfig) :
    .answered ∉ heard slot g [.sweep config] := by
  rw [heard_sweep]
  exact fun hin => by cases List.eq_of_mem_replicate hin

/-- The relays neither visit nor hear anybody. -/
theorem unseen_relayStep {s : StreamId} {r : Relay} (hs : RelayStep g s r g') :
    Unseen Connection.liveness g g' := by
  cases hs with
  | @delivers d b _ =>
    change Unseen Connection.liveness g (forward { g with broker := b } r.identity d.payload).2
    cases hreg : g.registry.get? r.identity with
    | none =>
      rw [forward, hreg]
      exact .refl g
    | some h =>
      rw [forward_registered (g := { g with broker := b }) hreg]
      exact livenessAt_offer { g with broker := b } h _
  | loses _ =>
    unfold loseSubscription
    dsimp only
    split
    · split
      · exact livenessAt_adjustOutbox (g.unrelayed s) _ _
      · exact .refl g
    · exact .refl g

/-- An action leaves the liveness record of a connection that says what was heard of it; a new connection has
the record of one of which nothing was heard. -/
theorem Consistent.liveness_act {a : Action} {past : List Sign} (hg : g.Consistent)
    (ha : g.act? a = some g') (hl : (g.livenessAt slot).getD {} = .after past) :
    (g'.livenessAt slot).getD {} = .after (signsOf slot g a ++ past) := by
  have hunseen : Unseen Connection.liveness g g' →
      (g'.livenessAt slot).getD {} = Liveness.after past :=
    fun hs => (congrArg (·.getD {}) (hs slot)).trans hl
  cases a with
  | connect connId capacity =>
    cases ha
    rw [livenessAt, connect, Table.get?_insert]
    split
    · next he =>
      -- Nothing was there before, so what was heard until now says nothing.
      have hnone : g.livenessAt slot = none := by
        rw [livenessAt, (hg.handled.slots slot).mpr (Nat.le_of_eq he.symm), Option.map_none]
      rw [hnone] at hl
      exact hl
    · exact hl
  | sweep config =>
    cases ha
    cases hc : g.livenessAt slot with
    | some l =>
      rw [hc, Option.getD_some] at hl
      rw [livenessAt_sweep config (hl ▸ hc)]
      rfl
    | none =>
      have hopened : ∀ e ∈ g.registry.entries, ¬ decide (e.2.slot = slot) = true := by
        intro e he hslot
        have hreg := hg.handled.registered e.1 e.2 (g.registry.mem_entries_iff.mp he)
        rw [Opened, connection?, of_decide_eq_true hslot] at hreg
        exact hreg (Option.map_eq_none_iff.mp hc)
      have hnone : (g.sweep config).2.livenessAt slot = none := by
        rw [livenessAt, get?_sweep, Option.map_eq_none_iff.mp hc]
        rfl
      rw [hnone, signsOf, signs, List.countP_eq_zero.mpr hopened]
      rw [hc] at hl
      exact hl
  | answer h =>
    cases ha
    rw [livenessAt_adjust, signsOf, signs]
    by_cases hslot : slot = h.slot
    · rw [if_pos hslot, if_pos hslot.symm]
      cases g.connections.get? slot <;> rfl
    · rw [if_neg hslot, if_neg (Ne.symm hslot)]
      exact hl
  | bind p h =>
    obtain ⟨-, ha⟩ := Option.ite_none_right_eq_some.mp ha
    cases ha
    exact hl
  | advance t =>
    obtain ⟨c, -, hs⟩ := callStep_of_step ha (hg.locking.isPublic t)
    exact hunseen (.callStep (fun _ _ => rfl) hs)
  | relay s =>
    obtain ⟨r, -, hs⟩ := relayStep_of_step ha
    exact hunseen (unseen_relayStep hs)
  | take h => cases ha; exact hunseen (livenessAt_take g h)
  | takeStop h => cases ha; exact hunseen (.adjust fun _ => rfl)
  | dropHandle h => cases ha; exact hunseen (.adjust fun _ => rfl)
  | dropOutbox h => cases ha; exact hunseen (.adjust fun _ => rfl)
  | close h reason => cases ha; exact hunseen (.adjust fun _ => rfl)
  | terminate h => cases ha; exact hunseen (.adjust fun _ => rfl)
  | _ => cases ha; exact hl

theorem liveness_of_run {exchange : String} {refusing : Bool} {as : List Action}
    (hrun : run { exchange, broker := { refusing } } as = some g) (slot : Nat) :
    (g.livenessAt slot).getD {} = .after (heard slot { exchange, broker := { refusing } } as) := by
  refine run_induction (P := fun as g => (g.livenessAt slot).getD {} =
    .after (heard slot { exchange, broker := { refusing } } as)) rfl ?_ hrun
  intro as g a g' hrun hl ha
  rw [heard_append hrun, heard_singleton]
  exact ((consistent_fresh exchange refusing).run hrun).liveness_act ha hl

/-! ## The verdicts of a run -/

/-- The rounds in a row that the connection of a slot has missed after a run, when a sweep comes to it that has
visited it `k` times already. -/
def missedRounds (slot : Nat) (g : Gateway) (as : List Action) (k : Nat) : Nat :=
  streak (List.replicate k .visited ++ heard slot g as)

theorem missedRounds_eq (slot : Nat) (g : Gateway) (as : List Action) (k : Nat) :
    missedRounds slot g as k = k + streak (heard slot g as) := streak_replicate k _

/-- A visit asks the connection to terminate exactly when the number told for the round it has missed is large
enough. -/
theorem Visits.ended_iff {exchange : String} {refusing : Bool} {as : List Action} {k : Nat} {v : Verdict}
    (hv : g.Visits maxMissed slot k v) (hrun : run { exchange, broker := { refusing } } as = some g) :
    v = .ended ↔ missedRounds slot { exchange, broker := { refusing } } as k ≠ 0 ∧
      maxMissed ≤ Liveness.tally (missedRounds slot { exchange, broker := { refusing } } as k) := by
  obtain ⟨-, c, hc, rfl⟩ := hv.spec
  have hl := liveness_of_run hrun slot
  rw [livenessAt, hc, Option.map_some, Option.getD_some] at hl
  rw [Connection.verdict_eq_ended, Connection.overdue_iff_tally (Connection.liveness_visited _ hl k),
    missedRounds]

/-- Every visit between two others, the first of them included, adds to the rounds that are missed. -/
theorem missedRounds_silent {as bs : List Action} {config : SweepConfig} {k l : Nat}
    (hrun : g.run as = some g₁) (hk : k < g₁.registry.entries.countP fun e => e.2.slot = slot)
    (hsilent : .answered ∉ heard slot g₁ (.sweep config :: bs)) :
    missedRounds slot g as k < missedRounds slot g (as ++ .sweep config :: bs) l := by
  have hsweep : g₁.run [.sweep config] = some (g₁.sweep config).2 := rfl
  have hlater : heard slot g₁ (.sweep config :: bs) =
      heard slot (g₁.sweep config).2 bs ++ heard slot g₁ [.sweep config] := heard_append hsweep bs
  rw [missedRounds_eq, missedRounds_eq, heard_append hrun, streak_append hsilent, hlater,
    List.length_append, heard_sweep, List.length_replicate]
  omega

/-- Once a sweep has asked a connection to terminate, a later one that finds it still silent asks again as long
as the count has not started again below what is asked for. -/
theorem Visits.asks_again {exchange : String} {refusing : Bool} {as bs : List Action}
    {config : SweepConfig} {k l : Nat} {v : Verdict}
    (hv : g.Visits config.maxMissed slot k .ended) (hv' : g'.Visits config.maxMissed slot l v)
    (hrun : run { exchange, broker := { refusing } } as = some g)
    (hrun' : g.run (.sweep config :: bs) = some g')
    (hsilent : .answered ∉ heard slot g (.sweep config :: bs)) :
    let missed := missedRounds slot { exchange, broker := { refusing } } (as ++ .sweep config :: bs) l
    (v = .ended ↔ config.maxMissed ≤ (missed - 1) % UInt32.size + 1) ∧
      (missed ≤ UInt32.size → v = .ended) := by
  intro missed
  have hwhole := run_append_eq_some.mpr ⟨g, hrun, hrun'⟩
  obtain ⟨-, htold⟩ := (hv.ended_iff hrun).mp rfl
  rw [Liveness.tally] at htold
  have hmore : missedRounds slot { exchange, broker := { refusing } } as k < missed :=
    missedRounds_silent hrun hv.spec.1 hsilent
  have hended : v = .ended ↔ missed ≠ 0 ∧ config.maxMissed ≤ Liveness.tally missed :=
    hv'.ended_iff hwhole
  rw [Liveness.tally] at hended
  have hnow : v = .ended ↔ config.maxMissed ≤ (missed - 1) % UInt32.size + 1 := by
    rw [hended]
    omega
  refine ⟨hnow, fun hle => hnow.mpr ?_⟩
  have hmod := Nat.mod_le (missedRounds slot { exchange, broker := { refusing } } as k - 1) UInt32.size
  rw [Nat.mod_eq_of_lt (by omega)]
  omega

/-! ## One silent connection -/

variable {i : Identity} {h : Handle} {c : Connection}

theorem visits_first {after : List (Identity × Handle)}
    (hentries : g.registry.entries = (i, h) :: after) (hc : g.connection? h = some c)
    (maxMissed : Nat) : g.Visits maxMissed h.slot 0 (c.verdict maxMissed) := by
  refine ⟨[], i, h, after, hentries, rfl, rfl, ?_⟩
  rw [hentries, verdicts, hc]
  rfl

/-- Sweeps of a gateway in which nobody else is registered. -/
theorem run_sweeps (config : SweepConfig) (hentries : g.registry.entries = [(i, h)])
    (hc : g.connection? h = some c) (n : Nat) :
    ∃ g', g.run (List.replicate n (.sweep config)) = some g' ∧ g'.registry.entries = [(i, h)] ∧
      g'.connection? h = some ((Connection.visited config.maxMissed)^[n] c) := by
  induction n generalizing g c with
  | zero => exact ⟨g, rfl, hentries, hc⟩
  | succ n ih =>
    have hregistry : (g.sweep config).2.registry = g.registry := by
      rw [sweep_eq]
      exact registry_visits _ g _
    have hvisited : (g.sweep config).2.connection? h = some (c.visited config.maxMissed) := by
      rw [connection?, get?_sweep, hentries, show g.connections.get? h.slot = some c from hc]
      simp
    obtain ⟨g', hrun, hrest⟩ := ih (hregistry ▸ hentries) hvisited
    exact ⟨g', run_cons_eq_some.mpr ⟨_, rfl, hrun⟩, hrest⟩

/-- The visits of two sweeps in a row. -/
theorem visits_twice (config : SweepConfig) (hentries : g.registry.entries = [(i, h)])
    (hc : g.connection? h = some c) (n : Nat) :
    ∃ g₁ g₂, g.run (List.replicate n (.sweep config)) = some g₁ ∧ g₁.run [.sweep config] = some g₂ ∧
      g₁.Visits config.maxMissed h.slot 0
        (((Connection.visited config.maxMissed)^[n] c).verdict config.maxMissed) ∧
      g₂.Visits config.maxMissed h.slot 0
        (((Connection.visited config.maxMissed)^[n + 1] c).verdict config.maxMissed) := by
  obtain ⟨g₁, hrun₁, hentries₁, hc₁⟩ := run_sweeps config hentries hc n
  obtain ⟨g₂, hrun₂, hentries₂, hc₂⟩ := run_sweeps config hentries₁ hc₁ 1
  rw [← Function.iterate_add_apply, Nat.add_comm] at hc₂
  exact ⟨g₁, g₂, hrun₁, hrun₂, visits_first hentries₁ hc₁ _, visits_first hentries₂ hc₂ _⟩

theorem overdue_iterate (hc : c.liveness = {}) (maxMissed n : Nat) :
    ((Connection.visited maxMissed)^[n] c).Overdue maxMissed ↔
      n ≠ 0 ∧ maxMissed ≤ Liveness.tally n := by
  have hl : ((Connection.visited maxMissed)^[n] c).liveness = .after (List.replicate n .visited ++ []) :=
    Connection.liveness_visited maxMissed hc n
  rw [Connection.overdue_iff_tally hl, streak_replicate, streak, Nat.add_zero]

/-- Visits that ask a connection to terminate leave the room in its outbox as it is. -/
theorem accepts_iterate {maxMissed m : Nat} (n : Nat)
    (hover : ∀ k, m ≤ k → k < m + n → ((Connection.visited maxMissed)^[k] c).Overdue maxMissed) :
    ((Connection.visited maxMissed)^[m + n] c).outbox.accepts =
      ((Connection.visited maxMissed)^[m] c).outbox.accepts := by
  induction n with
  | zero => rfl
  | succ n ih =>
    rw [← ih fun k hm hk => hover k hm (by omega), Nat.add_succ, Function.iterate_succ_apply',
      Connection.visited, if_pos (hover (m + n) (by omega) (by omega)), Outbox.terminate,
      Outbox.request_eq]
    rfl

/-! ## The verdicts of all runs -/

/-- The number told for every missed round, where it is the number of the round or the limit of the count, and
what follows for the visits of all runs. -/
theorem missed_rounds_counted (exchange : String) (refusing : Bool) :
    let g₀ : Gateway := { exchange, broker := { refusing } }
    (∀ (l : Liveness) (qs : List Liveness.Quiet), l.missed = 0 →
      l.told qs = (List.range' 1 (qs.count .missed)).map Liveness.tally) ∧
    (∀ n, 1 ≤ n → (Liveness.tally n = min n (UInt32.size - 1) ↔
      n ≤ UInt32.size ∨ n % UInt32.size = 0 ∨ n % UInt32.size = UInt32.size - 1)) ∧
    (∀ as g slot maxMissed k v, g₀.run as = some g → g.Visits maxMissed slot k v →
      (v = .ended ↔ missedRounds slot g₀ as k ≠ 0 ∧
        maxMissed ≤ Liveness.tally (missedRounds slot g₀ as k))) ∧
    ∀ as bs g g' config slot k l v, g₀.run as = some g →
      g.Visits config.maxMissed slot k .ended →
      g.run (.sweep config :: bs) = some g' → .answered ∉ heard slot g (.sweep config :: bs) →
      g'.Visits config.maxMissed slot l v →
        let missed := missedRounds slot g₀ (as ++ .sweep config :: bs) l
        (v = .ended ↔ config.maxMissed ≤ (missed - 1) % UInt32.size + 1) ∧
          (missed ≤ UInt32.size → v = .ended) := by
  intro g₀
  refine ⟨fun l qs hl => Liveness.told_eq hl qs, fun n hn => Liveness.tally_eq_min_iff hn, ?_, ?_⟩
  · intro as g slot maxMissed k v hrun hv
    exact hv.ended_iff hrun
  · intro as bs g g' config slot k l v hrun hv hrun' hsilent hv'
    exact hv.asks_again hv' hrun hrun' hsilent

/-- A connection that has missed two rounds is asked to terminate, and asked again when it has missed a third. -/
theorem missed_rounds_counted_silent :
    ({} : Liveness).told [.missed, .armed, .missed] = [1, 2] ∧ Liveness.tally 2 = min 2 (UInt32.size - 1) ∧
    ∃ g g', ({} : Gateway).run [.connect 1 4, .bind ⟨⟨"ada", by decide⟩, ⟨"phone", by decide⟩⟩ ⟨1, 0⟩,
        .advance 0, .sweep (.of 1000 2), .sweep (.of 1000 2)] = some g ∧ g.Visits 2 0 0 .ended ∧
      g.run [.sweep (.of 1000 2)] = some g' ∧ .answered ∉ heard 0 g [.sweep (.of 1000 2)] ∧
      g'.Visits 2 0 0 .ended := by
  obtain ⟨htold, htally, hended, hagain⟩ := missed_rounds_counted defaultExchange false
  refine ⟨htold {} _ rfl, (htally 2 (by decide)).mpr (by decide), ?_⟩
  obtain ⟨g', hwhole⟩ := Option.isSome_iff_exists.mp (show (({} : Gateway).run
    ([.connect 1 4, .bind ⟨⟨"ada", by decide⟩, ⟨"phone", by decide⟩⟩ ⟨1, 0⟩, .advance 0,
      .sweep (.of 1000 2), .sweep (.of 1000 2)] ++ [.sweep (.of 1000 2)])).isSome = true by rfl)
  obtain ⟨g, hrun, hrun'⟩ := run_append_eq_some.mp hwhole
  have hentries : g.registry.entries = [(⟨"location.ada.phone"⟩, ⟨1, 0⟩)] :=
    run_shows hrun (fun g => g.registry.entries) rfl
  have hentries' : g'.registry.entries = [(⟨"location.ada.phone"⟩, ⟨1, 0⟩)] :=
    run_shows hwhole (fun g => g.registry.entries) rfl
  have hsilent := not_answered_sweep 0 g (.of 1000 2)
  obtain ⟨c, hc⟩ := Option.isSome_iff_exists.mp (run_shows hrun (fun g => (g.connection? ⟨1, 0⟩).isSome) rfl)
  obtain ⟨c', hc'⟩ :=
    Option.isSome_iff_exists.mp (run_shows hwhole (fun g => (g.connection? ⟨1, 0⟩).isSome) rfl)
  have hfirst : g.Visits 2 0 0 .ended := by
    have hv := visits_first hentries hc 2
    rwa [(hended _ g 0 2 0 _ hrun hv).mpr (by decide)] at hv
  have hlater : g'.Visits 2 0 0 .ended := by
    have hv := visits_first hentries' hc' 2
    rwa [(hagain _ [] g g' (.of 1000 2) 0 0 0 _ hrun hfirst hrun' hsilent hv).2 (by decide)] at hv
  exact ⟨g, g', hrun, hfirst, hrun', hsilent, hlater⟩

/-- A connection that never answers is asked to terminate when it has missed as many rounds as the count has
numbers, and is probed again by the next sweep, for which it has missed one round. -/
theorem probed_past_limit :
    (({} : Liveness).told (List.replicate (UInt32.size + 1) .missed))[UInt32.size]? = some 1 ∧
    1 ≠ min (UInt32.size + 1) (UInt32.size - 1) ∧
    ∃ g g', ({} : Gateway).run ([.connect 1 4, .bind ⟨⟨"ada", by decide⟩, ⟨"phone", by decide⟩⟩ ⟨1, 0⟩,
        .advance 0] ++ List.replicate UInt32.size (.sweep (.of 1000 2))) = some g ∧
      g.Visits 2 0 0 .ended ∧ g.run [.sweep (.of 1000 2)] = some g' ∧
      .answered ∉ heard 0 g [.sweep (.of 1000 2)] ∧ g'.Visits 2 0 0 .probed := by
  have hlimit : Liveness.tally (UInt32.size + 1) = 1 := by decide
  -- The limit becomes a variable, lest the sweeps be carried out one by one.
  obtain ⟨n, hn⟩ : ∃ n, n = UInt32.size := ⟨_, rfl⟩
  rw [← hn] at hlimit ⊢
  refine ⟨?_, by rw [hn]; decide, ?_⟩
  · rw [Liveness.told_eq (n := 0) rfl, List.count_replicate_self, List.getElem?_map,
      List.getElem?_range' (Nat.lt_succ_self n), Option.map_some, Nat.one_mul, Nat.zero_add,
      Nat.add_comm, hlimit]
  · obtain ⟨g₀, hrun₀⟩ := Option.isSome_iff_exists.mp (show (({} : Gateway).run
      [.connect 1 4, .bind ⟨⟨"ada", by decide⟩, ⟨"phone", by decide⟩⟩ ⟨1, 0⟩,
        .advance 0]).isSome = true by rfl)
    have hentries : g₀.registry.entries = [(⟨"location.ada.phone"⟩, ⟨1, 0⟩)] :=
      run_shows hrun₀ (fun g => g.registry.entries) rfl
    have hc : g₀.connection? ⟨1, 0⟩ = some { outbox := .new 4 } :=
      run_shows hrun₀ (fun g => g.connection? ⟨1, 0⟩) rfl
    obtain ⟨g, g', hrun, hrun', hended, hprobed⟩ := visits_twice (.of 1000 2) hentries hc n
    rw [show (SweepConfig.of 1000 2).maxMissed = 2 from rfl] at hended hprobed
    have hover := overdue_iterate (c := { outbox := .new 4 }) rfl 2
    have hlast : ∀ k, 2 ≤ k → k < 2 + (n - 1) →
        ((Connection.visited 2)^[k] { outbox := .new 4 }).Overdue 2 := by
      intro k hk hkn
      rw [UInt32.size] at hn
      rw [hover, Liveness.tally, UInt32.size]
      omega
    have hn₂ : 2 + (n - 1) = n + 1 := by rw [hn, UInt32.size]
    have hroom : ((Connection.visited 2)^[n + 1] { outbox := .new 4 }).outbox.accepts = true := by
      rw [← hn₂, accepts_iterate _ hlast]
      rfl
    have hnot : ¬ ((Connection.visited 2)^[n + 1] { outbox := .new 4 }).Overdue 2 := by
      rw [hover, hlimit]
      exact fun hends => absurd hends.2 (by decide)
    rw [Connection.verdict_eq_ended.mpr (hlast n (by rw [hn]; decide) (by omega))] at hended
    rw [Connection.verdict, if_neg hnot, if_pos hroom] at hprobed
    exact ⟨g, g', run_append_eq_some.mpr ⟨g₀, hrun₀, hrun⟩, hended, hrun', not_answered_sweep 0 g _,
      hprobed⟩

end Gateway
end LocationRelay
