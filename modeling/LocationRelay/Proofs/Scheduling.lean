import LocationRelay.Gateway.Loop
import LocationRelay.Proofs.Consistency
import Mathlib.Logic.Relation

/-! # The loop is a run

The event loop decides in which order calls and relays go on, and nothing else: each of its turns is a sequence
of actions of a run, and so is all that it does until nothing is ready. What is proved of every run therefore
holds of every gateway that a loop comes to.
-/
namespace LocationRelay.Gateway

def Action.isTurn : Action → Bool
  | .advance _ | .relay _ => true
  | _ => false

/-- One gateway comes from another by turns of calls and relays. -/
def TurnsTo (g g' : Gateway) : Prop := ∃ as, (∀ a ∈ as, Action.isTurn a = true) ∧ g.run as = some g'

namespace TurnsTo

variable {g g₁ g' : Gateway}

theorem refl (g : Gateway) : TurnsTo g g := ⟨[], List.forall_mem_nil _, rfl⟩

theorem head {a : Action} (hturn : a.isTurn = true) (ha : g.act? a = some g₁) (h : TurnsTo g₁ g') :
    TurnsTo g g' := by
  obtain ⟨as, has, hrun⟩ := h
  exact ⟨a :: as, List.forall_mem_cons.mpr ⟨hturn, has⟩, run_cons_eq_some.mpr ⟨g₁, ha, hrun⟩⟩

theorem trans (h : TurnsTo g g₁) (h' : TurnsTo g₁ g') : TurnsTo g g' := by
  obtain ⟨as, has, hrun⟩ := h
  obtain ⟨bs, hbs, hrun'⟩ := h'
  exact ⟨as ++ bs, List.forall_mem_append.mpr ⟨has, hbs⟩, run_append_eq_some.mpr ⟨g₁, hrun, hrun'⟩⟩

/-- An action with the turns that follow it. -/
theorem run_cons {a : Action} (ha : g.act? a = some g₁) (h : TurnsTo g₁ g') : ∃ as, g.run (a :: as) = some g' := by
  obtain ⟨as, -, hrun⟩ := h
  exact ⟨as, run_cons_eq_some.mpr ⟨g₁, ha, hrun⟩⟩

end TurnsTo

namespace Loop

theorem turnsTo_runCall (t : Ticket) (n : Nat) (l : Loop) : TurnsTo l.gateway (runCall t n l).gateway := by
  induction n generalizing l with
  | zero => exact .refl _
  | succ n ih =>
    rw [runCall]
    cases hstep : l.gateway.step? t with
    | none => exact .refl _
    | some g =>
      have hg : l.gateway.act? (.advance t) = some g := hstep
      dsimp only
      refine .head rfl hg ?_
      cases (g.calls.get? t).bind Call.declared? with
      | none => exact ih { l with gateway := g }
      | some declared =>
        dsimp only
        split
        · exact ih { l with gateway := g, latest := l.latest.insert declared.1 declared.2 }
        · split
          · exact ih { l with
              gateway := g, latest := l.latest.insert declared.1 declared.2, releases := l.releases - 1 }
          · exact .refl g

theorem turnsTo_runRelay (s : StreamId) (n : Nat) (l : Loop) : TurnsTo l.gateway (runRelay s n l).gateway := by
  induction n generalizing l with
  | zero => exact .refl _
  | succ n ih =>
    rw [runRelay]
    cases hstep : l.gateway.relayStep? s with
    | none => exact .refl _
    | some g => exact .head (a := .relay s) rfl hstep (ih { l with gateway := g })

/-- A turn of the loop takes turns of one call or of one relay. -/
theorem turnsTo_run (l : Loop) (turn : Turn) : TurnsTo l.gateway (l.run turn).gateway := by
  cases turn with
  | call t => exact turnsTo_runCall t _ l
  | relay s => exact turnsTo_runRelay s _ l

theorem turnsTo_settleWithin (n : Nat) (l : Loop) : TurnsTo l.gateway (settleWithin n l).gateway := by
  induction n generalizing l with
  | zero => exact .refl _
  | succ n ih =>
    rw [settleWithin]
    split
    · next turn rest _ => exact (turnsTo_run { l.wake with ready := rest } turn).trans (ih _)
    · next s rested _ _ => exact ih { l.wake with ready := (s :: rested).map .relay, rested := [] }
    · exact .refl _

theorem turnsTo_settle (l : Loop) : TurnsTo l.gateway l.settle.gateway := turnsTo_settleWithin l.turns l

theorem turnsTo_release (l : Loop) : TurnsTo l.gateway l.release.gateway := by
  rw [release]
  split
  · exact .refl _
  · next t held _ => exact turnsTo_settle { l with held, ready := l.ready ++ [.call t] }

variable {l l' : Loop}

theorem run_spawn {a : Action} {start : Gateway → Ticket × Gateway}
    (ha : l.gateway.act? a = some (start l.gateway).2) :
    ∃ as, l.gateway.run (a :: as) = some (l.spawn start).2.gateway :=
  TurnsTo.run_cons ha (turnsTo_settle { l with
    gateway := (start l.gateway).2, ready := l.ready ++ [.call (start l.gateway).1] })

theorem run_sweep (l : Loop) : ∃ as, l.gateway.run (.sweep l.config :: as) = some l.sweep.2.gateway :=
  TurnsTo.run_cons rfl (turnsTo_settle { l with gateway := (l.gateway.sweep l.config).2 })

/-- As time passes there is a sweep or nothing happens. -/
theorem run_advance (l : Loop) (millis : Nat) : ∃ as, l.gateway.run as = some (l.advance millis).gateway := by
  rw [advance]
  dsimp only
  split
  · exact ⟨[], rfl⟩
  · split
    · next due _ _ =>
      obtain ⟨as, hrun⟩ := run_sweep { l with
        now := l.now + millis, sweepDue := some (nextDue l.config.period (l.now + millis) due) }
      exact ⟨_, hrun⟩
    · exact ⟨[], rfl⟩

inductive Step : Loop → Loop → Prop
  | acts {l : Loop} {a : Action} {g : Gateway} (ha : l.gateway.act? a = some g) : Step l { l with gateway := g }
  | settles (l : Loop) : Step l l.settle
  | spawns {l : Loop} {a : Action} {start : Gateway → Ticket × Gateway}
      (ha : l.gateway.act? a = some (start l.gateway).2) : Step l (l.spawn start).2
  | holds (l : Loop) (on : Bool) : Step l { l with holding := on }
  | releases (l : Loop) : Step l l.release
  | sweeps (l : Loop) : Step l l.sweep.2
  | startsMonitor (l : Loop) : Step l l.startMonitor
  | stopsMonitor (l : Loop) : Step l l.stopMonitor
  | waits (l : Loop) (millis : Nat) : Step l (l.advance millis)

theorem Step.runs (h : Step l l') : ∃ as, l.gateway.run as = some l'.gateway := by
  cases h with
  | @acts a _ ha => exact ⟨[a], run_cons_eq_some.mpr ⟨_, ha, rfl⟩⟩
  | settles =>
    obtain ⟨as, -, hrun⟩ := turnsTo_settle l
    exact ⟨as, hrun⟩
  | spawns ha =>
    obtain ⟨as, hrun⟩ := run_spawn ha
    exact ⟨_, hrun⟩
  | releases =>
    obtain ⟨as, -, hrun⟩ := turnsTo_release l
    exact ⟨as, hrun⟩
  | sweeps =>
    obtain ⟨as, hrun⟩ := run_sweep l
    exact ⟨_, hrun⟩
  | waits millis => exact run_advance l millis
  | holds | startsMonitor | stopsMonitor => exact ⟨[], rfl⟩

/-- Whatever is done with a loop, its gateway is that of a run. -/
theorem runs_of_steps (h : Relation.ReflTransGen Step l l') : ∃ as, l.gateway.run as = some l'.gateway := by
  induction h with
  | refl => exact ⟨[], rfl⟩
  | tail _ hstep ih =>
    obtain ⟨as, hrun⟩ := ih
    obtain ⟨bs, hrun'⟩ := hstep.runs
    exact ⟨as ++ bs, run_append_eq_some.mpr ⟨_, hrun, hrun'⟩⟩

theorem consistent_of_steps (h : Relation.ReflTransGen Step l l') (hl : l.gateway.Consistent) :
    l'.gateway.Consistent := by
  obtain ⟨as, hrun⟩ := runs_of_steps h
  exact hl.run hrun

end Loop
end LocationRelay.Gateway
