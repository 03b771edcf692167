import LocationRelay.Gateway

/-! # Sweeps

A sweep visits every registered connection once. A connection that has not answered since it was last
visited has missed a round, and is asked to terminate when it missed too many of them; every other
connection is probed. A sweep ends by pruning the idle locks and neither adds nor removes a
registration.
-/
namespace LocationRelay.Gateway

structure SweepConfig where
  period : Nat
  maxMissed : Nat
  one_le : 1 ≤ maxMissed

def SweepConfig.of (period maxMissed : Nat) : SweepConfig :=
  ⟨period, max 1 maxMissed, Nat.le_max_left 1 maxMissed⟩

structure SweepReport where
  probed : Nat := 0
  terminated : Nat := 0
deriving DecidableEq

/-- Arms and offers a probe; one that finds no room is not counted. -/
def probeOnce (g : Gateway) (report : SweepReport) (h : Handle) : SweepReport × Gateway :=
  let g := g.adjust h fun c => { c with liveness := c.liveness.arm }
  match g.offer h .probe with
  | (true, g) => ({ report with probed := report.probed + 1 }, g)
  | (false, g) => (report, g)

def visit (maxMissed : Nat) (g : Gateway) (report : SweepReport) (h : Handle) :
    SweepReport × Gateway :=
  match g.connection? h with
  | none => (report, g)
  | some c =>
    if c.liveness.alive then g.probeOnce report h
    else
      let (missed, liveness) := c.liveness.recordMiss
      let g := g.adjust h fun c => { c with liveness }
      if maxMissed ≤ missed then
        ({ report with terminated := report.terminated + 1 }, g.terminate h)
      else g.probeOnce report h

def sweep (g : Gateway) (config : SweepConfig) : SweepReport × Gateway :=
  let (report, g) := g.registry.entries.foldl
    (fun (report, g) e => g.visit config.maxMissed report e.2) ({}, g)
  (report, g.prune)

end LocationRelay.Gateway
