import LocationRelay.Proofs.BindOutcome
import LocationRelay.Proofs.Reordering

/-! # The order in which a shutdown stops consumers

A shutdown that nothing interrupts stops one consumer after the other and deletes its queue, in the order in
which it found them. What it leaves behind can be told at once, and stopping two consumers can be exchanged,
whether or not they share a stream or a queue. So the order is of no account.
-/
namespace LocationRelay

theorem Broker.unsubscribe_eq (b : Broker) (q : String) :
    b.unsubscribe q = { b with
      queues := b.queues.erase q
      streams := (b.queues.get? q).elim b.streams fun e =>
        b.streams.adjust e.2 fun st => { st with fed := false } } := by
  unfold unsubscribe
  cases h : b.queues.get? q with
  | none => rw [Table.erase_of_absent h]; rfl
  | some e => rfl

namespace Gateway

variable {g g' : Gateway} {t : Ticket} {i j : Identity}

/-! ## Stopping consumers -/

def without (g : Gateway) (i : Identity) (c : Consumer) : Gateway :=
  (g.detached i c).deleteQueue c.binding.queue

theorem closeQueue_eq (g : Gateway) (i : Identity) :
    (g.closeQueue i).2 = (g.consumers.get? i).elim g (g.without i) := by
  unfold closeQueue detach
  cases g.consumers.get? i <;> rfl

theorem Same.closeQueue (hs : g.Same g') (i : Identity) : (g.closeQueue i).2.Same (g'.closeQueue i).2 := by
  rw [closeQueue_eq, closeQueue_eq, ← hs.consumers.get? i]
  cases g.consumers.get? i with
  | none => exact hs
  | some c => exact (hs.detached i c).deleteQueue c.binding.queue

theorem broker_without (g : Gateway) (i : Identity) (c : Consumer) :
    (g.without i c).broker = { g.broker with
      queues := g.broker.queues.erase c.binding.queue
      streams := (g.without i c).broker.streams } := by
  unfold without deleteQueue detached
  cases g.relays.contains c.stream <;> simp [Broker.unsubscribe_eq, Broker.discard]

/-- The stream is gone if the relay still read it, and the stream of the queue is not fed any more. -/
theorem get?_streams_without (g : Gateway) (i : Identity) (c : Consumer) (s : StreamId) :
    (g.without i c).broker.streams.get? s =
      if s = c.stream ∧ g.relays.contains c.stream then none
      else if (g.broker.queues.get? c.binding.queue).map Prod.snd = some s then
        (g.broker.streams.get? s).map fun st => { st with fed := false }
      else g.broker.streams.get? s := by
  unfold without deleteQueue detached
  cases g.relays.contains c.stream <;> cases hq : g.broker.queues.get? c.binding.queue <;>
    simp [Broker.unsubscribe_eq, Broker.discard, hq] <;> grind

theorem without_comm (g : Gateway) (i j : Identity) (c d : Consumer) :
    ((g.without i c).without j d).Same ((g.without j d).without i c) := by
  have hbroker : ((g.without i c).without j d).broker.Same ((g.without j d).without i c).broker := by
    rw [broker_without (g.without i c), broker_without (g.without j d), broker_without g i, broker_without g j]
    refine ⟨g.broker.queues.erase_comm _ _, Table.same_iff.mpr fun s => ?_, .refl _, rfl, rfl, rfl, rfl⟩
    have hrelays : ∀ i (c : Consumer) s, (g.without i c).relays.contains s =
        (decide (s ≠ c.stream) && g.relays.contains s) := by
      intro i c s
      simp only [without, deleteQueue, detached, Table.contains, Table.get?_erase]
      split <;> simp_all
    have hqueues : ∀ i (c : Consumer), (g.without i c).broker.queues = g.broker.queues.erase c.binding.queue :=
      fun i c => congrArg Broker.queues (g.broker_without i c)
    -- Both orders drop a stream that a relay still read, and cut off one whose queue goes.
    simp only [get?_streams_without, hrelays, hqueues, Table.get?_erase]
    grind
  exact { Same.refl g with
    consumers := g.consumers.erase_comm _ _
    relays := g.relays.erase_comm _ _
    broker := hbroker }

theorem consumers_closeQueue (g : Gateway) (hne : i ≠ j) :
    (g.closeQueue i).2.consumers.get? j = g.consumers.get? j := by
  rw [closeQueue_eq]
  cases g.consumers.get? i with
  | none => rfl
  | some c => exact (Table.get?_erase ..).trans (if_neg (Ne.symm hne))

theorem closeQueue_comm (g : Gateway) (i j : Identity) :
    ((g.closeQueue i).2.closeQueue j).2.Same ((g.closeQueue j).2.closeQueue i).2 := by
  by_cases hij : i = j
  · rw [hij]
    exact .refl _
  · rw [closeQueue_eq (g.closeQueue i).2, closeQueue_eq (g.closeQueue j).2, consumers_closeQueue g hij,
      consumers_closeQueue g (Ne.symm hij), closeQueue_eq, closeQueue_eq]
    cases g.consumers.get? i with
    | none => exact .refl _
    | some c =>
      cases g.consumers.get? j with
      | none => exact .refl _
      | some d => exact g.without_comm i j c d

def closing (g : Gateway) (is : List Identity) : Gateway := is.foldl (fun g i => (g.closeQueue i).2) g

theorem Same.closing (hs : g.Same g') {is js : List Identity} (hperm : is.Perm js) :
    (g.closing is).Same (g'.closing js) :=
  foldl_perm_rel same_equivalence (fun i hs => hs.closeQueue i) closeQueue_comm hperm hs

theorem closing_append (g : Gateway) (is js : List Identity) :
    g.closing (is ++ js) = (g.closing is).closing js := List.foldl_append

theorem closing_of_none {is : List Identity} (h : ∀ i ∈ is, g.consumers.get? i = none) : g.closing is = g := by
  induction is with
  | nil => rfl
  | cons i is ih =>
    obtain ⟨hi, his⟩ := List.forall_mem_cons.mp h
    rw [closing, List.foldl_cons, closeQueue_eq, hi]
    exact ih his

/-- Closing what is registered can be done in any order. -/
theorem Same.flagged (hs : g.Same g') : g.flagged.Same g'.flagged := by
  refine foldl_perm_rel same_equivalence (fun e hs => hs.close e.2 .shutdown) (fun g e e' => ?_) hs.registry
    { hs with shuttingDown := rfl }
  refine { Same.refl g with connections := ?_ }
  let f : Connection → Connection := fun c => { c with outbox := c.outbox.close .shutdown }
  change Table.Same ((g.connections.adjust e.2.slot f).adjust e'.2.slot f) _
  exact g.connections.adjust_comm fun _ _ => rfl

/-! ## The whole shutdown -/

def disconnected (g : Gateway) : Gateway := { g with broker := g.broker.close }

/-- What a shutdown will make of a gateway from the stage at which it stands. -/
def concluded (g : Gateway) : ShutdownStage → Gateway
  | .starting => if g.shuttingDown then g else (g.flagged.closing g.flagged.consumers.keys).disconnected
  | .stopping is => (g.closing is).disconnected
  | .deleting x is => ((g.deleteQueue x.queue).closing is).disconnected
  | .disconnecting => g.disconnected

theorem closing_setCall (g : Gateway) (t : Ticket) (d : Call) (is : List Identity) :
    (g.setCall t d).closing is = (g.closing is).setCall t d := by
  induction is generalizing g with
  | nil => rfl
  | cons i is ih =>
    have hnext : ((g.setCall t d).closeQueue i).2 = (g.closeQueue i).2.setCall t d := by
      rw [closeQueue_eq, closeQueue_eq]
      change (g.consumers.get? i).elim _ _ = _
      cases g.consumers.get? i <;> rfl
    rw [closing, List.foldl_cons, hnext]
    exact ih _

theorem finish_setCall (g : Gateway) (t : Ticket) (d : Call) (o : Outcome) :
    (g.setCall t d).finish t o = g.finish t o := by
  simp only [setCall, finish, Table.insert_insert]

/-- Looking for the next consumer does not change what the shutdown comes to. -/
theorem StopStep.concludes {is : List Identity} (hs : StopStep g t is g') : ∃ stage,
    g'.calls.get? t = some (.shutdown stage) ∧
      (g'.concluded stage).finish t .shutDown = (g.closing is).disconnected.finish t .shutDown := by
  cases hs with
  | none_left is hgone =>
    refine ⟨_, (calls_setCall ..).trans (if_pos rfl), ?_⟩
    rw [closing_of_none hgone]
    exact finish_setCall g.disconnected t _ _
  | @stops i c skipped rest hgone hc =>
    refine ⟨_, (calls_setCall ..).trans (if_pos rfl), ?_⟩
    have hskip : g.closing (skipped ++ i :: rest) = (g.without i c).closing rest := by
      rw [closing_append, closing_of_none hgone, closing, List.foldl_cons, closeQueue_eq, hc]
      rfl
    rw [hskip]
    change (((g.without i c).setCall t _).closing rest).disconnected.finish t _ = _
    rw [closing_setCall]
    exact finish_setCall ((g.without i c).closing rest).disconnected t _ _

theorem ShutdownStep.concludes {stage : ShutdownStage} (hs : ShutdownStep g t stage g') :
    (∃ stage', g'.calls.get? t = some (.shutdown stage') ∧
      (g'.concluded stage').finish t .shutDown = (g.concluded stage).finish t .shutDown) ∨
    g' = (g.concluded stage).finish t .shutDown := by
  cases hs with
  | again hdown => exact .inr (by rw [concluded, if_pos hdown])
  | begins hup hstop =>
    rw [concluded, if_neg (by rw [hup]; exact Bool.false_ne_true)]
    exact .inl hstop.concludes
  | goesOn is hstop => exact .inl hstop.concludes
  | deletes x is =>
    refine .inl ⟨_, (calls_setCall ..).trans (if_pos rfl), ?_⟩
    rw [concluded, closing_setCall]
    exact finish_setCall ((g.deleteQueue x.queue).closing is).disconnected t _ _
  | disconnects => exact .inr rfl

theorem step_shutdown {stage : ShutdownStage} (ht : g.calls.get? t = some (.shutdown stage)) :
    g.act? (.advance t) = some (g.stepShutdown t stage) := by
  rw [act?, step?, ht]
  rfl

theorem concluded_of_run {stage : ShutdownStage} {n : Nat} {o : Outcome}
    (ht : g.calls.get? t = some (.shutdown stage)) (hrun : g.run (List.replicate n (.advance t)) = some g')
    (hover : g'.outcome? t = some o) : g' = (g.concluded stage).finish t .shutDown := by
  induction n generalizing g stage with
  | zero =>
    cases hrun
    cases ht.symm.trans (done_of_outcome hover)
  | succ n ih =>
    rw [List.replicate_succ] at hrun
    obtain ⟨g₁, ha, hrest⟩ := run_cons_eq_some.mp hrun
    cases (step_shutdown ht).symm.trans ha
    rcases (shutdownStep_of_step g t stage).concludes with ⟨stage', ht', hsame⟩ | hdone
    · rw [← hsame]
      exact ih ht' hrest
    · rw [hdone] at hrest
      exact run_of_done ((calls_finish ..).trans (if_pos rfl)) hrest

/-! ## That it ends -/

/-- A call that ends when nothing else happens. -/
def Returns (g : Gateway) (t : Ticket) : Prop :=
  ∃ n g' o, g.run (List.replicate n (.advance t)) = some g' ∧ g'.outcome? t = some o

theorem returns_finish (g : Gateway) (t : Ticket) (o : Outcome) : (g.finish t o).Returns t :=
  ⟨0, _, o, rfl, outcome_of_done ((calls_finish ..).trans (if_pos rfl))⟩

theorem Returns.step {stage : ShutdownStage} (ht : g.calls.get? t = some (.shutdown stage))
    (h : (g.stepShutdown t stage).Returns t) : g.Returns t := by
  obtain ⟨n, g', o, hrun, hover⟩ := h
  refine ⟨n + 1, g', o, ?_, hover⟩
  rw [List.replicate_succ]
  exact run_cons_eq_some.mpr ⟨_, step_shutdown ht, hrun⟩

/-- A shutdown ends, as the list of consumers that it still has to look for gets shorter. -/
theorem StopStep.returns {is : List Identity} (hs : StopStep g t is g') : g'.Returns t := by
  induction hn : is.length using Nat.strongRecOn generalizing is g g' with
  | ind n ih =>
    cases hs with
    | none_left is hgone => exact .step ((calls_setCall ..).trans (if_pos rfl)) (returns_finish _ t _)
    | stops skipped rest hgone hc =>
      refine .step ((calls_setCall ..).trans (if_pos rfl)) ?_
      refine .step ((calls_setCall ..).trans (if_pos rfl)) (ih rest.length ?_ (stopStep_stopNext _ t rest) rfl)
      rw [← hn, List.length_append, List.length_cons]
      omega

theorem ShutdownStep.returns (hs : ShutdownStep g t .starting g') : g'.Returns t := by
  cases hs with
  | again _ => exact returns_finish _ t _
  | begins _ hstop => exact hstop.returns

def ShutsDown (g g' : Gateway) : Prop :=
  (∃ n, g.run (.shutdown :: List.replicate n (.advance g.nextTicket)) = some g') ∧
    g'.outcome? g.nextTicket = some .shutDown

theorem shutsDown_iff : g.ShutsDown g' ↔
    g' = (g.startShutdown.2.concluded .starting).finish g.nextTicket .shutDown := by
  have hstart : g.startShutdown.2.calls.get? g.nextTicket = some (.shutdown .starting) :=
    (calls_start ..).trans (if_pos rfl)
  have hrest : ∀ n g', g.run (.shutdown :: List.replicate n (.advance g.nextTicket)) = some g' ↔
      g.startShutdown.2.run (List.replicate n (.advance g.nextTicket)) = some g' := fun n g' => Iff.rfl
  constructor
  · rintro ⟨⟨n, hrun⟩, hover⟩
    exact concluded_of_run hstart ((hrest n g').mp hrun) hover
  · rintro rfl
    have hreturns : g.startShutdown.2.Returns g.nextTicket :=
      .step hstart (shutdownStep_of_step _ _ .starting).returns
    obtain ⟨n, g', o, hrun, hover⟩ := hreturns
    cases concluded_of_run hstart hrun hover
    exact ⟨⟨n, (hrest n _).mpr hrun⟩, outcome_of_done ((calls_finish ..).trans (if_pos rfl))⟩

theorem Same.shutsDown (hs : g.Same g') {k k' : Gateway} (hk : g.ShutsDown k) (hk' : g'.ShutsDown k') :
    k.Same k' := by
  rw [shutsDown_iff.mp hk, shutsDown_iff.mp hk', ← hs.nextTicket]
  have hstart : g.startShutdown.2.Same g'.startShutdown.2 := {
    hs with
    calls := by
      change (g.calls.insert g.nextTicket _).Same (g'.calls.insert g'.nextTicket _)
      rw [← hs.nextTicket]
      exact hs.calls.insert _ _
    nextTicket := congrArg (· + 1) hs.nextTicket }
  refine Same.finish ?_ _ _
  rw [concluded, concluded, ← hstart.shuttingDown]
  split
  · exact hstart
  · have hclosing := hstart.flagged.closing hstart.flagged.consumers.keys
    exact { hclosing with broker := hclosing.broker.close }

end Gateway
end LocationRelay
