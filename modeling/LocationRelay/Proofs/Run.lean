import LocationRelay.Gateway.Call
import LocationRelay.Gateway.Sweep

/-! # Runs of the gateway

Whatever happens to a gateway is an action: a connection is opened, a call is started, a call or a relay
goes on to its next suspension, something is published, an outbox is read, a connection is told to stop,
the broker loses a queue. A run is any sequence of actions each of which is possible when its turn comes,
so that calls are interleaved at their suspensions in every way there is.
-/
namespace LocationRelay

open Text (Bytes)

/-- Whether a call is one of those that a run starts, or was. -/
def Call.isPublic : Call → Bool
  | .open .. | .lock _ => false
  | _ => true

namespace Gateway

inductive Action where
  | connect (connId capacity : Nat)
  | bind (p : Principal) (h : Handle)
  | unbind (i : Identity) (connId : Nat)
  | shutdown
  /-- A call goes on to its next suspension. -/
  | advance (t : Ticket)
  /-- A relay hands on one delivery, or finds that its stream has ended. -/
  | relay (s : StreamId)
  | publish (exchange key : String) (payload : Bytes)
  | take (h : Handle)
  | takeStop (h : Handle)
  | dropHandle (h : Handle)
  | dropOutbox (h : Handle)
  | close (h : Handle) (reason : CloseReason)
  | terminate (h : Handle)
  /-- The peer of a connection answers a probe. -/
  | answer (h : Handle)
  | sweep (config : SweepConfig)
  | prune
  /-- The broker begins or ceases to refuse subscriptions. -/
  | refuse (on : Bool)
  /-- The broker loses a queue of its own accord. -/
  | deleteQueue (queue : String)
  | closeBroker

/-- What an action makes of a gateway, if it is possible there. -/
def act? (g : Gateway) : Action → Option Gateway
  | .connect connId capacity => some (g.connect connId capacity).2
  | .bind p h => if g.connections.contains h.slot then some (g.startBind p h).2 else none
  | .unbind i connId => some (g.startUnbind i connId).2
  | .shutdown => some g.startShutdown.2
  | .advance t => g.step? t
  | .relay s => g.relayStep? s
  | .publish exchange key payload => some (g.publish exchange key payload).2
  | .take h => some (g.take h).2
  | .takeStop h => some (g.adjustOutbox h fun o => o.takeStop.2)
  | .dropHandle h => some (g.adjust h fun c => { c with kept := false })
  | .dropOutbox h => some (g.adjustOutbox h (·.abandon))
  | .close h reason => some (g.close h reason)
  | .terminate h => some (g.terminate h)
  | .answer h => some (g.adjust h fun c => { c with liveness := c.liveness.markAlive })
  | .sweep config => some (g.sweep config).2
  | .prune => some g.prune
  | .refuse on => some { g with broker := { g.broker with refusing := on } }
  | .deleteQueue queue => some (g.deleteQueue queue)
  | .closeBroker => some { g with broker := g.broker.close }

def run (g : Gateway) (as : List Action) : Option Gateway := as.foldlM act? g

theorem run_cons (g : Gateway) (a : Action) (as : List Action) :
    g.run (a :: as) = (g.act? a).bind fun g => g.run as := rfl

theorem run_append (g : Gateway) (as bs : List Action) :
    g.run (as ++ bs) = (g.run as).bind fun g => g.run bs := List.foldlM_append

theorem run_cons_eq_some {g g' : Gateway} {a : Action} {as : List Action} :
    g.run (a :: as) = some g' ↔ ∃ g₁, g.act? a = some g₁ ∧ g₁.run as = some g' := by
  rw [run_cons, Option.bind_eq_some_iff]

theorem run_append_eq_some {g g' : Gateway} {as bs : List Action} :
    g.run (as ++ bs) = some g' ↔ ∃ g₁, g.run as = some g₁ ∧ g₁.run bs = some g' := by
  rw [run_append, Option.bind_eq_some_iff]

/-- What is seen of the last gateway of a run, found by carrying the run out. -/
theorem run_shows {α : Type} {g g' : Gateway} {as : List Action} (hrun : g.run as = some g')
    (f : Gateway → α) {a : α} (h : (g.run as).map f = some a) : f g' = a := by
  rw [hrun] at h
  exact Option.some.inj h

theorem run_preserves {P : Gateway → Prop} (hstep : ∀ g a g', P g → g.act? a = some g' → P g')
    {g g' : Gateway} {as : List Action} (hrun : g.run as = some g') (hg : P g) : P g' := by
  induction as generalizing g with
  | nil => exact Option.some.inj hrun ▸ hg
  | cons a as ih =>
    obtain ⟨g₁, ha, has⟩ := run_cons_eq_some.mp hrun
    exact ih has (hstep g a g₁ hg ha)

/-- What holds of a run and of its last gateway, when it holds of the empty run and every further action
preserves it. -/
theorem run_induction {P : List Action → Gateway → Prop} {g₀ : Gateway} (hnil : P [] g₀)
    (hstep : ∀ as g a g', g₀.run as = some g → P as g → g.act? a = some g' → P (as ++ [a]) g')
    {as : List Action} {g : Gateway} (hrun : g₀.run as = some g) : P as g := by
  have hfrom : ∀ (bs as : List Action) (g₁ : Gateway), g₀.run as = some g₁ → P as g₁ →
      g₁.run bs = some g → P (as ++ bs) g := by
    intro bs
    induction bs with
    | nil =>
      intro as g₁ _ hP hbs
      cases hbs
      rwa [List.append_nil]
    | cons b bs ih =>
      intro as g₁ has hP hbs
      obtain ⟨g₂, hb, hbs⟩ := run_cons_eq_some.mp hbs
      have hsnoc : g₀.run (as ++ [b]) = some g₂ :=
        run_append_eq_some.mpr ⟨g₁, has, run_cons_eq_some.mpr ⟨g₂, hb, rfl⟩⟩
      have hall := ih (as ++ [b]) g₂ hsnoc (hstep as g₁ b g₂ has hP hb) hbs
      rwa [List.append_assoc] at hall
  exact hfrom as [] g₀ rfl hnil hrun

/-- What an observer notes down along a run, who looks at the gateway before each action. -/
def noted {α : Type} (note : Gateway → Action → List α) : Gateway → List Action → List α
  | _, [] => []
  | g, a :: as => note g a ++ (g.act? a).elim [] fun g => noted note g as

theorem noted_append {α : Type} (note : Gateway → Action → List α) {g g₁ : Gateway}
    {as : List Action} (hrun : g.run as = some g₁) (bs : List Action) :
    noted note g (as ++ bs) = noted note g as ++ noted note g₁ bs := by
  induction as generalizing g with
  | nil =>
    cases hrun
    rfl
  | cons a as ih =>
    obtain ⟨g₂, ha, has⟩ := run_cons_eq_some.mp hrun
    simp only [List.cons_append, noted, ha, Option.elim_some, ih has, List.append_assoc]

theorem noted_snoc {α : Type} (note : Gateway → Action → List α) {g g₁ : Gateway}
    {as : List Action} (hrun : g.run as = some g₁) (a : Action) :
    noted note g (as ++ [a]) = noted note g as ++ note g₁ a := by
  rw [noted_append note hrun]
  cases h : g₁.act? a <;> simp [noted, h]

theorem mem_noted {α : Type} {note : Gateway → Action → List α} {g g₁ : Gateway}
    {as before after : List Action} {a : Action} (has : as = before ++ a :: after)
    (hrun : g.run before = some g₁) {x : α} (hx : x ∈ note g₁ a) : x ∈ noted note g as := by
  rw [has, noted_append note hrun]
  exact List.mem_append_right _ (List.mem_append_left _ hx)

theorem exists_of_mem_noted {α : Type} {note : Gateway → Action → List α} {g : Gateway}
    {as : List Action} {x : α} (hx : x ∈ noted note g as) : ∃ a ∈ as, ∃ g₁, x ∈ note g₁ a := by
  induction as generalizing g with
  | nil => cases hx
  | cons a as ih =>
    rw [noted] at hx
    rcases List.mem_append.mp hx with hx | hx
    · exact ⟨a, List.mem_cons_self, g, hx⟩
    · cases ha : g.act? a with
      | none =>
        rw [ha] at hx
        cases hx
      | some g₁ =>
        rw [ha] at hx
        obtain ⟨b, hb, hfound⟩ := ih hx
        exact ⟨b, List.mem_cons_of_mem _ hb, hfound⟩

/-! ## What a call can do

A call that goes on looks at the flag of the shutdown, at the registration and at the consumers, and
then does one of the following.
-/

def detached (g : Gateway) (i : Identity) (c : Consumer) : Gateway :=
  { g with
    consumers := g.consumers.erase i
    relays := g.relays.erase c.stream
    broker := if g.relays.contains c.stream then g.broker.discard c.stream else g.broker }

theorem detach_of_some {g : Gateway} {i : Identity} {c : Consumer}
    (h : g.consumers.get? i = some c) : g.detach i = (some c.binding, g.detached i c) := by
  simp only [detach, h, detached]

theorem detach_of_none {g : Gateway} {i : Identity} (h : g.consumers.get? i = none) :
    g.detach i = (none, g) := by
  simp only [detach, h]

def unregistered (g : Gateway) (i : Identity) : Gateway :=
  { g with registry := g.registry.erase i }

def registered (g : Gateway) (i : Identity) (h : Handle) : Gateway :=
  match g.registry.get? i with
  | some prior => close { g with registry := g.registry.insert i h } prior .superseded
  | none => { g with registry := g.registry.insert i h }

theorem register_eq (g : Gateway) (i : Identity) (h : Handle) :
    g.register i h = (g.registry.get? i, g.registered i h) := by
  unfold register registered
  cases g.registry.get? i <;> rfl

theorem consumers_registered (g : Gateway) (i : Identity) (h : Handle) :
    (g.registered i h).consumers = g.consumers := by
  unfold registered
  split <;> rfl

inductive BindStep (g : Gateway) (t : Ticket) (p : Principal) (h : Handle) :
    BindStage → Gateway → Prop
  | refused (hlock : g.locks.holds t = true) (hdown : g.shuttingDown = true) :
      BindStep g t p h .waiting ((g.close h .shutdown).finish t (.bound (.error .closed)))
  | evicts {c : Consumer} (hlock : g.locks.holds t = true) (hup : g.shuttingDown = false)
      (hprior : (g.registry.get? p.identity).isSome) (hc : g.consumers.get? p.identity = some c) :
      BindStep g t p h .waiting (((g.registered p.identity h).detached p.identity c).setCall t
        (.bind p h (.evicting c.binding)))
  | clears {c : Consumer} (hlock : g.locks.holds t = true) (hup : g.shuttingDown = false)
      (hprior : g.registry.get? p.identity = none) (hc : g.consumers.get? p.identity = some c) :
      BindStep g t p h .waiting (((g.registered p.identity h).detached p.identity c).setCall t
        (.bind p h (.opening (.clearing c.binding))))
  | enters (hlock : g.locks.holds t = true) (hup : g.shuttingDown = false)
      (hc : g.consumers.get? p.identity = none) :
      BindStep g t p h .waiting ((g.registered p.identity h).setCall t
        (.bind p h (.opening .declaring)))
  | evicted (x : Binding) : BindStep g t p h (.evicting x)
      ((g.deleteQueue x.queue).setCall t (.bind p h (.opening .begin)))
  | looks (hc : g.consumers.get? p.identity = none) : BindStep g t p h (.opening .begin)
      (g.setCall t (.bind p h (.opening .declaring)))
  | finds {c : Consumer} (hc : g.consumers.get? p.identity = some c) :
      BindStep g t p h (.opening .begin) ((g.detached p.identity c).setCall t
        (.bind p h (.opening (.clearing c.binding))))
  | cleared (x : Binding) : BindStep g t p h (.opening (.clearing x))
      ((g.deleteQueue x.queue).setCall t (.bind p h (.opening .declaring)))
  | declares : BindStep g t p h (.opening .declaring)
      ((g.declare (g.bindingFor p.identity p.bindingPattern)).2.setCall t
        (.bind p h (.opening (g.declare (g.bindingFor p.identity p.bindingPattern)).1)))
  | fails (e : BrokerError) : BindStep g t p h (.opening (.declared (.error e)))
      (g.abandonBind t p h .setupFailed e)
  | succeeds (s : StreamId) (hup : g.shuttingDown = false) :
      BindStep g t p h (.opening (.declared (.ok s)))
        ((g.attach p.identity (g.bindingFor p.identity p.bindingPattern) s).finish t
          (.bound (.ok p.identity)))
  | retracts (s : StreamId) (hdown : g.shuttingDown = true) :
      BindStep g t p h (.opening (.declared (.ok s)))
        (((g.attach p.identity (g.bindingFor p.identity p.bindingPattern) s).detached p.identity
          ⟨g.bindingFor p.identity p.bindingPattern, s⟩).setCall t
            (.bind p h (.retracting (g.bindingFor p.identity p.bindingPattern))))
  | retracted (x : Binding) : BindStep g t p h (.retracting x)
      ((g.deleteQueue x.queue).setCall t (.bind p h .retracted))
  | gaveUp : BindStep g t p h .retracted (g.abandonBind t p h .shutdown .closed)

inductive UnbindStep (g : Gateway) (t : Ticket) (i : Identity) (connId : Nat) :
    UnbindStage → Gateway → Prop
  | stale (hlock : g.locks.holds t = true) (hcur : g.isCurrent i connId = false) :
      UnbindStep g t i connId .waiting (g.finish t (.unbound false))
  | releases {c : Consumer} (hlock : g.locks.holds t = true)
      (hcur : g.isCurrent i connId = true) (hc : g.consumers.get? i = some c) :
      UnbindStep g t i connId .waiting (((g.unregistered i).detached i c).setCall t
        (.unbind i connId (.deleting c.binding)))
  | forgets (hlock : g.locks.holds t = true) (hcur : g.isCurrent i connId = true)
      (hc : g.consumers.get? i = none) :
      UnbindStep g t i connId .waiting ((g.unregistered i).finish t (.unbound true))
  | deletes (x : Binding) : UnbindStep g t i connId (.deleting x)
      ((g.deleteQueue x.queue).setCall t (.unbind i connId .deleted))
  | ends : UnbindStep g t i connId .deleted (g.finish t (.unbound true))

inductive StopStep (g : Gateway) (t : Ticket) : List Identity → Gateway → Prop
  | none_left (is : List Identity) (hgone : ∀ i ∈ is, g.consumers.get? i = none) :
      StopStep g t is (g.setCall t (.shutdown .disconnecting))
  | stops {i : Identity} {c : Consumer} (skipped rest : List Identity)
      (hgone : ∀ i ∈ skipped, g.consumers.get? i = none) (hc : g.consumers.get? i = some c) :
      StopStep g t (skipped ++ i :: rest)
        ((g.detached i c).setCall t (.shutdown (.deleting c.binding rest)))

def flagged (g : Gateway) : Gateway := closeRegistered { g with shuttingDown := true }

inductive ShutdownStep (g : Gateway) (t : Ticket) : ShutdownStage → Gateway → Prop
  | again (hdown : g.shuttingDown = true) : ShutdownStep g t .starting (g.finish t .shutDown)
  | begins {g' : Gateway} (hup : g.shuttingDown = false)
      (hstop : StopStep g.flagged t g.flagged.consumers.keys g') : ShutdownStep g t .starting g'
  | goesOn {g' : Gateway} (is : List Identity) (hstop : StopStep g t is g') :
      ShutdownStep g t (.stopping is) g'
  | deletes (x : Binding) (is : List Identity) : ShutdownStep g t (.deleting x is)
      ((g.deleteQueue x.queue).setCall t (.shutdown (.stopping is)))
  | disconnects : ShutdownStep g t .disconnecting
      (finish { g with broker := g.broker.close } t .shutDown)

theorem bindStep_of_step {g g' : Gateway} {t : Ticket} {p : Principal} {h : Handle}
    {stage : BindStage} (hs : g.stepBind? t p h stage = some g') : BindStep g t p h stage g' := by
  cases stage with
  | waiting =>
    simp only [stepBind?, Option.ite_none_right_eq_some, Option.some.injEq] at hs
    obtain ⟨hlock, rfl⟩ := hs
    unfold enterBind
    rw [register_eq]
    by_cases hdown : g.shuttingDown = true
    · rw [if_pos hdown]
      exact .refused hlock hdown
    · rw [if_neg hdown]
      have hup : g.shuttingDown = false := by simpa using hdown
      have hcons := consumers_registered g p.identity h
      cases hc : g.consumers.get? p.identity with
      | none =>
        have hnone := detach_of_none (hcons ▸ hc)
        simp only [hnone, beginOpening, ite_self]
        exact .enters hlock hup hc
      | some c =>
        have hsome := detach_of_some (hcons ▸ hc)
        cases hr : g.registry.get? p.identity with
        | none =>
          simp only [Option.isSome_none, Bool.false_eq_true, if_false, beginOpening, hsome]
          exact .clears hlock hup hr hc
        | some prior =>
          simp only [Option.isSome_some, if_true, hsome]
          exact .evicts hlock hup (by rw [hr]; rfl) hc
  | evicting x => cases hs; exact .evicted x
  | opening o =>
    cases o with
    | «begin» =>
      cases hc : g.consumers.get? p.identity with
      | none =>
        simp only [stepBind?, beginOpening, detach_of_none hc] at hs
        cases hs
        exact .looks hc
      | some c =>
        simp only [stepBind?, beginOpening, detach_of_some hc] at hs
        cases hs
        exact .finds hc
    | clearing x => cases hs; exact .cleared x
    | declaring => cases hs; exact .declares
    | declared answer =>
      cases answer with
      | error e => cases hs; exact .fails e
      | ok s =>
        cases hs
        unfold completeBind
        by_cases hdown : g.shuttingDown = true
        · have hc : (g.attach p.identity (g.bindingFor p.identity p.bindingPattern) s).consumers.get?
              p.identity = some ⟨g.bindingFor p.identity p.bindingPattern, s⟩ := by
            simp only [attach, Table.get?_insert, if_true]
          simp only [detach_of_some hc]
          rw [if_pos (show (g.attach p.identity _ s).shuttingDown = true from hdown)]
          exact .retracts s hdown
        · rw [if_neg (show ¬ (g.attach p.identity _ s).shuttingDown = true from hdown)]
          exact .succeeds s (by simpa using hdown)
  | retracting x => cases hs; exact .retracted x
  | retracted => cases hs; exact .gaveUp

theorem unbindStep_of_step {g g' : Gateway} {t : Ticket} {i : Identity} {connId : Nat}
    {stage : UnbindStage} (hs : g.stepUnbind? t i connId stage = some g') :
    UnbindStep g t i connId stage g' := by
  cases stage with
  | waiting =>
    simp only [stepUnbind?, Option.ite_none_right_eq_some, Option.some.injEq] at hs
    obtain ⟨hlock, rfl⟩ := hs
    unfold enterUnbind release
    by_cases hcur : g.isCurrent i connId = true
    · rw [if_pos hcur]
      cases hc : g.consumers.get? i with
      | none =>
        have hnone : detach { g with registry := g.registry.erase i } i =
            (none, g.unregistered i) := detach_of_none hc
        simp only [hnone]
        exact .forgets hlock hcur hc
      | some c =>
        have hsome : detach { g with registry := g.registry.erase i } i =
            (some c.binding, (g.unregistered i).detached i c) := detach_of_some hc
        simp only [hsome]
        exact .releases hlock hcur hc
    · rw [if_neg hcur]
      exact .stale hlock (by simpa using hcur)
  | deleting x => cases hs; exact .deletes x
  | deleted => cases hs; exact .ends

theorem stopStep_stopNext (g : Gateway) (t : Ticket) (is : List Identity) :
    StopStep g t is (g.stopNext t is) := by
  induction is with
  | nil => exact .none_left [] (List.forall_mem_nil _)
  | cons i is ih =>
    unfold stopNext
    cases hc : g.consumers.get? i with
    | some c =>
      rw [detach_of_some hc]
      exact .stops [] is (List.forall_mem_nil _) hc
    | none =>
      rw [detach_of_none hc]
      change StopStep g t (i :: is) (g.stopNext t is)
      revert ih
      generalize g.stopNext t is = g'
      intro ih
      cases ih with
      | none_left _ hgone => exact .none_left _ (List.forall_mem_cons.mpr ⟨hc, hgone⟩)
      | stops skipped rest hgone hj =>
        exact .stops (i :: skipped) rest (List.forall_mem_cons.mpr ⟨hc, hgone⟩) hj

theorem shutdownStep_of_step (g : Gateway) (t : Ticket) (stage : ShutdownStage) :
    ShutdownStep g t stage (g.stepShutdown t stage) := by
  cases stage with
  | starting =>
    unfold stepShutdown enterShutdown
    by_cases hdown : g.shuttingDown = true
    · rw [if_pos hdown]
      exact .again hdown
    · rw [if_neg hdown]
      exact .begins (by simpa using hdown) (stopStep_stopNext _ t _)
  | stopping is => exact .goesOn is (stopStep_stopNext g t is)
  | deleting x is => exact .deletes x is
  | disconnecting => exact .disconnects

inductive CallStep (g : Gateway) (t : Ticket) : Call → Gateway → Prop
  | bind {p : Principal} {h : Handle} {stage : BindStage} {g' : Gateway}
      (hs : BindStep g t p h stage g') : CallStep g t (.bind p h stage) g'
  | unbind {i : Identity} {connId : Nat} {stage : UnbindStage} {g' : Gateway}
      (hs : UnbindStep g t i connId stage g') : CallStep g t (.unbind i connId stage) g'
  | shutdown {stage : ShutdownStage} {g' : Gateway} (hs : ShutdownStep g t stage g') :
      CallStep g t (.shutdown stage) g'

theorem callStep_of_step {g g' : Gateway} {t : Ticket} (hs : g.step? t = some g')
    (hpub : ∀ c, g.calls.get? t = some c → c.isPublic = true) :
    ∃ c, g.calls.get? t = some c ∧ CallStep g t c g' := by
  obtain ⟨c, hc, hs⟩ := Option.bind_eq_some_iff.mp hs
  refine ⟨c, hc, ?_⟩
  cases c with
  | bind p h stage => exact .bind (bindStep_of_step hs)
  | unbind i connId stage => exact .unbind (unbindStep_of_step hs)
  | shutdown stage =>
    cases hs
    exact .shutdown (shutdownStep_of_step g t stage)
  | «open» i pattern stage => cases hpub _ hc
  | lock i => cases hpub _ hc
  | done o => cases hs

/-! ## What a relay can do -/

def unrelayed (g : Gateway) (s : StreamId) : Gateway :=
  { g with relays := g.relays.erase s, broker := g.broker.discard s }

inductive RelayStep (g : Gateway) (s : StreamId) (r : Relay) : Gateway → Prop
  | delivers {d : Delivery} {b : Broker} (hnext : g.broker.next s = (.delivery d, b)) :
      RelayStep g s r (relayDelivery { g with broker := b } r.identity d)
  | loses (hnext : (g.broker.next s).1 = .ended) : RelayStep g s r (g.loseSubscription s r)

theorem relayStep_of_step {g g' : Gateway} {s : StreamId} (hs : g.relayStep? s = some g') :
    ∃ r, g.relays.get? s = some r ∧ RelayStep g s r g' := by
  obtain ⟨r, hr, hs⟩ := Option.bind_eq_some_iff.mp hs
  refine ⟨r, hr, ?_⟩
  split at hs
  · next hnext =>
    cases hs
    exact .delivers hnext
  · next hnext =>
    cases hs
    exact .loses (by rw [hnext])
  · cases hs

end Gateway
end LocationRelay
