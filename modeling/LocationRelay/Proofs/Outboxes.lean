import LocationRelay.Proofs.Registrations

/-! # What is put into an outbox

Only the relay of an identity puts payloads into an outbox, one at a time, and only into that of the
connection that is registered for the identity at that moment. Nothing else does more to the queue of an
outbox than to shorten it or to add probes.
-/
namespace LocationRelay

open Text (Bytes)

def Parcel.payload? : Parcel → Option Bytes
  | .payload content => some content
  | .probe => none

@[simp] theorem Outbox.queued_request (o : Outbox) (s : Stop) : (o.request s).queued = o.queued := by
  unfold Outbox.request
  split <;> rfl

@[simp] theorem Outbox.queued_takeStop (o : Outbox) : o.takeStop.2.queued = o.queued := by
  unfold Outbox.takeStop
  split <;> rfl

theorem Outbox.queued_take_suffix (o : Outbox) (handles : Bool) :
    (o.take handles).2.queued <:+ o.queued := by
  unfold Outbox.take
  split
  · exact List.suffix_rfl
  · split
    · next p rest hq =>
      rw [hq]
      exact List.suffix_cons p rest
    · next hq => exact hq ▸ List.suffix_rfl

theorem Table.adjust_congr {K V : Type} [DecidableEq K] {t : Table K V} {k : K} {v : V} {f f' : V → V}
    (hv : t.get? k = some v) (hf : f v = f' v) : t.adjust k f = t.adjust k f' := by
  simp only [adjust, mk.injEq]
  refine List.map_congr_left fun e he => ?_
  split
  · next hk =>
    obtain ⟨k', v'⟩ := e
    cases hk
    cases (t.mem_entries_iff.mp he).symm.trans hv
    rw [hf]
  · rfl

namespace Gateway

def queuedAt (g : Gateway) (slot : Nat) : List Parcel :=
  (g.connections.get? slot).elim [] fun c => c.outbox.queued

theorem queuedAt_adjust (g : Gateway) (h : Handle) (f : Connection → Connection) (slot : Nat) :
    (g.adjust h f).queuedAt slot = if slot = h.slot then
      (g.connections.get? slot).elim [] fun c => (f c).outbox.queued else g.queuedAt slot := by
  unfold queuedAt
  simp only [adjust, Table.get?_adjust]
  split
  · cases g.connections.get? slot <;> rfl
  · rfl

theorem queuedAt_adjust_eq {g : Gateway} {h : Handle} {f : Connection → Connection}
    (hf : ∀ c, (f c).outbox.queued = c.outbox.queued) (slot : Nat) :
    (g.adjust h f).queuedAt slot = g.queuedAt slot := by
  rw [queuedAt_adjust]
  split
  · simp only [hf, queuedAt]
  · rfl

@[simp] theorem queuedAt_close (g : Gateway) (h : Handle) (reason : CloseReason) (slot : Nat) :
    (g.close h reason).queuedAt slot = g.queuedAt slot :=
  queuedAt_adjust_eq (fun _ => Outbox.queued_request _ _) slot

/-! ## Calls -/

/-- Nobody who looks at connections through `f` sees a difference. -/
def Unseen {α : Type} (f : Connection → α) (g g' : Gateway) : Prop :=
  ∀ slot, (g'.connections.get? slot).map f = (g.connections.get? slot).map f

section Unseen

variable {α : Type} {f : Connection → α} {g g' : Gateway}

theorem Unseen.refl (g : Gateway) : Unseen f g g := fun _ => rfl

theorem Unseen.trans {g₁ : Gateway} (h : Unseen f g g₁) (h' : Unseen f g₁ g') : Unseen f g g' :=
  fun slot => (h' slot).trans (h slot)

theorem Unseen.adjust {h : Handle} {k : Connection → Connection} (hk : ∀ c, f (k c) = f c) :
    Unseen f g (g.adjust h k) := by
  intro slot
  simp only [Gateway.adjust, Table.get?_adjust]
  split
  · rw [Option.map_map, show f ∘ k = f from funext hk]
  · rfl

/-- A call is seen only by who looks at the requests to stop. -/
theorem Unseen.callStep (hclose : ∀ c reason, f { c with outbox := c.outbox.close reason } = f c)
    {t : Ticket} {c : Call} (hs : CallStep g t c g') : Unseen f g g' := by
  have hclosed : ∀ g h reason, Unseen f g (g.close h reason) :=
    fun _ _ reason => .adjust fun c => hclose c reason
  cases hs with
  | @bind p h stage _ hs =>
    have hregistered : Unseen f g (g.registered p.identity h) := by
      unfold registered
      split
      · exact hclosed { g with registry := g.registry.insert p.identity h } _ _
      · exact .refl g
    have habandon : ∀ reason e, Unseen f g (g.abandonBind t p h reason e) := by
      intro reason e
      have hreleased : Unseen f g (g.release p.identity h.connId).2 := by
        rcases release_eq g p.identity h.connId with he | he <;> rw [he] <;> exact .refl g
      exact hreleased.trans (hclosed _ h reason)
    cases hs with
    | refused _ _ => exact hclosed g h _
    | evicts _ _ _ _ => exact hregistered
    | clears _ _ _ _ => exact hregistered
    | enters _ _ _ => exact hregistered
    | fails e => exact habandon _ _
    | gaveUp => exact habandon _ _
    | _ => exact .refl g
  | unbind hs => cases hs <;> exact .refl g
  | shutdown hs =>
    have hstop : ∀ {g₁ g' : Gateway} {is : List Identity}, StopStep g₁ t is g' → Unseen f g₁ g' := by
      intro g₁ g' is hs
      cases hs <;> exact .refl g₁
    have hfold : ∀ (es : List (Identity × Handle)) (g : Gateway),
        Unseen f g (es.foldl (fun g e => g.close e.2 .shutdown) g) := by
      intro es
      induction es with
      | nil => exact .refl
      | cons e es ih => exact fun g => (hclosed g e.2 _).trans (ih _)
    cases hs with
    | begins _ hs => exact (hfold _ { g with shuttingDown := true }).trans (hstop hs)
    | goesOn is hs => exact hstop hs
    | _ => exact .refl g

end Unseen

/-- A call puts nothing into any outbox and takes nothing out. -/
theorem CallStep.queuedAt {g g' : Gateway} {t : Ticket} {c : Call} (hs : CallStep g t c g')
    (slot : Nat) : g'.queuedAt slot = g.queuedAt slot := by
  have hseen : Unseen (fun c => c.outbox.queued) g g' :=
    .callStep (fun _ _ => Outbox.queued_request _ _) hs
  have hqueued : ∀ g : Gateway, g.queuedAt slot =
      ((g.connections.get? slot).map fun c => c.outbox.queued).getD [] := by
    intro g
    unfold Gateway.queuedAt
    cases g.connections.get? slot <;> rfl
  rw [hqueued, hqueued, hseen slot]

/-! ## Probes -/

/-- Every outbox is left as it is but for probes that are added to it. -/
def Probes (g g' : Gateway) : Prop :=
  ∀ slot, ∃ n, g'.queuedAt slot = g.queuedAt slot ++ List.replicate n .probe

theorem Probes.refl (g : Gateway) : g.Probes g := fun _ => ⟨0, (List.append_nil _).symm⟩

theorem Probes.trans {g₁ g₂ g₃ : Gateway} (h : g₁.Probes g₂) (h' : g₂.Probes g₃) : g₁.Probes g₃ := by
  intro slot
  obtain ⟨n, hn⟩ := h slot
  obtain ⟨m, hm⟩ := h' slot
  exact ⟨n + m, by rw [hm, hn, List.append_assoc, List.replicate_append_replicate]⟩

theorem Probes.adjust {g : Gateway} {h : Handle} {f : Connection → Connection}
    (hf : ∀ c, (f c).outbox.queued = c.outbox.queued) : g.Probes (g.adjust h f) :=
  fun slot => ⟨0, (queuedAt_adjust_eq hf slot).trans (List.append_nil _).symm⟩

theorem adjust_eq {g : Gateway} {h : Handle} {c : Connection} {f f' : Connection → Connection}
    (hc : g.connection? h = some c) (hf : f c = f' c) : g.adjust h f = g.adjust h f' := by
  rw [adjust, Table.adjust_congr hc hf, adjust]

theorem connection_adjust {g : Gateway} {h : Handle} {c : Connection} (hc : g.connection? h = some c)
    (f : Connection → Connection) : (g.adjust h f).connection? h = some (f c) := by
  rw [connection?] at hc
  simp only [connection?, adjust, Table.get?_adjust, hc, if_pos, Option.map_some]

/-- An offer changes the outbox if there is room for the parcel. -/
theorem offer_eq {g : Gateway} {h : Handle} {c : Connection} (hc : g.connection? h = some c)
    (p : Parcel) : g.offer h p = (c.outbox.accepts,
      g.adjust h fun c => { c with outbox := (c.outbox.offer? p).getD c.outbox }) := by
  rw [offer, hc, Option.bind_some, Outbox.offer?]
  cases ha : c.outbox.accepts with
  | true => exact congrArg _ (adjust_eq hc (by simp [Outbox.offer?, ha]))
  | false =>
    have hsame : (g.adjust h fun c => c) = g := by
      simp [adjust, Table.adjust]
    refine congrArg (false, ·) (hsame.symm.trans (adjust_eq hc ?_))
    simp [Outbox.offer?, ha]

/-- An offer that is accepted adds one parcel to one outbox, and any other one changes nothing. -/
theorem queuedAt_offer (g : Gateway) (h : Handle) (p : Parcel) :
    (g.offer h p = (false, g)) ∨ (g.offer h p).1 = true ∧ ∀ slot, (g.offer h p).2.queuedAt slot =
      if slot = h.slot then g.queuedAt slot ++ [p] else g.queuedAt slot := by
  unfold offer
  cases hc : g.connection? h with
  | none => exact .inl rfl
  | some c =>
    cases ho : c.outbox.offer? p with
    | none =>
      left
      simp [ho]
    | some o =>
      right
      simp only [Option.bind_some, ho, true_and]
      intro slot
      have hqueued : o.queued = c.outbox.queued ++ [p] := by
        unfold Outbox.offer? at ho
        split at ho
        · cases ho
          rfl
        · cases ho
      rw [adjustOutbox, queuedAt_adjust]
      split
      · next he =>
        rw [queuedAt, he, show g.connections.get? h.slot = some c from hc]
        exact hqueued
      · rfl

theorem Probes.probeOnce (g : Gateway) (report : SweepReport) (h : Handle) :
    g.Probes (g.probeOnce report h).2 := by
  have harm : g.Probes (g.adjust h fun c => { c with liveness := c.liveness.arm }) :=
    .adjust fun _ => rfl
  have hoffer : Probes (g.adjust h fun c => { c with liveness := c.liveness.arm })
      (offer (g.adjust h fun c => { c with liveness := c.liveness.arm }) h .probe).2 := by
    rcases queuedAt_offer (g.adjust h fun c => { c with liveness := c.liveness.arm }) h .probe with
      he | ⟨-, he⟩
    · rw [he]
      exact .refl _
    · intro slot
      rw [he]
      split
      · exact ⟨1, rfl⟩
      · exact ⟨0, (List.append_nil _).symm⟩
  have hprobe : (g.probeOnce report h).2 =
      (offer (g.adjust h fun c => { c with liveness := c.liveness.arm }) h .probe).2 := by
    unfold Gateway.probeOnce
    dsimp only
    split <;> next he => rw [he]
  rw [hprobe]
  exact harm.trans hoffer

theorem Probes.visit (maxMissed : Nat) (g : Gateway) (report : SweepReport) (h : Handle) :
    g.Probes (Gateway.visit maxMissed g report h).2 := by
  unfold Gateway.visit
  split
  · exact .refl g
  · split
    · exact .probeOnce g report h
    · next c _ _ =>
      have hmiss : g.Probes (g.adjust h fun c' => { c' with liveness := c.liveness.recordMiss.2 }) :=
        .adjust fun _ => rfl
      dsimp only
      split
      · exact hmiss.trans (.adjust fun _ => Outbox.queued_request _ _)
      · exact hmiss.trans (.probeOnce _ report h)

theorem Probes.sweep (g : Gateway) (config : SweepConfig) : g.Probes (g.sweep config).2 := by
  have hfold : ∀ (es : List (Identity × Handle)) (acc : SweepReport × Gateway),
      acc.2.Probes (es.foldl (fun acc e =>
        Gateway.visit config.maxMissed acc.2 acc.1 e.2) acc).2 := by
    intro es
    induction es with
    | nil => exact fun acc => .refl acc.2
    | cons e es ih => exact fun acc => (Probes.visit config.maxMissed acc.2 acc.1 e.2).trans (ih _)
  exact hfold g.registry.entries ({}, g)

/-! ## Payloads -/

def appended (slot : Nat) (g : Gateway) (a : Action) : List Bytes :=
  ((g.act? a).elim [] fun g' => (g'.queuedAt slot).drop (g.queuedAt slot).length).filterMap
    Parcel.payload?

theorem appended_eq {g g' : Gateway} {a : Action} (ha : g.act? a = some g') (slot : Nat) :
    appended slot g a =
      ((g'.queuedAt slot).drop (g.queuedAt slot).length).filterMap Parcel.payload? := by
  rw [appended, ha, Option.elim_some]

theorem appended_of_suffix {g g' : Gateway} {a : Action} (ha : g.act? a = some g') {slot : Nat}
    (h : g'.queuedAt slot <:+ g.queuedAt slot) : appended slot g a = [] := by
  rw [appended_eq ha, List.drop_of_length_le h.length_le, List.filterMap_nil]

theorem appended_of_probes {g g' : Gateway} {a : Action} (ha : g.act? a = some g') (slot : Nat)
    (h : g.Probes g') : appended slot g a = [] := by
  obtain ⟨n, hn⟩ := h slot
  rw [appended_eq ha, hn, List.drop_left, List.filterMap_replicate_of_none rfl]

theorem appended_of_eq {g g' : Gateway} {a : Action} (ha : g.act? a = some g') {slot : Nat}
    (h : g'.queuedAt slot = g.queuedAt slot) : appended slot g a = [] :=
  appended_of_suffix ha (h ▸ List.suffix_rfl)

/-- A payload is forwarded by offering it to the connection that is registered. -/
theorem forward_registered {g : Gateway} {i : Identity} {h : Handle}
    (hreg : g.registry.get? i = some h) (payload : Bytes) :
    (g.forward i payload).2 = (g.offer h (.payload payload)).2 := by
  rw [forward, hreg]
  dsimp only
  split <;> next he => rw [he]

/-- What a delivery appends, to whom. -/
theorem appended_relay {g g' : Gateway} {s : StreamId} {r : Relay}
    (ha : g.act? (.relay s) = some g') (hr : g.relays.get? s = some r) (slot : Nat) :
    appended slot g (.relay s) = [] ∨ ∃ d b h, g.broker.next s = (.delivery d, b) ∧
      g.registry.get? r.identity = some h ∧ h.slot = slot ∧
        appended slot g (.relay s) = [d.payload] := by
  obtain ⟨r', hr', hs⟩ := relayStep_of_step ha
  cases hr.symm.trans hr'
  cases hs with
  | loses _ =>
    refine .inl (appended_of_eq ha ?_)
    unfold loseSubscription
    dsimp only
    split
    · split
      · exact queuedAt_close (g.unrelayed s) _ _ _
      · rfl
    · rfl
  | @delivers d b hnext =>
    have hqueued : (relayDelivery { g with broker := b } r.identity d).queuedAt slot =
        (forward { g with broker := b } r.identity d.payload).2.queuedAt slot := rfl
    cases hreg : g.registry.get? r.identity with
    | none =>
      refine .inl (appended_of_eq ha ?_)
      rw [hqueued, forward, hreg]
      rfl
    | some h =>
      rw [forward_registered (g := { g with broker := b }) hreg] at hqueued
      rcases queuedAt_offer { g with broker := b } h (.payload d.payload) with he | ⟨-, he⟩
      · refine .inl (appended_of_eq ha ?_)
        rw [hqueued, he]
        rfl
      · rw [he] at hqueued
        by_cases hslot : slot = h.slot
        · refine .inr ⟨d, b, h, hnext, rfl, hslot.symm, ?_⟩
          rw [if_pos hslot] at hqueued
          rw [appended_eq ha, hqueued]
          change List.filterMap _ ((g.queuedAt slot ++ [_]).drop _) = _
          rw [List.drop_left]
          rfl
        · rw [if_neg hslot] at hqueued
          exact .inl (appended_of_eq ha hqueued)

/-- No other action appends anything. -/
theorem appended_other {g g' : Gateway} {a : Action} (ha : g.act? a = some g')
    (hpub : ∀ t c, g.calls.get? t = some c → c.isPublic = true) (hno : ∀ s, a ≠ .relay s)
    (slot : Nat) : appended slot g a = [] := by
  cases a with
  | connect connId capacity =>
    refine appended_of_suffix ha ?_
    cases ha
    simp only [queuedAt, connect, Table.get?_insert]
    split
    · exact List.nil_suffix
    · exact List.suffix_rfl
  | bind p h =>
    refine appended_of_eq ha ?_
    obtain ⟨-, he⟩ := Option.ite_none_right_eq_some.mp ha
    cases he
    rfl
  | advance t =>
    obtain ⟨c, -, hs⟩ := callStep_of_step ha (hpub t)
    exact appended_of_eq ha (hs.queuedAt slot)
  | relay s => exact absurd rfl (hno s)
  | take h =>
    refine appended_of_suffix ha ?_
    cases ha
    unfold take
    split
    · exact List.suffix_rfl
    · next c hc =>
      change (g.adjust h fun c' => { c' with outbox := (c.outbox.take (g.hasHandles h)).2 }).queuedAt
        slot <:+ g.queuedAt slot
      rw [queuedAt_adjust]
      split
      · next he =>
        rw [queuedAt, he, show g.connections.get? h.slot = some c from hc]
        exact Outbox.queued_take_suffix _ _
      · exact List.suffix_rfl
  | takeStop h =>
    refine appended_of_eq ha ?_
    cases ha
    exact queuedAt_adjust_eq (fun _ => Outbox.queued_takeStop _) slot
  | dropHandle h =>
    refine appended_of_eq ha ?_
    cases ha
    refine queuedAt_adjust_eq (fun c => ?_) slot
    rfl
  | dropOutbox h =>
    refine appended_of_suffix ha ?_
    cases ha
    rw [adjustOutbox, queuedAt_adjust]
    split
    · cases g.connections.get? slot <;> exact List.nil_suffix
    · exact List.suffix_rfl
  | close h reason =>
    refine appended_of_eq ha ?_
    cases ha
    exact queuedAt_close g h reason slot
  | terminate h =>
    refine appended_of_eq ha ?_
    cases ha
    exact queuedAt_adjust_eq (fun _ => Outbox.queued_request _ _) slot
  | answer h =>
    refine appended_of_eq ha ?_
    cases ha
    refine queuedAt_adjust_eq (fun c => ?_) slot
    rfl
  | sweep config =>
    refine appended_of_probes ha slot ?_
    cases ha
    exact .sweep g config
  | _ =>
    refine appended_of_eq ha ?_
    cases ha
    rfl

end Gateway
end LocationRelay
