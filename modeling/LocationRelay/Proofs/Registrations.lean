import LocationRelay.Proofs.Sections

/-! # Registered connections

Every handle that is registered, or that a call is about to register, belongs to a connection that was
opened. Once the gateway is shutting down nobody registers any more, and whoever is registered still has
been told to close.
-/
namespace LocationRelay

def Call.handle? : Call → Option Handle
  | .bind _ h _ => some h
  | _ => none

namespace Gateway

structure Handled (g : Gateway) : Prop where
  slots : ∀ slot, g.connections.get? slot = none ↔ g.connections.size ≤ slot
  registered : ∀ i h, g.registry.get? i = some h → g.Opened h
  asked : ∀ t c h, g.calls.get? t = some c → c.handle? = some h → g.Opened h
  flagged : g.shuttingDown = true → ∀ i h, g.registry.get? i = some h → g.Stopped h

/-- Nobody registers, no connection goes away, and the shutdown neither begins nor is called off. -/
structure Tame (g g' : Gateway) : Prop where
  size : g'.connections.size = g.connections.size
  opened : ∀ slot, g'.connections.get? slot = none ↔ g.connections.get? slot = none
  stopped : ∀ h, g.Stopped h → g'.Stopped h
  registry : ∀ i h, g'.registry.get? i = some h → g.registry.get? i = some h
  shuttingDown : g'.shuttingDown = g.shuttingDown

namespace Tame

theorem refl (g : Gateway) : g.Tame g := ⟨rfl, fun _ => .rfl, fun _ h => h, fun _ _ h => h, rfl⟩

theorem trans {g₁ g₂ g₃ : Gateway} (h : g₁.Tame g₂) (h' : g₂.Tame g₃) : g₁.Tame g₃ where
  size := h'.size.trans h.size
  opened slot := (h'.opened slot).trans (h.opened slot)
  stopped k hk := h'.stopped k (h.stopped k hk)
  registry i k hk := h.registry i k (h'.registry i k hk)
  shuttingDown := h'.shuttingDown.trans h.shuttingDown

theorem of_eq {g g' : Gateway} (hc : g'.connections = g.connections)
    (hr : g'.registry = g.registry) (hd : g'.shuttingDown = g.shuttingDown) : g.Tame g' where
  size := by rw [hc]
  opened slot := by rw [hc]
  stopped h hh := by
    unfold Stopped stopOf connection? at hh ⊢
    rw [hc]
    exact hh
  registry i h hi := hr ▸ hi
  shuttingDown := hd

theorem unregistered (g : Gateway) (i : Identity) : g.Tame (g.unregistered i) where
  size := rfl
  opened _ := .rfl
  stopped _ h := h
  registry j h hj := by
    simp only [Gateway.unregistered, Table.get?_erase] at hj
    split at hj
    · cases hj
    · exact hj
  shuttingDown := rfl

end Tame

theorem ConnectionsOnly.tame {g g' : Gateway} (h : g.ConnectionsOnly g') : g.Tame g' where
  size := h.size
  opened := h.opened
  stopped := h.stopped
  registry i k hk := by rw [h.rest] at hk; exact hk
  shuttingDown := by rw [h.rest]

theorem release_eq (g : Gateway) (i : Identity) (connId : Nat) :
    g.release i connId = (false, g) ∨ g.release i connId = (true, g.unregistered i) := by
  unfold release
  split
  · exact .inr rfl
  · exact .inl rfl

/-- A bind that is undone while its connection is registered removes the registration. -/
theorem abandonBind_eq {g : Gateway} {p : Principal} {h : Handle}
    (hreg : g.registry.get? p.identity = some h) (t : Ticket) (reason : CloseReason) (e : BrokerError) :
    g.abandonBind t p h reason e =
      ((g.unregistered p.identity).close h reason).finish t (.bound (.error e)) := by
  have hcur : g.isCurrent p.identity h.connId = true := by simp [isCurrent, hreg]
  unfold abandonBind release
  rw [if_pos hcur]
  rfl

theorem Tame.release (g : Gateway) (i : Identity) (connId : Nat) :
    g.Tame (g.release i connId).2 := by
  rcases release_eq g i connId with h | h <;> rw [h]
  · exact .refl g
  · exact .unregistered g i

theorem Tame.relayStep {g g' : Gateway} {s : StreamId} {r : Relay} (h : RelayStep g s r g') :
    g.Tame g' := by
  cases h with
  | @delivers d b _ =>
    have hbroker : g.Tame { g with broker := b } := .of_eq rfl rfl rfl
    have hforward := (ConnectionsOnly.forward { g with broker := b } r.identity d.payload).tame
    exact (hbroker.trans hforward).trans (.of_eq rfl rfl rfl)
  | loses _ =>
    have hdropped : g.Tame (g.unrelayed s) := .of_eq rfl rfl rfl
    exact hdropped.trans (ConnectionsOnly.loseSubscription g s r).tame

theorem Aside.registry {g g' : Gateway} (h : Aside g g') {i : Identity} {k : Handle}
    (hk : g'.registry.get? i = some k) : g.registry.get? i = some k := by
  cases h with
  | visits h => exact h.tame.registry i k hk
  | prunes h => exact h.tame.registry i k hk
  | connects connId capacity => exact hk
  | relays _ hs => exact (Tame.relayStep hs).registry i k hk
  | brokers _ => exact hk

theorem registered_spec (g : Gateway) (i : Identity) (h : Handle) :
    ConnectionsOnly { g with registry := g.registry.insert i h } (g.registered i h) := by
  unfold Gateway.registered
  split
  · exact .close _ _ _
  · exact .refl _

@[simp] theorem registry_registered (g : Gateway) (i j : Identity) (h : Handle) :
    (g.registered i h).registry.get? j = if j = i then some h else g.registry.get? j := by
  rw [(registered_spec g i h).rest]
  exact Table.get?_insert g.registry i j h

/-- Whoever is registered after a step of a call was so before, or is registered by the call itself when it
gets its lock. -/
theorem CallStep.registry {g g' : Gateway} {t : Ticket} {c : Call} (hs : CallStep g t c g')
    {i : Identity} {k : Handle} (hi : g'.registry.get? i = some k) :
    g.registry.get? i = some k ∨ ∃ p stage, c = .bind p k .waiting ∧ p.identity = i ∧
      g'.calls.get? t = some (.bind p k stage) ∧ stage ≠ .waiting := by
  cases hs with
  | @bind p h stage _ hs =>
    have hregister : (g.registered p.identity h).registry.get? i = some k → stage = .waiting →
        ∀ stage', g'.calls.get? t = some (.bind p h stage') → stage' ≠ .waiting →
          g.registry.get? i = some k ∨ ∃ q st, Call.bind p h stage = .bind q k .waiting ∧
            q.identity = i ∧ g'.calls.get? t = some (.bind q k st) ∧ st ≠ .waiting := by
      intro hi hstage stage' hat hne
      rw [registry_registered] at hi
      split at hi
      · next he =>
        cases hi
        exact .inr ⟨p, stage', by rw [hstage], he.symm, hat, hne⟩
      · exact .inl hi
    have habandon : ∀ reason e, (g.abandonBind t p h reason e).registry.get? i = some k →
        g.registry.get? i = some k := by
      intro reason e hi
      have hclose := (ConnectionsOnly.close (g.release p.identity h.connId).2 h reason).tame
      exact (Tame.release g _ _).registry i k (hclose.registry i k hi)
    cases hs with
    | refused _ _ => exact .inl ((ConnectionsOnly.close g h .shutdown).tame.registry i k hi)
    | evicts _ _ _ _ =>
      exact hregister hi rfl _ ((calls_setCall _ t _ t).trans (if_pos rfl)) (by rintro ⟨⟩)
    | clears _ _ _ _ =>
      exact hregister hi rfl _ ((calls_setCall _ t _ t).trans (if_pos rfl)) (by rintro ⟨⟩)
    | enters _ _ _ =>
      exact hregister hi rfl _ ((calls_setCall _ t _ t).trans (if_pos rfl)) (by rintro ⟨⟩)
    | fails e => exact .inl (habandon _ _ hi)
    | gaveUp => exact .inl (habandon _ _ hi)
    | _ => exact .inl hi
  | @unbind j connId stage _ hs =>
    have hun := (Tame.unregistered g j).registry i k
    cases hs with
    | releases _ _ _ => exact .inl (hun hi)
    | forgets _ _ _ => exact .inl (hun hi)
    | _ => exact .inl hi
  | @shutdown stage _ hs =>
    have hstop : ∀ {g₁ g' : Gateway} {is : List Identity}, StopStep g₁ t is g' →
        g'.registry = g₁.registry := by
      intro g₁ g' is hs
      cases hs <;> rfl
    left
    cases hs with
    | begins _ hs =>
      rw [hstop hs, (connectionsOnly_flagged g).rest] at hi
      exact hi
    | goesOn is hs =>
      rw [hstop hs] at hi
      exact hi
    | _ => exact hi

theorem Handled.tame {g g' : Gateway} (hg : g.Handled) (ht : g.Tame g')
    (hcalls : ∀ t c h, g'.calls.get? t = some c → c.handle? = some h → g.Opened h) :
    g'.Handled where
  slots slot := by rw [ht.opened slot, ht.size]; exact hg.slots slot
  registered i h hi hn := hg.registered i h (ht.registry i h hi) ((ht.opened _).mp hn)
  asked t c h hc hh hn := hcalls t c h hc hh ((ht.opened _).mp hn)
  flagged hd i h hi := ht.stopped h (hg.flagged (ht.shuttingDown ▸ hd) i h (ht.registry i h hi))

theorem Handled.sameCalls {g g' : Gateway} (hg : g.Handled) (ht : g.Tame g') (hs : g.SameCalls g') :
    g'.Handled :=
  hg.tame ht fun t c h hc hh => hg.asked t c h (hs.calls ▸ hc) hh

theorem Handled.register {g : Gateway} (hg : g.Handled) (hup : g.shuttingDown = false) (i : Identity)
    {h : Handle} (ho : g.Opened h) : (g.registered i h).Handled := by
  have hspec := registered_spec g i h
  refine ⟨fun slot => ?_, fun j k hj hn => ?_, fun t c k hc hk hn => ?_, fun hd => ?_⟩
  · rw [hspec.opened slot, hspec.size]
    exact hg.slots slot
  · rw [registry_registered] at hj
    have hn := (hspec.opened _).mp hn
    split at hj
    · cases hj
      exact ho hn
    · exact hg.registered j k hj hn
  · rw [hspec.rest] at hc
    exact hg.asked t c k hc hk ((hspec.opened _).mp hn)
  · rw [hspec.rest] at hd
    rw [hup] at hd
    cases hd

/-- Raising the flag of the shutdown tells everybody who is registered to close. -/
theorem Handled.flag {g : Gateway} (hg : g.Handled) : g.flagged.Handled := by
  have hspec := connectionsOnly_flagged g
  refine ⟨fun slot => ?_, fun i h hi hn => ?_, fun t c h hc hh hn => ?_, fun _ i h hi => ?_⟩
  · rw [hspec.opened slot, hspec.size]
    exact hg.slots slot
  · rw [hspec.rest] at hi
    exact hg.registered i h hi ((hspec.opened _).mp hn)
  · rw [hspec.rest] at hc
    exact hg.asked t c h hc hh ((hspec.opened _).mp hn)
  · rw [hspec.rest] at hi
    exact flagged_stopped hi (hg.registered i h hi)

theorem Handled.setCall {g : Gateway} (hg : g.Handled) {t : Ticket} {d : Call}
    (hd : ∀ h, d.handle? = some h → g.Opened h) : (g.setCall t d).Handled := by
  refine hg.tame (.of_eq rfl rfl rfl) fun u c h hu hh => ?_
  simp only [Gateway.setCall, Table.get?_insert] at hu
  split at hu
  · cases hu
    exact hd h hh
  · exact hg.asked u c h hu hh

theorem Handled.finish {g : Gateway} (hg : g.Handled) (t : Ticket) (o : Outcome) :
    (g.finish t o).Handled := by
  have hset : (g.setCall t (.done o)).Handled := hg.setCall fun h hh => by cases hh
  exact hset.tame (.of_eq rfl rfl rfl) hset.asked

theorem Handled.callStep {g g' : Gateway} (hg : g.Handled) {t : Ticket} {c : Call}
    (ht : g.calls.get? t = some c) (hs : CallStep g t c g') : g'.Handled := by
  have hset : ∀ {g₁ : Gateway} {d : Call}, g.Tame g₁ → g.SameCalls g₁ →
      (∀ h, d.handle? = some h → c.handle? = some h) → (g₁.setCall t d).Handled := by
    intro g₁ d htame hsame hd
    refine (hg.sameCalls htame hsame).setCall fun h hh hn => ?_
    exact hg.asked t c h ht (hd h hh) ((htame.opened _).mp hn)
  have hfinish : ∀ {g₁ : Gateway} (o : Outcome), g.Tame g₁ → g.SameCalls g₁ →
      (g₁.finish t o).Handled := by
    intro g₁ o htame hsame
    exact (hg.sameCalls htame hsame).finish t o
  cases hs with
  | @bind p h stage _ hs =>
    have hopened : g.Opened h := hg.asked t _ h ht rfl
    have hregister : g.shuttingDown = false → ∀ {g₁ : Gateway} (stage' : BindStage),
        (g.registered p.identity h).Tame g₁ → (g.registered p.identity h).SameCalls g₁ →
        (g₁.setCall t (.bind p h stage')).Handled := by
      intro hup g₁ stage' htame hsame
      refine ((hg.register hup p.identity hopened).sameCalls htame hsame).setCall ?_
      rintro k ⟨⟩ hn
      exact hopened (((registered_spec g p.identity h).opened _).mp ((htame.opened _).mp hn))
    have habandon : ∀ reason e, (g.abandonBind t p h reason e).Handled := by
      intro reason e
      have hrel := SameCalls.release g p.identity h.connId
      exact hfinish _ ((Tame.release g _ _).trans (ConnectionsOnly.close _ h reason).tame)
        (hrel.trans (ConnectionsOnly.close _ h reason).sameCalls)
    cases hs with
    | refused _ _ =>
      exact hfinish _ (ConnectionsOnly.close g h _).tame (ConnectionsOnly.close g h _).sameCalls
    | evicts _ hup _ _ => exact hregister hup _ (.of_eq rfl rfl rfl) ⟨rfl, rfl, rfl⟩
    | clears _ hup _ _ => exact hregister hup _ (.of_eq rfl rfl rfl) ⟨rfl, rfl, rfl⟩
    | enters _ hup _ => exact hregister hup _ (.refl _) (.refl _)
    | succeeds s _ => exact hfinish _ (.of_eq rfl rfl rfl) ⟨rfl, rfl, rfl⟩
    | fails e => exact habandon _ _
    | gaveUp => exact habandon _ _
    | _ => exact hset (.of_eq rfl rfl rfl) ⟨rfl, rfl, rfl⟩ fun _ hh => hh
  | @unbind i connId stage _ hs =>
    have hun := Tame.unregistered g i
    cases hs with
    | stale _ _ => exact hfinish _ (.refl g) (.refl g)
    | releases _ _ _ =>
      exact hset (hun.trans (.of_eq rfl rfl rfl)) ⟨rfl, rfl, rfl⟩ fun _ hh => hh
    | forgets _ _ _ => exact hfinish _ hun ⟨rfl, rfl, rfl⟩
    | deletes x => exact hset (.of_eq rfl rfl rfl) ⟨rfl, rfl, rfl⟩ fun _ hh => hh
    | ends => exact hfinish _ (.refl g) (.refl g)
  | @shutdown stage _ hs =>
    have hstop : ∀ {g₁ g' : Gateway} {is : List Identity}, g₁.Handled →
        StopStep g₁ t is g' → g'.Handled := by
      intro g₁ g' is hg₁ hs
      cases hs with
      | none_left _ _ => exact hg₁.setCall fun h hh => by cases hh
      | @stops i k _ rest _ _ =>
        have hdetached : (g₁.detached i k).Handled :=
          hg₁.sameCalls (.of_eq rfl rfl rfl) ⟨rfl, rfl, rfl⟩
        exact hdetached.setCall fun h hh => by cases hh
    cases hs with
    | again _ => exact hfinish _ (.refl g) (.refl g)
    | begins _ hs => exact hstop hg.flag hs
    | goesOn is hs => exact hstop hg hs
    | deletes x is => exact hset (.of_eq rfl rfl rfl) ⟨rfl, rfl, rfl⟩ fun h hh => by cases hh
    | disconnects => exact hfinish _ (.of_eq rfl rfl rfl) ⟨rfl, rfl, rfl⟩

theorem handled_fresh (exchange : String) (refusing : Bool) :
    Handled { exchange, broker := { refusing } } where
  slots slot := ⟨fun _ => Nat.zero_le _, fun _ => rfl⟩
  registered i h hi := by cases hi
  asked t c h hc := by cases hc
  flagged hd := by cases hd

theorem Handled.stopped_connect {g : Gateway} (hg : g.Handled) {connId capacity : Nat} {h : Handle}
    (hh : g.Stopped h) : (g.connect connId capacity).2.Stopped h := by
  have hne : h.slot ≠ g.connections.size := by
    intro he
    rw [Stopped, stopOf, connection?, he, (hg.slots _).mpr (Nat.le_refl _)] at hh
    exact hh rfl
  simpa only [Stopped, stopOf, connection?, Gateway.connect, Table.get?_insert, if_neg hne]
    using hh

/-- A new connection takes the first slot that is free. -/
theorem Handled.connect {g : Gateway} (hg : g.Handled) (connId capacity : Nat) :
    (g.connect connId capacity).2.Handled := by
  have habsent : g.connections.get? g.connections.size = none :=
    (hg.slots _).mpr (Nat.le_refl _)
  have hopened : ∀ h, g.Opened h → (g.connect connId capacity).2.Opened h := by
    intro h ho hn
    simp only [connection?, Gateway.connect, Table.get?_insert] at hn
    split at hn
    · cases hn
    · exact ho hn
  refine ⟨fun slot => ?_, fun i h hi => hopened h (hg.registered i h hi),
    fun t c h hc hh => hopened h (hg.asked t c h hc hh),
    fun hd i h hi => hg.stopped_connect (hg.flagged hd i h hi)⟩
  simp only [Gateway.connect, Table.get?_insert, Table.size_insert_of_absent habsent]
  split
  · next he => simp [he]
  · rw [hg.slots slot]
    omega

theorem Handled.start {g : Gateway} (hg : g.Handled) (c : Call)
    (hc : ∀ h, c.handle? = some h → g.Opened h) : (g.start c).2.Handled := by
  have hset := hg.setCall (t := g.nextTicket) hc
  exact hset.tame (.of_eq rfl rfl rfl) hset.asked

theorem Handled.happening {g g' : Gateway} (hg : g.Handled) (h : g.Happening g') :
    g'.Handled := by
  cases h with
  | aside h =>
    cases h with
    | visits h => exact hg.sameCalls h.tame h.sameCalls
    | prunes h =>
      have hvisited := hg.sameCalls h.tame h.sameCalls
      exact hvisited.tame (.of_eq rfl rfl rfl) hvisited.asked
    | connects connId capacity => exact hg.connect connId capacity
    | relays _ hs => exact hg.sameCalls (.relayStep hs) (.relayStep hs)
    | brokers _ => exact hg.tame (.of_eq rfl rfl rfl) hg.asked
  | @asks _ i hc =>
    cases hc with
    | @bind p h ho =>
      have hstart := hg.start (.bind p h .waiting) (by rintro k ⟨⟩; exact ho)
      exact hstart.tame (.of_eq rfl rfl rfl) hstart.asked
    | unbind _ connId =>
      have hstart := hg.start (.unbind i connId .waiting) fun _ hh => by cases hh
      exact hstart.tame (.of_eq rfl rfl rfl) hstart.asked
  | startsShutdown => exact hg.start _ fun _ hh => by cases hh
  | goesOn ht hs => exact hg.callStep ht hs

end Gateway
end LocationRelay
