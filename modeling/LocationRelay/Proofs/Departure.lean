import LocationRelay.Proofs.Ledger

/-! # Connections that are not registered any more

A bind registers its handle when it gets its lock and never again. So a connection that is superseded or
given back does not come back as long as nobody binds it a second time.
-/
namespace LocationRelay.Gateway

def Entered (g : Gateway) (t : Ticket) : Prop :=
  ∃ c, g.calls.get? t = some c ∧ c.isWaiting = false

/-- A call stays where it is unless it is the one that goes on. -/
theorem Happening.stays {g g' : Gateway} {t : Ticket} {c : Call} (hstep : g.Happening g')
    (hl : g.Locking) (ht : g.calls.get? t = some c) :
    g'.calls.get? t = some c ∨ CallStep g t c g' := by
  cases hstep with
  | aside h => exact .inl (h.calls ▸ ht)
  | asks _ => exact .inl (hl.start_keeps _ ht)
  | startsShutdown => exact .inl (hl.start_keeps _ ht)
  | @goesOn u d _ hu hs =>
    by_cases he : t = u
    · subst he
      cases ht.symm.trans hu
      exact .inr hs
    · obtain ⟨e, he', -⟩ := hs.moves.calls
      exact .inl (((he' t).trans (if_neg he)).trans ht)

theorem Entered.happening {g g' : Gateway} {t : Ticket} (he : g.Entered t) (hg : g.Locking)
    (hstep : g.Happening g') : g'.Entered t := by
  obtain ⟨c, hc, hw⟩ := he
  rcases hstep.stays hg hc with hc' | hs
  · exact ⟨c, hc', hw⟩
  · obtain ⟨d, hd, hw', -⟩ := hs.moves.calls
    exact ⟨d, (hd t).trans (if_pos rfl), hw'⟩

theorem Keeps.entered {g : Gateway} {t : Ticket} {p : Principal} {h : Handle} (hk : g.Keeps t p h) :
    g.Entered t := by
  rcases hk with ⟨stage, ht, hne⟩ | ht
  · exact ⟨_, ht, Call.isWaiting_bind hne⟩
  · exact ⟨_, ht, rfl⟩

/-- The bind with this ticket has had its turn, and its handle is not registered. -/
structure Gone (g : Gateway) (t : Ticket) (i : Identity) (h : Handle) : Prop where
  entered : g.Entered t
  unregistered : g.registry.get? i ≠ some h

theorem Gone.happening {g g' : Gateway} {t : Ticket} {i : Identity} {h : Handle} (hg : g.Gone t i h)
    {log : List (Ticket × Principal × Handle)} (hc : g.Consistent) (hl : g.Ledger log)
    (honce : ∀ e ∈ log, e.2.2 = h → e.1 = t) (hstep : g.Happening g') : g'.Gone t i h where
  entered := hg.entered.happening hc.locking hstep
  unregistered hi := by
    cases hstep with
    | aside h => exact hg.unregistered (h.registry hi)
    | asks _ => exact hg.unregistered hi
    | startsShutdown => exact hg.unregistered hi
    | @goesOn u c _ hu hs =>
      rcases hs.registry hi with hi | ⟨p, -, rfl, -⟩
      · exact hg.unregistered hi
      · -- The handle would be registered by the bind that has had its turn.
        cases honce _ (hl.calls u p h .waiting hu) rfl
        obtain ⟨c, hc, hw⟩ := hg.entered
        rw [hu] at hc
        cases hc
        cases hw

theorem Entered.run {g g' : Gateway} {t : Ticket} {as : List Action} (he : g.Entered t)
    (hg : g.Consistent) (hrun : g.run as = some g') : g'.Entered t :=
  hg.preserves (P := fun g => g.Entered t) (fun hg he hstep => he.happening hg.locking hstep)
    hrun he

/-- An unbind that gets its lock finds that somebody else is registered, or removes the registration. -/
theorem UnbindStep.enters {g g' : Gateway} {t : Ticket} {i : Identity} {connId : Nat}
    (hs : UnbindStep g t i connId .waiting g') :
    g'.calls.get? t = some (.done (.unbound false)) ∨
      (∃ k, g.registry.get? i = some k ∧ k.connId = connId) ∧ g'.registry.get? i = none := by
  have hcurrent : g.isCurrent i connId = true → ∃ k, g.registry.get? i = some k ∧ k.connId = connId := by
    intro hcur
    simpa only [isCurrent, beq_iff_eq, Option.map_eq_some_iff] using hcur
  cases hs with
  | stale _ _ =>
    left
    simp only [finish, Table.get?_insert, if_true]
  | releases _ hcur _ =>
    refine .inr ⟨hcurrent hcur, ?_⟩
    simp only [setCall, detached, Gateway.unregistered, Table.get?_erase, if_true]
  | forgets _ hcur _ =>
    refine .inr ⟨hcurrent hcur, ?_⟩
    simp only [finish, Gateway.unregistered, Table.get?_erase, if_true]

/-- The unbind waits for its lock, has been told that it came too late, or has had the connection go. -/
def Leaving (g : Gateway) (u : Ticket) (p : Principal) (h : Handle)
    (log : List (Ticket × Principal × Handle)) : Prop :=
  g.calls.get? u = some (.unbind p.identity h.connId .waiting) ∨
    g.calls.get? u = some (.done (.unbound false)) ∨ ∃ t, (t, p, h) ∈ log ∧ g.Gone t p.identity h

theorem Leaving.mono {g : Gateway} {u : Ticket} {p : Principal} {h : Handle}
    {log log' : List (Ticket × Principal × Handle)} (hl : g.Leaving u p h log) (hsub : log ⊆ log') :
    g.Leaving u p h log' := by
  rcases hl with hwait | hstale | ⟨t, hlog, hgone⟩
  · exact .inl hwait
  · exact .inr (.inl hstale)
  · exact .inr (.inr ⟨t, hsub hlog, hgone⟩)

theorem Leaving.happening {g g' : Gateway} {u : Ticket} {p : Principal} {h : Handle}
    {log : List (Ticket × Principal × Handle)} (hl : g.Leaving u p h log) (hg : g.Consistent)
    (hledger : g.Ledger log) (hids : ∀ e ∈ log, e.2.2.connId = h.connId → e.2 = (p, h))
    (honce : ∀ t, (t, p, h) ∈ log → ∀ e ∈ log, e.2.2 = h → e.1 = t) (hstep : g.Happening g') :
    g'.Leaving u p h log := by
  rcases hl with hwait | hstale | ⟨t, hlog, hgone⟩
  · rcases hstep.stays hg.locking hwait with hwait | hs
    · exact .inl hwait
    · cases hs with
      | unbind hs =>
        rcases hs.enters with hstale | ⟨⟨k, hk, hid⟩, hnone⟩
        · exact .inr (.inl hstale)
        · -- Whoever is registered under the number of the handle is the handle itself.
          obtain ⟨t, q, hlog, -, hkeeps⟩ := hledger.registered _ k hk
          cases hids _ hlog hid
          refine .inr (.inr ⟨t, hlog, hkeeps.entered.happening hg.locking hstep, ?_⟩)
          rw [hnone]
          rintro ⟨⟩
  · exact .inr (.inl ((Grows.happening hg.locking hg.handled hstep).done _ _ hstale))
  · exact .inr (.inr ⟨t, hlog, hgone.happening hg hledger (honce t hlog) hstep⟩)

end LocationRelay.Gateway
