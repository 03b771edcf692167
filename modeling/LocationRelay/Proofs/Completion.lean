import LocationRelay.Proofs.Replay

/-! # Requests one after the other

A call waits for nothing but its lock, so a call that is made when no other is under way gets to its end by
itself. Requests can therefore be made one after the other, each when the one before it has been answered.
-/
namespace LocationRelay

def BindStage.rank : BindStage → Nat
  | .waiting => 8
  | .evicting _ => 7
  | .opening .begin => 6
  | .opening (.clearing _) => 5
  | .opening .declaring => 4
  | .opening (.declared _) => 3
  | .retracting _ => 2
  | .retracted => 1

def UnbindStage.rank : UnbindStage → Nat
  | .waiting => 3
  | .deleting _ => 2
  | .deleted => 1

def Call.rank : Call → Nat
  | .bind _ _ stage => stage.rank
  | .unbind _ _ stage => stage.rank
  | _ => 0

namespace Gateway

variable {bound : Nat → Prop} {g g₁ g' : Gateway} {t : Ticket} {c : Call} {r : Request}

/-! ## A call by itself -/

/-- A call that is not over can go on unless it waits for its lock. -/
theorem step_of_request (ht : g.calls.get? t = some c) (hr : c.request? = some r)
    (hlock : c.isWaiting = true → g.locks.holds t = true) : ∃ g', g.step? t = some g' := by
  unfold step?
  rw [ht]
  cases c with
  | bind p h stage =>
    cases stage with
    | waiting => exact ⟨_, if_pos (hlock rfl)⟩
    | opening o =>
      cases o with
      | declared answer => cases answer <;> exact ⟨_, rfl⟩
      | _ => exact ⟨_, rfl⟩
    | _ => exact ⟨_, rfl⟩
  | unbind i connId stage =>
    cases stage with
    | waiting => exact ⟨_, if_pos (hlock rfl)⟩
    | _ => exact ⟨_, rfl⟩
  | _ => cases hr

theorem BindStep.rank_lt {p : Principal} {h : Handle} {stage : BindStage} {d : Call}
    (hs : BindStep g t p h stage g') (hd : g'.calls.get? t = some d) : d.rank < stage.rank := by
  have hset : ∀ {g₁ : Gateway} {e : Call}, (g₁.setCall t e).calls.get? t = some d → e = d := by
    intro g₁ e he
    rw [calls_setCall, if_pos rfl] at he
    exact Option.some.inj he
  have hfinish : ∀ {g₁ : Gateway} {o : Outcome}, (g₁.finish t o).calls.get? t = some d →
      d.rank = 0 := by
    intro g₁ o he
    rw [calls_finish, if_pos rfl] at he
    cases he
    rfl
  cases hs with
  | refused _ _ => exact hfinish hd ▸ Nat.zero_lt_succ _
  | fails e => exact hfinish hd ▸ Nat.zero_lt_succ _
  | succeeds s _ => exact hfinish hd ▸ Nat.zero_lt_succ _
  | gaveUp => exact hfinish hd ▸ Nat.zero_lt_succ _
  | evicts _ _ _ _ => exact hset hd ▸ (by decide : 7 < 8)
  | clears _ _ _ _ => exact hset hd ▸ (by decide : 5 < 8)
  | enters _ _ _ => exact hset hd ▸ (by decide : 4 < 8)
  | evicted x => exact hset hd ▸ (by decide : 6 < 7)
  | looks _ => exact hset hd ▸ (by decide : 4 < 6)
  | finds _ => exact hset hd ▸ (by decide : 5 < 6)
  | cleared x => exact hset hd ▸ (by decide : 4 < 5)
  | declares => exact hset hd ▸ (by decide : 3 < 4)
  | retracts s _ => exact hset hd ▸ (by decide : 2 < 3)
  | retracted x => exact hset hd ▸ (by decide : 1 < 2)

theorem UnbindStep.rank_lt {i : Identity} {connId : Nat} {stage : UnbindStage} {d : Call}
    (hs : UnbindStep g t i connId stage g') (hd : g'.calls.get? t = some d) :
    d.rank < stage.rank := by
  cases hs <;> simp only [calls_setCall, calls_finish, if_true, Option.some.injEq] at hd <;>
    subst hd <;> simp [Call.rank, UnbindStage.rank]

/-- A call that goes on by itself gets to its end. -/
theorem Consistent.completes (hg : g.Consistent)
    (ht : g.calls.get? t = some c) (hc : (∃ r, c.request? = some r) ∨ ∃ o, c = .done o)
    (hlock : c.isWaiting = true → g.locks.holds t = true) :
    ∃ n g' o, g.run (List.replicate n (.advance t)) = some g' ∧ g'.outcome? t = some o := by
  induction hn : c.rank using Nat.strongRecOn generalizing g c with
  | _ n ih =>
    subst hn
    rcases hc with ⟨r, hr⟩ | ⟨o, rfl⟩
    · obtain ⟨g₁, hstep⟩ := step_of_request ht hr hlock
      have hact : g.act? (.advance t) = some g₁ := hstep
      obtain ⟨c', hc', hs⟩ := callStep_of_step hstep (hg.locking.isPublic t)
      cases ht.symm.trans hc'
      obtain ⟨d, hd, hw, hfollows⟩ := hs.moves.calls
      have ht₁ : g₁.calls.get? t = some d := (hd t).trans (if_pos rfl)
      have hrank : d.rank < c.rank := by
        cases hs with
        | bind hs => exact hs.rank_lt ht₁
        | unbind hs => exact hs.rank_lt ht₁
        | shutdown _ => cases hr
      have hkind : (∃ r, d.request? = some r) ∨ ∃ o, d = .done o := by
        refine hfollows.imp_left fun hf => ?_
        cases hf with
        | bind _ => exact ⟨_, rfl⟩
        | unbind _ => exact ⟨_, rfl⟩
        | shutdown _ => cases hr
      have hg₁ := hg.act hact
      obtain ⟨n, g', o, hrun, ho⟩ := ih d.rank hrank hg₁ ht₁ hkind
        (fun he => by rw [hw] at he; cases he) rfl
      refine ⟨n + 1, g', o, ?_, ho⟩
      rw [List.replicate_succ]
      exact run_cons_eq_some.mpr ⟨g₁, hact, hrun⟩
    · exact ⟨0, g, o, rfl, outcome_of_done ht⟩

theorem Consistent.calls_alone {n : Nat} (hg : g.Consistent)
    (hrun : g.run (List.replicate n (.advance t)) = some g') {u : Ticket} (hne : u ≠ t) :
    g'.calls.get? u = g.calls.get? u := by
  induction n generalizing g with
  | zero =>
    cases hrun
    rfl
  | succ n ih =>
    rw [List.replicate_succ] at hrun
    obtain ⟨g₁, ha, hrest⟩ := run_cons_eq_some.mp hrun
    obtain ⟨c, -, hs⟩ := callStep_of_step ha (hg.locking.isPublic t)
    obtain ⟨d, hd, -⟩ := hs.moves.calls
    rw [ih (hg.act ha) hrest, hd, if_neg hne]

/-- A call takes effect once. -/
theorem Consistent.entered_alone {n : Nat} (hg : g.Consistent) (he : g.Entered t)
    (hrun : g.run (List.replicate n (.advance t)) = some g') :
    noted entered g (List.replicate n (.advance t)) = [] := by
  induction n generalizing g with
  | zero => rfl
  | succ n ih =>
    rw [List.replicate_succ] at hrun ⊢
    obtain ⟨g₁, ha, hrest⟩ := run_cons_eq_some.mp hrun
    have hstep := happening_of_act ha hg.locking.isPublic
    obtain ⟨c, hc, hw⟩ := he
    have he₁ : g₁.Entered t := Entered.happening ⟨c, hc, hw⟩ hg.locking hstep
    rw [noted, ha, Option.elim_some, entered_of_busy hc hw, ih (hg.happening hstep) he₁ hrest]
    rfl

/-! ## One request -/

theorem Settled.unrequested (hs : g.Settled) (hl : g.Locking) : g.locks.requests = [] := by
  refine List.eq_nil_iff_forall_not_mem.mpr fun r hr => ?_
  obtain ⟨c, hc, hw⟩ := hl.asked r hr
  obtain ⟨o, rfl⟩ := hs _ c hc
  cases hw

/-- A request that is made when no call is under way has the effect on the view that is its own. -/
theorem Resting.serve {g₂ : Gateway} {n : Nat} {o : Outcome} (hg : g.Resting bound)
    (hbound : ∀ p h, r = .bind p h → bound h.slot) (hstart : g.act? r.action = some g₁)
    (halone : g₁.run (List.replicate n (.advance g.nextTicket)) = some g₂)
    (hover : g₂.outcome? g.nextTicket = some o) : g₂.Resting bound ∧
      g₂.view = (g.view.effect r).2 ∧ o = (g.view.effect r).1 := by
  have hg₁ : g₁.Consistent :=
    hg.consistent.act hstart
  obtain ⟨c, i, hc, hr, rfl⟩ := call_of_action hstart
  have hw := hc.isWaiting
  have ht := (calls_started g c i g.nextTicket).trans (if_pos rfl)
  have hrun : g.run (r.action :: List.replicate n (.advance g.nextTicket)) = some g₂ :=
    run_cons_eq_some.mpr ⟨_, hstart, halone⟩
  have hsettled : g₂.Settled := by
    intro u d hu
    by_cases hut : u = g.nextTicket
    · rw [hut, done_of_outcome hover] at hu
      exact ⟨o, (Option.some.inj hu).symm⟩
    · rw [hg₁.calls_alone halone hut, calls_started, if_neg hut] at hu
      exact hg.settled u d hu
  have hentered : noted entered g (r.action :: List.replicate n (.advance g.nextTicket)) =
      [(g.nextTicket, r)] := by
    rw [noted, entered_action, hstart, Option.elim_some, List.nil_append]
    cases n with
    | zero =>
      cases halone
      rw [done_of_outcome hover] at ht
      cases ht
      cases hw
    | succ n =>
      rw [List.replicate_succ] at halone ⊢
      obtain ⟨g₃, ha, hrest⟩ := run_cons_eq_some.mp halone
      obtain ⟨c', hc', hs⟩ := callStep_of_step ha (hg₁.locking.isPublic _)
      obtain ⟨d, hd, hbusy, -⟩ := hs.moves.calls
      have hg₃ := hg₁.act ha
      rw [noted, ha, Option.elim_some, entered_of_waiting ht hw hr,
        hg₃.entered_alone ⟨d, (hd _).trans (if_pos rfl), hbusy⟩ hrest, List.append_nil]
  obtain ⟨hresting, hview, hout⟩ := hg.run hrun
    (by
      intro a ha
      left
      rcases List.mem_cons.mp ha with rfl | ha
      · cases r <;> rfl
      · rw [List.eq_of_mem_replicate ha]
        rfl)
    (by
      intro p h ha
      rcases List.mem_cons.mp ha with ha | ha
      · cases r <;> cases ha
        exact hbound _ _ rfl
      · cases List.eq_of_mem_replicate ha)
    hsettled
  rw [hentered] at hview hout
  refine ⟨hresting, hview, ?_⟩
  have hsame : some o = some (g.view.effect r).1 := hover.symm.trans (List.cons.inj hout).1
  exact Option.some.inj hsame

theorem Resting.answers (hg : g.Resting bound) (hopened : ∀ p h, r = .bind p h → g.Opened h) :
    ∃ g₁ n g₂ o, g.act? r.action = some g₁ ∧
      g₁.run (List.replicate n (.advance g.nextTicket)) = some g₂ ∧
      g₂.outcome? g.nextTicket = some o := by
  obtain ⟨g₁, hstart⟩ : ∃ g₁, g.act? r.action = some g₁ := by
    cases r with
    | bind p h => exact ⟨_, if_pos (Option.isSome_iff_ne_none.mpr (hopened p h rfl))⟩
    | unbind i connId => exact ⟨_, rfl⟩
  have hg₁ : g₁.Consistent :=
    hg.consistent.act hstart
  obtain ⟨c, i, -, hr, rfl⟩ := call_of_action hstart
  have hlock := IdentityLocks.holds_first (hg.settled.unrequested hg.consistent.locking) g.nextTicket i
  obtain ⟨n, g₂, o, hrun, ho⟩ := hg₁.completes
    ((calls_started g c i g.nextTicket).trans (if_pos rfl)) (.inl ⟨r, hr⟩) fun _ => hlock
  exact ⟨_, n, g₂, o, hstart, hrun, ho⟩

/-! ## Many requests -/

inductive Serially : Gateway → List Request → List Outcome → Gateway → Prop
  | nil (g : Gateway) : Serially g [] [] g
  | cons {g g₁ g₂ g' : Gateway} {r : Request} {rs : List Request} {o : Outcome} {os : List Outcome}
      {n : Nat} (hstart : g.act? r.action = some g₁)
      (halone : g₁.run (List.replicate n (.advance g.nextTicket)) = some g₂)
      (hover : g₂.outcome? g.nextTicket = some o) (hrest : Serially g₂ rs os g') :
      Serially g (r :: rs) (o :: os) g'

theorem Serially.replay {rs : List Request} {os : List Outcome} (h : Serially g rs os g')
    (hg : g.Resting bound) (hbound : ∀ p h, .bind p h ∈ rs → bound h.slot) :
    g'.Resting bound ∧ g'.view = (g.view.replay rs).2 ∧ os = (g.view.replay rs).1 := by
  induction h with
  | nil g => exact ⟨hg, rfl, rfl⟩
  | cons hstart halone hover _ ih =>
    obtain ⟨hg₂, hview, ho⟩ := hg.serve (fun p h he => hbound p h (he ▸ List.mem_cons_self))
      hstart halone hover
    obtain ⟨hg', hview', hos⟩ := ih hg₂ fun p h hb => hbound p h (List.mem_cons_of_mem _ hb)
    rw [View.replay, ← hview, ← ho]
    exact ⟨hg', hview', congrArg _ hos⟩

theorem Resting.serially (hg : g.Resting bound) {rs : List Request}
    (hopened : ∀ p h, .bind p h ∈ rs → g.Opened h ∧ bound h.slot) :
    ∃ os g', Serially g rs os g' := by
  induction rs generalizing g with
  | nil => exact ⟨[], g, .nil g⟩
  | cons r rs ih =>
    obtain ⟨g₁, n, g₂, o, hstart, halone, hover⟩ :=
      hg.answers fun p h he => (hopened p h (he ▸ List.mem_cons_self)).1
    obtain ⟨hg₂, -⟩ := hg.serve (fun p h he => (hopened p h (he ▸ List.mem_cons_self)).2) hstart
      halone hover
    have hgrows := hg.consistent.grows (run_cons_eq_some.mpr ⟨g₁, hstart, halone⟩)
    obtain ⟨os, g', hrest⟩ := ih hg₂ fun p h hb =>
      (hopened p h (List.mem_cons_of_mem _ hb)).imp_left (hgrows.opened h)
    exact ⟨o :: os, g', .cons hstart halone hover hrest⟩

end Gateway
end LocationRelay
