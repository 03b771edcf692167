import LocationRelay.Proofs.Monotone

/-! # Who registered whom

A ledger lists the binds that a run has asked for, with their tickets. Every registered handle was
registered by a bind of the ledger for that identity, which is still at work or has succeeded.
-/
namespace LocationRelay.Gateway

def Action.bound? : Action → Option (Principal × Handle)
  | .bind p h => some (p, h)
  | _ => none

def binds (as : List Action) : List (Principal × Handle) := as.filterMap Action.bound?

def asked (g : Gateway) (a : Action) : List (Ticket × Principal × Handle) :=
  a.bound?.toList.map fun e => (g.nextTicket, e)

theorem binds_append (as bs : List Action) : binds (as ++ bs) = binds as ++ binds bs :=
  List.filterMap_append

/-- If every connection is bound at most once in a run, then so it is in a part of it. -/
theorem nodup_binds_of_append {as bs : List Action}
    (h : ((binds (as ++ bs)).map fun e => e.2.slot).Nodup) :
    ((binds as).map fun e => e.2.slot).Nodup := by
  rw [binds_append, List.map_append] at h
  exact (List.nodup_append.mp h).1

theorem noted_asked {g g' : Gateway} {as : List Action} (hrun : g.run as = some g') :
    (noted asked g as).map Prod.snd = binds as := by
  refine run_induction (P := fun as _ => (noted asked g as).map Prod.snd = binds as) rfl
    (fun as g₁ a g₂ has ih _ => ?_) hrun
  rw [noted_snoc asked has, List.map_append, ih, binds_append]
  cases h : a.bound? <;> simp [asked, binds, h]

theorem mem_binds_of_asked {g g' : Gateway} {as : List Action} (hrun : g.run as = some g')
    {t : Ticket} {e : Principal × Handle} (h : (t, e) ∈ noted asked g as) : e ∈ binds as := by
  rw [← noted_asked hrun]
  exact List.mem_map.mpr ⟨_, h, rfl⟩

/-- The bind has the identity registered or is about to give it back. -/
def Keeps (g : Gateway) (t : Ticket) (p : Principal) (h : Handle) : Prop :=
  (∃ stage, g.calls.get? t = some (.bind p h stage) ∧ stage ≠ .waiting) ∨
    g.calls.get? t = some (.done (.bound (.ok p.identity)))

structure Ledger (g : Gateway) (log : List (Ticket × Principal × Handle)) : Prop where
  calls : ∀ t p h stage, g.calls.get? t = some (.bind p h stage) → (t, p, h) ∈ log
  registered : ∀ i h, g.registry.get? i = some h →
    ∃ t p, (t, p, h) ∈ log ∧ p.identity = i ∧ g.Keeps t p h

variable {log : List (Ticket × Principal × Handle)}

theorem Ledger.calm {g g' : Gateway} (hl : g.Ledger log) (hcalls : g'.calls = g.calls)
    (hreg : ∀ i h, g'.registry.get? i = some h → g.registry.get? i = some h) : g'.Ledger log where
  calls t p h stage ht := hl.calls t p h stage (hcalls ▸ ht)
  registered i h hi := by
    unfold Keeps
    rw [hcalls]
    exact hl.registered i h (hreg i h hi)

theorem Ledger.mono {g : Gateway} {log' : List (Ticket × Principal × Handle)} (hl : g.Ledger log)
    (hsub : log ⊆ log') : g.Ledger log' where
  calls t p h stage ht := hsub (hl.calls t p h stage ht)
  registered i h hi := by
    obtain ⟨t, p, ht, hp⟩ := hl.registered i h hi
    exact ⟨t, p, hsub ht, hp⟩

/-- A bind that is over while its connection is registered has succeeded. -/
theorem Consistent.succeeded {g g' : Gateway} (hg : g.Consistent) {t : Ticket} {p : Principal}
    {h : Handle} {stage : BindStage} (ht : g.calls.get? t = some (.bind p h stage))
    (hstage : stage ≠ .waiting) (hs : BindStep g t p h stage g') {o : Outcome}
    (ho : g'.calls.get? t = some (.done o)) (hi : g'.registry.get? p.identity = some h) :
    o = .bound (.ok p.identity) := by
  have hreg := ((hg.each p.identity).busy t _ ht (Call.section_bind hstage)).1
  have habandoned : ∀ reason e, (g.abandonBind t p h reason e).registry.get? p.identity = none := by
    intro reason e
    have hclose := (ConnectionsOnly.close (g.unregistered p.identity) h reason).rest
    rw [abandonBind_eq hreg, finish, hclose]
    exact (Table.get?_erase _ _ _).trans (if_pos rfl)
  have hset : ∀ {g₁ : Gateway} {d : Call}, (g₁.setCall t d).calls.get? t = some (.done o) →
      d = .done o := by
    intro g₁ d hd
    rw [calls_setCall, if_pos rfl] at hd
    exact Option.some.inj hd
  cases hs with
  | refused _ _ => exact absurd rfl hstage
  | succeeds s _ =>
    rw [calls_finish, if_pos rfl] at ho
    cases ho
    rfl
  | fails e => cases (habandoned _ _).symm.trans hi
  | gaveUp => cases (habandoned _ _).symm.trans hi
  | _ => cases hset ho

theorem Ledger.callStep {g g' : Gateway} (hl : g.Ledger log) (hg : g.Consistent) {t : Ticket}
    {c : Call} (ht : g.calls.get? t = some c) (hs : CallStep g t c g') : g'.Ledger log := by
  obtain ⟨d, hd, -, hfollows⟩ := hs.moves.calls
  have hat : g'.calls.get? t = some d := (hd t).trans (if_pos rfl)
  refine ⟨fun u p h stage hu => ?_, fun i h hi => ?_⟩
  · rw [hd] at hu
    split at hu
    · next hut =>
      cases hu
      rcases hfollows with hf | ⟨o, ho⟩
      · cases hf with
        | bind _ => exact hut ▸ hl.calls t p h _ ht
      · cases ho
    · exact hl.calls u p h stage hu
  · rcases hs.registry hi with hold | ⟨p, stage, rfl, rfl, hnew, hne⟩
    · obtain ⟨u, p, hu, rfl, hkeeps⟩ := hl.registered i h hold
      refine ⟨u, p, hu, rfl, ?_⟩
      by_cases hut : u = t
      · -- The call that goes on is the one that has registered the connection.
        subst hut
        rcases hkeeps with ⟨stage, hst, hne⟩ | hdone
        · cases ht.symm.trans hst
          rcases hfollows with hf | ⟨o, rfl⟩
          · cases hf with
            | bind hne' => exact .inl ⟨_, hat, hne'⟩
          · cases hs with
            | bind hs =>
              cases hg.succeeded ht hne hs hat hi
              exact .inr hat
        · cases ht.symm.trans hdone
          cases hs
      · unfold Keeps
        rw [hd, if_neg hut]
        exact hkeeps
    · exact ⟨t, p, hl.calls t p h _ ht, rfl, .inl ⟨stage, hnew, hne⟩⟩

theorem ledger_fresh (exchange : String) (refusing : Bool) :
    Ledger { exchange, broker := { refusing } } [] where
  calls t p h stage ht := by cases ht
  registered i h hi := by cases hi

/-- A new call is written down when it is a bind. -/
theorem Ledger.start {g : Gateway} (hl : g.Ledger log) (hg : g.Locking) {c : Call} {log' : List _}
    (hsub : log ⊆ log') (hc : ∀ p h stage, c = .bind p h stage → (g.nextTicket, p, h) ∈ log') :
    (g.start c).2.Ledger log' where
  calls u p h stage hu := by
    rw [calls_start] at hu
    split at hu
    · next hut =>
      cases hu
      exact hut ▸ hc p h stage rfl
    · exact hsub (hl.calls u p h stage hu)
  registered i h hi := by
    obtain ⟨u, p, hu, hp, hkeeps⟩ := hl.registered i h hi
    refine ⟨u, p, hsub hu, hp, ?_⟩
    rcases hkeeps with ⟨stage, hst, hne⟩ | hdone
    · exact .inl ⟨stage, hg.start_keeps c hst, hne⟩
    · exact .inr (hg.start_keeps c hdone)

theorem Ledger.act {g g' : Gateway} {a : Action} (hl : g.Ledger log) (hg : g.Consistent)
    (ha : g.act? a = some g') : g'.Ledger (log ++ asked g a) := by
  cases a with
  | bind p h =>
    obtain ⟨-, ha⟩ := Option.ite_none_right_eq_some.mp ha
    cases ha
    have hstart : (g.start (.bind p h .waiting)).2.Ledger (log ++ asked g (.bind p h)) := by
      refine hl.start hg.locking (List.subset_append_left log _) ?_
      rintro _ _ _ ⟨⟩
      exact List.mem_append_right _ List.mem_cons_self
    exact hstart.calm rfl fun _ _ hi => hi
  | unbind i connId =>
    cases ha
    have hstart : (g.start (.unbind i connId .waiting)).2.Ledger (log ++ asked g (.unbind i connId)) :=
      hl.start hg.locking (List.subset_append_left log _) fun _ _ _ => by rintro ⟨⟩
    exact hstart.calm rfl fun _ _ hi => hi
  | shutdown =>
    cases ha
    exact hl.start hg.locking (List.subset_append_left log _) fun _ _ _ => by rintro ⟨⟩
  | advance t =>
    obtain ⟨c, hc, hs⟩ := callStep_of_step ha (hg.locking.isPublic t)
    exact (hl.callStep hg hc hs).mono (List.subset_append_left log _)
  | _ =>
    have haside := aside_of_act ha rfl
    exact (hl.calm haside.calls fun _ _ hi => haside.registry hi).mono
      (List.subset_append_left log _)

theorem ledger_of_run {exchange : String} {refusing : Bool} {as : List Action} {g : Gateway}
    (hrun : run { exchange, broker := { refusing } } as = some g) :
    g.Ledger (noted asked { exchange, broker := { refusing } } as) := by
  refine run_induction (P := fun as g => g.Ledger
    (noted asked { exchange, broker := { refusing } } as)) (ledger_fresh exchange refusing)
    (fun as g₁ a g₂ has ih ha => ?_) hrun
  rw [noted_snoc asked has]
  exact ih.act ((consistent_fresh exchange refusing).run has) ha

end LocationRelay.Gateway
