import LocationRelay.Proofs.Connections
import LocationRelay.Proofs.Locks

/-! # One call at a time works on an identity

From the moment a call goes on with the lock of an identity until it is over, it is the only one to do
so for that identity. This is so in every state of every run, whatever else is pruned, swept or deleted
in the meantime.
-/
namespace LocationRelay

/-- The identity whose lock a call has asked for and not yet given back. -/
def Call.wanted? : Call → Option Identity
  | .bind p _ _ => some p.identity
  | .unbind i _ _ => some i
  | .lock i => some i
  | _ => none

def Call.section? : Call → Option Identity
  | .bind _ _ .waiting | .unbind _ _ .waiting => none
  | .bind p _ _ => some p.identity
  | .unbind i _ _ => some i
  | _ => none

theorem Call.wanted_of_section {c : Call} {i : Identity} (h : c.section? = some i) :
    c.wanted? = some i := by
  cases c with
  | bind p k stage => cases stage <;> cases h <;> rfl
  | unbind j connId stage => cases stage <;> cases h <;> rfl
  | _ => cases h

theorem Call.section_bind {p : Principal} {h : Handle} {stage : BindStage} (hne : stage ≠ .waiting) :
    (Call.bind p h stage).section? = some p.identity := by
  cases stage <;> first | rfl | exact absurd rfl hne

theorem Call.section_unbind {i : Identity} {connId : Nat} {stage : UnbindStage}
    (hne : stage ≠ .waiting) : (Call.unbind i connId stage).section? = some i := by
  cases stage <;> first | rfl | exact absurd rfl hne

theorem Call.isWaiting_bind {p : Principal} {h : Handle} {stage : BindStage} (hne : stage ≠ .waiting) :
    (Call.bind p h stage).isWaiting = false := by
  cases stage <;> first | rfl | exact absurd rfl hne

namespace Gateway

/-- Every request for a lock is that of a call in progress, every such call has its request, and calls
that have gone on with a lock have been granted it. -/
structure Locking (g : Gateway) : Prop where
  sound : g.locks.Sound
  tickets : ∀ t c, g.calls.get? t = some c → t < g.nextTicket
  asked : ∀ r ∈ g.locks.requests, ∃ c, g.calls.get? r.ticket = some c ∧ c.wanted? = some r.identity
  asks : ∀ t c i, g.calls.get? t = some c → c.wanted? = some i →
    ∃ r ∈ g.locks.requests, r.ticket = t
  held : ∀ t c i, g.calls.get? t = some c → c.section? = some i → g.locks.Granted t i
  isPublic : ∀ t c, g.calls.get? t = some c → c.isPublic = true

/-- Two calls that work on one identity are the same call. -/
theorem Locking.section_unique {g : Gateway} (hg : g.Locking) {t u : Ticket} {c d : Call}
    {i : Identity} (ht : g.calls.get? t = some c) (hu : g.calls.get? u = some d)
    (hc : c.section? = some i) (hd : d.section? = some i) : t = u :=
  hg.sound.granted_unique (hg.held t c i ht hc) (hg.held u d i hu hd)

/-- What a call waits for when it holds a lock is the lock it holds. -/
theorem Locking.granted_of_holds {g : Gateway} (hg : g.Locking) {t : Ticket} {c : Call}
    {i : Identity} (ht : g.calls.get? t = some c) (hc : c.wanted? = some i)
    (hholds : g.locks.holds t = true) : g.locks.Granted t i := by
  obtain ⟨j, r, hr, hrt, hrj, hl⟩ := IdentityLocks.holds_iff.mp hholds
  obtain ⟨d, hd, hdw⟩ := hg.asked r hr
  rw [hrt, ht] at hd
  cases hd
  rw [hc] at hdw
  exact ⟨r, hr, hrt, (Option.some.inj hdw).symm, hl⟩

theorem calls_setCall (g : Gateway) (t : Ticket) (d : Call) (u : Ticket) :
    (g.setCall t d).calls.get? u = if u = t then some d else g.calls.get? u :=
  Table.get?_insert _ _ _ _

theorem calls_finish (g : Gateway) (t : Ticket) (o : Outcome) (u : Ticket) :
    (g.finish t o).calls.get? u = if u = t then some (.done o) else g.calls.get? u :=
  Table.get?_insert _ _ _ _

theorem calls_start (g : Gateway) (c : Call) (u : Ticket) :
    (g.start c).2.calls.get? u = if u = g.nextTicket then some c else g.calls.get? u :=
  Table.get?_insert _ _ _ _

/-- A new call takes the place of no other. -/
theorem Locking.start_keeps {g : Gateway} (hg : g.Locking) (c : Call) {u : Ticket} {d : Call}
    (hu : g.calls.get? u = some d) : (g.start c).2.calls.get? u = some d := by
  rw [calls_start, if_neg (Nat.ne_of_lt (hg.tickets u d hu))]
  exact hu

theorem outcome_of_done {g : Gateway} {t : Ticket} {o : Outcome}
    (h : g.calls.get? t = some (.done o)) : g.outcome? t = some o := by
  rw [outcome?, h]

theorem done_of_outcome {g : Gateway} {t : Ticket} {o : Outcome} (h : g.outcome? t = some o) :
    g.calls.get? t = some (.done o) := by
  unfold outcome? at h
  split at h
  · next hc =>
    cases h
    exact hc
  · cases h

def Settled (g : Gateway) : Prop := ∀ t c, g.calls.get? t = some c → ∃ o, c = .done o

theorem settled_of_entries {g : Gateway} (h : ∀ e ∈ g.calls.entries, ∃ o, e.2 = .done o) :
    g.Settled :=
  fun t c ht => h (t, c) ((Table.mem_entries_iff _).mpr ht)

/-! ## What leaves the calls alone -/

structure SameCalls (g g' : Gateway) : Prop where
  calls : g'.calls = g.calls
  locks : g'.locks = g.locks
  nextTicket : g'.nextTicket = g.nextTicket

namespace SameCalls

theorem refl (g : Gateway) : g.SameCalls g := ⟨rfl, rfl, rfl⟩

theorem trans {g₁ g₂ g₃ : Gateway} (h : g₁.SameCalls g₂) (h' : g₂.SameCalls g₃) :
    g₁.SameCalls g₃ :=
  ⟨h'.calls.trans h.calls, h'.locks.trans h.locks, h'.nextTicket.trans h.nextTicket⟩

theorem registered (g : Gateway) (i : Identity) (h : Handle) : g.SameCalls (g.registered i h) := by
  unfold Gateway.registered
  split <;> exact ⟨rfl, rfl, rfl⟩

theorem release (g : Gateway) (i : Identity) (connId : Nat) :
    g.SameCalls (g.release i connId).2 := by
  unfold Gateway.release
  split <;> exact ⟨rfl, rfl, rfl⟩

theorem detached (g : Gateway) (i : Identity) (c : Consumer) : g.SameCalls (g.detached i c) :=
  ⟨rfl, rfl, rfl⟩

theorem deleteQueue (g : Gateway) (q : String) : g.SameCalls (g.deleteQueue q) := ⟨rfl, rfl, rfl⟩

theorem declare (g : Gateway) (x : Binding) : g.SameCalls (g.declare x).2 := ⟨rfl, rfl, rfl⟩

theorem attach (g : Gateway) (i : Identity) (x : Binding) (s : StreamId) :
    g.SameCalls (g.attach i x s) := ⟨rfl, rfl, rfl⟩

end SameCalls

theorem ConnectionsOnly.sameCalls {g g' : Gateway} (h : g.ConnectionsOnly g') : g.SameCalls g' :=
  ⟨by rw [h.rest], by rw [h.rest], by rw [h.rest]⟩

theorem SameCalls.flagged (g : Gateway) : g.SameCalls g.flagged := by
  have hflag : g.SameCalls { g with shuttingDown := true } := ⟨rfl, rfl, rfl⟩
  exact hflag.trans (connectionsOnly_flagged g).sameCalls

theorem SameCalls.relayStep {g g' : Gateway} {s : StreamId} {r : Relay} (h : RelayStep g s r g') :
    g.SameCalls g' := by
  cases h with
  | @delivers d b _ =>
    have hforward :=
      (ConnectionsOnly.forward { g with broker := b } r.identity d.payload).sameCalls
    exact ⟨hforward.calls, hforward.locks, hforward.nextTicket⟩
  | loses _ =>
    have hdropped : g.SameCalls (g.unrelayed s) := ⟨rfl, rfl, rfl⟩
    exact hdropped.trans (ConnectionsOnly.loseSubscription g s r).sameCalls

theorem Aside.calls {g g' : Gateway} (h : Aside g g') : g'.calls = g.calls := by
  cases h with
  | visits h => exact h.sameCalls.calls
  | prunes h => exact h.sameCalls.calls
  | connects connId capacity => rfl
  | relays _ hs => exact (SameCalls.relayStep hs).calls
  | brokers _ => rfl

/-! ## Preservation -/

theorem Locking.sameCalls {g g' : Gateway} (hg : g.Locking) (h : g.SameCalls g') : g'.Locking where
  sound := h.locks ▸ hg.sound
  tickets := by rw [h.calls, h.nextTicket]; exact hg.tickets
  asked := by rw [h.calls, h.locks]; exact hg.asked
  asks := by rw [h.calls, h.locks]; exact hg.asks
  held := by rw [h.calls, h.locks]; exact hg.held
  isPublic := by rw [h.calls]; exact hg.isPublic

theorem Locking.prune {g : Gateway} (hg : g.Locking) : g.prune.Locking where
  sound := hg.sound.prune
  tickets := hg.tickets
  asked := hg.asked
  asks := hg.asks
  held := hg.held
  isPublic := hg.isPublic

theorem Locking.setCall {g : Gateway} (hg : g.Locking) {t : Ticket} {c d : Call}
    (ht : g.calls.get? t = some c) (hwanted : d.wanted? = c.wanted?) (hpub : d.isPublic = true)
    (hheld : ∀ i, d.section? = some i → g.locks.Granted t i) : (g.setCall t d).Locking where
  sound := hg.sound
  tickets u e hu := by
    simp only [Gateway.setCall, Table.get?_insert] at hu
    split at hu
    · next he => exact he ▸ hg.tickets t c ht
    · exact hg.tickets u e hu
  asked r hr := by
    obtain ⟨e, he, hw⟩ := hg.asked r hr
    simp only [Gateway.setCall, Table.get?_insert]
    split
    · next hrt =>
      rw [hrt, ht] at he
      cases he
      exact ⟨d, rfl, hwanted.trans hw⟩
    · exact ⟨e, he, hw⟩
  asks u e i hu hw := by
    simp only [Gateway.setCall, Table.get?_insert] at hu
    split at hu
    · next he =>
      cases hu
      exact he ▸ hg.asks t c i ht (hwanted ▸ hw)
    · exact hg.asks u e i hu hw
  held u e i hu hs := by
    simp only [Gateway.setCall, Table.get?_insert] at hu
    split at hu
    · next he =>
      cases hu
      exact he ▸ hheld i hs
    · exact hg.held u e i hu hs
  isPublic u e hu := by
    simp only [Gateway.setCall, Table.get?_insert] at hu
    split at hu
    · cases hu
      exact hpub
    · exact hg.isPublic u e hu

theorem Locking.finish {g : Gateway} (hg : g.Locking) {t : Ticket} {c : Call}
    (ht : g.calls.get? t = some c) (o : Outcome) : (g.finish t o).Locking where
  sound := hg.sound.giveBack t
  tickets u e hu := by
    simp only [Gateway.finish, Table.get?_insert] at hu
    split at hu
    · next he => exact he ▸ hg.tickets t c ht
    · exact hg.tickets u e hu
  asked r hr := by
    obtain ⟨hr, hrt⟩ := List.mem_filter.mp hr
    simp only [Gateway.finish, Table.get?_insert, if_neg (of_decide_eq_true hrt)]
    exact hg.asked r hr
  asks u e i hu hw := by
    simp only [Gateway.finish, Table.get?_insert] at hu
    split at hu
    · cases hu
      cases hw
    · next hne =>
      obtain ⟨r, hr, hru⟩ := hg.asks u e i hu hw
      exact ⟨r, List.mem_filter.mpr ⟨hr, by simpa [hru] using hne⟩, hru⟩
  held u e i hu hs := by
    simp only [Gateway.finish, Table.get?_insert] at hu
    split at hu
    · cases hu
      cases hs
    · next hne => exact (hg.held u e i hu hs).giveBack hne
  isPublic u e hu := by
    simp only [Gateway.finish, Table.get?_insert] at hu
    split at hu
    · cases hu
      rfl
    · exact hg.isPublic u e hu

theorem start_calls {g : Gateway} {c e : Call} {u : Ticket}
    (hu : (g.start c).2.calls.get? u = some e) : (u = g.nextTicket ∧ e = c) ∨ g.calls.get? u = some e := by
  rw [calls_start] at hu
  split at hu
  · next he =>
    cases hu
    exact .inl ⟨he, rfl⟩
  · exact .inr hu

/-- A new call has a ticket that no request for a lock bears. -/
theorem Locking.unasked {g : Gateway} (hg : g.Locking) :
    ∀ r ∈ g.locks.requests, r.ticket ≠ g.nextTicket := by
  intro r hr he
  obtain ⟨d, hd, -⟩ := hg.asked r hr
  exact absurd (hg.tickets _ d hd) (he ▸ Nat.lt_irrefl _)

theorem Locking.start_tickets {g : Gateway} (hg : g.Locking) (c : Call) (u : Ticket) (e : Call)
    (hu : (g.start c).2.calls.get? u = some e) : u < (g.start c).2.nextTicket := by
  rcases start_calls hu with ⟨rfl, -⟩ | hu
  · exact Nat.lt_succ_self _
  · exact Nat.lt_succ_of_lt (hg.tickets u e hu)

theorem Locking.start_asked {g : Gateway} (hg : g.Locking) (c : Call) :
    ∀ r ∈ g.locks.requests, ∃ d, (g.start c).2.calls.get? r.ticket = some d ∧
      d.wanted? = some r.identity := by
  intro r hr
  obtain ⟨d, hd, hw⟩ := hg.asked r hr
  exact ⟨d, hg.start_keeps c hd, hw⟩

theorem Locking.start_held {g : Gateway} (hg : g.Locking) {c : Call} (hsection : c.section? = none)
    {u : Ticket} {e : Call} {i : Identity} (hu : (g.start c).2.calls.get? u = some e)
    (hs : e.section? = some i) : g.locks.Granted u i := by
  rcases start_calls hu with ⟨-, rfl⟩ | hu
  · rw [hsection] at hs
    cases hs
  · exact hg.held u e i hu hs

theorem Locking.start_isPublic {g : Gateway} (hg : g.Locking) {c : Call} (hpub : c.isPublic = true)
    (u : Ticket) (e : Call) (hu : (g.start c).2.calls.get? u = some e) : e.isPublic = true := by
  rcases start_calls hu with ⟨-, rfl⟩ | hu
  · exact hpub
  · exact hg.isPublic u e hu

/-- A new call that asks for a lock stands last in the line for it. -/
theorem Locking.startAsking {g : Gateway} (hg : g.Locking) {c : Call} {i : Identity}
    (hsection : c.section? = none) (hpub : c.isPublic = true) (hwant : c.wanted? = some i) :
    ((g.start c).2.askLock (g.start c).1 i).Locking where
  sound := hg.sound.request i hg.unasked
  tickets := hg.start_tickets c
  asked r hr := by
    simp only [askLock, IdentityLocks.requests_request] at hr
    rcases List.mem_append.mp hr with hr | hr
    · exact hg.start_asked c r hr
    · rw [List.mem_singleton.mp hr]
      exact ⟨c, (calls_start g c _).trans (if_pos rfl), hwant⟩
  asks u e j hu hw := by
    simp only [askLock, IdentityLocks.requests_request]
    rcases start_calls hu with ⟨rfl, -⟩ | hu
    · exact ⟨_, List.mem_append_right _ List.mem_cons_self, rfl⟩
    · obtain ⟨r, hr, hru⟩ := hg.asks u e j hu hw
      exact ⟨r, List.mem_append_left _ hr, hru⟩
  held u e j hu hs := (hg.start_held hsection hu hs).request
  isPublic := hg.start_isPublic hpub

theorem Locking.startFree {g : Gateway} (hg : g.Locking) {c : Call} (hsection : c.section? = none)
    (hpub : c.isPublic = true) (hwant : c.wanted? = none) : (g.start c).2.Locking where
  sound := hg.sound
  tickets := hg.start_tickets c
  asked := hg.start_asked c
  asks u e j hu hw := by
    rcases start_calls hu with ⟨-, rfl⟩ | hu
    · rw [hwant] at hw
      cases hw
    · exact hg.asks u e j hu hw
  held u e j hu hs := hg.start_held hsection hu hs
  isPublic := hg.start_isPublic hpub

/-! ## Calls that go on -/

/-- What a call that goes on may turn into: it stays a call of its kind and does not wait again. -/
inductive Follows : Call → Call → Prop
  | bind {p : Principal} {h : Handle} {stage stage' : BindStage} (hne : stage' ≠ .waiting) :
      Follows (.bind p h stage) (.bind p h stage')
  | unbind {i : Identity} {connId : Nat} {stage stage' : UnbindStage} (hne : stage' ≠ .waiting) :
      Follows (.unbind i connId stage) (.unbind i connId stage')
  | shutdown {stage stage' : ShutdownStage} (hne : stage' ≠ .starting) :
      Follows (.shutdown stage) (.shutdown stage')

inductive Ends : Call → Outcome → Prop
  | bind {p : Principal} {h : Handle} {stage : BindStage} (answer : Except BrokerError Identity) :
      Ends (.bind p h stage) (.bound answer)
  | unbind {i : Identity} {connId : Nat} {stage : UnbindStage} (current : Bool) :
      Ends (.unbind i connId stage) (.unbound current)
  | shutdown {stage : ShutdownStage} : Ends (.shutdown stage) .shutDown

theorem Follows.wanted {c d : Call} (h : Follows c d) : d.wanted? = c.wanted? := by
  cases h <;> rfl

theorem Follows.isPublic {c d : Call} (h : Follows c d) : d.isPublic = true := by
  cases h <;> rfl

theorem Follows.isWaiting {c d : Call} (h : Follows c d) : d.isWaiting = false := by
  cases h with
  | bind hne => exact Call.isWaiting_bind hne
  | @unbind i connId _ stage hne => cases stage <;> first | rfl | exact absurd rfl hne
  | shutdown _ => rfl

/-- A step of a call leaves the calls alone until it sets its own, whose lock it gives back when it is
over. -/
inductive Moves (g : Gateway) (t : Ticket) (c : Call) : Gateway → Prop
  | on {g₁ : Gateway} {d : Call} (hsame : g.SameCalls g₁) (hd : Follows c d) :
      Moves g t c (g₁.setCall t d)
  | out {g₁ : Gateway} {o : Outcome} (hsame : g.SameCalls g₁) (ho : Ends c o) :
      Moves g t c (g₁.finish t o)

/-- A step of a call changes that call only, which does not wait afterwards. -/
theorem Moves.calls {g g' : Gateway} {t : Ticket} {c : Call} (hm : Moves g t c g') :
    ∃ d, (∀ u, g'.calls.get? u = if u = t then some d else g.calls.get? u) ∧ d.isWaiting = false ∧
      (Follows c d ∨ ∃ o, d = .done o) := by
  cases hm with
  | @on g₁ d hsame hd =>
    refine ⟨d, fun u => ?_, hd.isWaiting, .inl hd⟩
    rw [calls_setCall, hsame.calls]
  | @out g₁ o hsame _ =>
    refine ⟨.done o, fun u => ?_, rfl, .inr ⟨o, rfl⟩⟩
    rw [calls_finish, hsame.calls]

theorem BindStep.moves {g g' : Gateway} {t : Ticket} {p : Principal} {h : Handle}
    {stage : BindStage} (hs : BindStep g t p h stage g') : Moves g t (.bind p h stage) g' := by
  have hregistered := SameCalls.registered g p.identity h
  have habandon : ∀ reason e, Moves g t (.bind p h stage) (g.abandonBind t p h reason e) := by
    intro reason e
    have hclose := ConnectionsOnly.close (g.release p.identity h.connId).2 h reason
    exact .out ((SameCalls.release g p.identity h.connId).trans hclose.sameCalls) (.bind _)
  cases hs with
  | refused _ _ => exact .out (ConnectionsOnly.close g h .shutdown).sameCalls (.bind _)
  | evicts _ _ _ _ => exact .on (hregistered.trans (.detached _ _ _)) (.bind (by rintro ⟨⟩))
  | clears _ _ _ _ => exact .on (hregistered.trans (.detached _ _ _)) (.bind (by rintro ⟨⟩))
  | enters _ _ _ => exact .on hregistered (.bind (by rintro ⟨⟩))
  | evicted x => exact .on (.deleteQueue g _) (.bind (by rintro ⟨⟩))
  | looks _ => exact .on (.refl g) (.bind (by rintro ⟨⟩))
  | finds _ => exact .on (.detached g _ _) (.bind (by rintro ⟨⟩))
  | cleared x => exact .on (.deleteQueue g _) (.bind (by rintro ⟨⟩))
  | declares => exact .on (.declare g _) (.bind (by rintro ⟨⟩))
  | fails e => exact habandon _ _
  | succeeds s _ => exact .out (.attach g _ _ s) (.bind _)
  | retracts s _ =>
    exact .on ((SameCalls.attach g _ _ s).trans (.detached _ _ _)) (.bind (by rintro ⟨⟩))
  | retracted x => exact .on (.deleteQueue g _) (.bind (by rintro ⟨⟩))
  | gaveUp => exact habandon _ _

theorem UnbindStep.moves {g g' : Gateway} {t : Ticket} {i : Identity} {connId : Nat}
    {stage : UnbindStage} (hs : UnbindStep g t i connId stage g') :
    Moves g t (.unbind i connId stage) g' := by
  have hgone : g.SameCalls (g.unregistered i) := ⟨rfl, rfl, rfl⟩
  cases hs with
  | stale _ _ => exact .out (.refl g) (.unbind _)
  | releases _ _ _ => exact .on (hgone.trans (.detached _ _ _)) (.unbind (by rintro ⟨⟩))
  | forgets _ _ _ => exact .out hgone (.unbind _)
  | deletes x => exact .on (.deleteQueue g _) (.unbind (by rintro ⟨⟩))
  | ends => exact .out (.refl g) (.unbind _)

theorem ShutdownStep.moves {g g' : Gateway} {t : Ticket} {stage : ShutdownStage}
    (hs : ShutdownStep g t stage g') : Moves g t (.shutdown stage) g' := by
  have hstop : ∀ {g₁ : Gateway} {is : List Identity}, g.SameCalls g₁ → StopStep g₁ t is g' →
      Moves g t (.shutdown stage) g' := by
    intro g₁ is hsame hs
    cases hs with
    | none_left _ _ => exact .on hsame (.shutdown (by rintro ⟨⟩))
    | stops _ _ _ _ => exact .on (hsame.trans (.detached g₁ _ _)) (.shutdown (by rintro ⟨⟩))
  cases hs with
  | again _ => exact .out (.refl g) .shutdown
  | begins _ hs => exact hstop (.flagged g) hs
  | goesOn is hs => exact hstop (.refl g) hs
  | deletes x is => exact .on (.deleteQueue g _) (.shutdown (by rintro ⟨⟩))
  | disconnects => exact .out ⟨rfl, rfl, rfl⟩ .shutdown

theorem CallStep.moves {g g' : Gateway} {t : Ticket} {c : Call} (hs : CallStep g t c g') :
    Moves g t c g' := by
  cases hs with
  | bind hs => exact hs.moves
  | unbind hs => exact hs.moves
  | shutdown hs => exact hs.moves

/-- A call that goes on either works under its lock already or has just got it. -/
theorem CallStep.section_or_holds {g g' : Gateway} {t : Ticket} {c : Call} (hs : CallStep g t c g') :
    c.section? = c.wanted? ∨ g.locks.holds t = true := by
  cases hs with
  | bind hs => cases hs <;> first | exact .inl rfl | exact .inr ‹_›
  | unbind hs => cases hs <;> first | exact .inl rfl | exact .inr ‹_›
  | shutdown _ => exact .inl rfl

theorem Locking.callStep {g g' : Gateway} (hg : g.Locking) {t : Ticket} {c : Call}
    (ht : g.calls.get? t = some c) (hs : CallStep g t c g') : g'.Locking := by
  cases hs.moves with
  | on hsame hd =>
    refine (hg.sameCalls hsame).setCall (hsame.calls ▸ ht) hd.wanted hd.isPublic fun i hi => ?_
    have hwanted := hd.wanted.symm.trans (Call.wanted_of_section hi)
    rw [hsame.locks]
    rcases hs.section_or_holds with hsec | hholds
    · exact hg.held t c i ht (hsec.trans hwanted)
    · exact hg.granted_of_holds ht hwanted hholds
  | out hsame _ => exact (hg.sameCalls hsame).finish (hsame.calls ▸ ht) _

theorem locking_fresh (exchange : String) (refusing : Bool) :
    Locking { exchange, broker := { refusing } } where
  sound := IdentityLocks.sound_empty
  tickets t c h := by cases h
  asked r hr := by cases hr
  asks t c i h := by cases h
  held t c i h := by cases h
  isPublic t c h := by cases h

theorem Locking.happening {g g' : Gateway} (hg : g.Locking) (h : g.Happening g') :
    g'.Locking := by
  cases h with
  | aside h =>
    cases h with
    | visits h => exact hg.sameCalls h.sameCalls
    | prunes h => exact (hg.sameCalls h.sameCalls).prune
    | connects connId capacity => exact hg.sameCalls ⟨rfl, rfl, rfl⟩
    | relays _ hs => exact hg.sameCalls (.relayStep hs)
    | brokers _ => exact hg.sameCalls ⟨rfl, rfl, rfl⟩
  | asks hc => cases hc <;> exact hg.startAsking rfl rfl rfl
  | startsShutdown => exact hg.startFree rfl rfl rfl
  | goesOn ht hs => exact hg.callStep ht hs

end Gateway
end LocationRelay
