import LocationRelay.Principal
import LocationRelay.Table

/-! # Identity locks

Work on one identity is serialised by a lock. Locks are made when they are first asked for and are
found through a table from identities; a request refers to the lock that was current when it was made.
Requests stay in the order of their arrival until they are given back, and the oldest request for a
lock is the one that holds it. Pruning removes from the table the locks to which no request refers.
-/
namespace LocationRelay

abbrev Ticket := Nat

structure LockRequest where
  ticket : Ticket
  identity : Identity
  lock : Nat
deriving DecidableEq

structure IdentityLocks where
  current : Table Identity Nat := ∅
  fresh : Nat := 0
  /-- The requests not yet given back, oldest first. -/
  requests : List LockRequest := []

namespace IdentityLocks

def lockOf (ls : IdentityLocks) (i : Identity) : Nat × IdentityLocks :=
  match ls.current.get? i with
  | some lock => (lock, ls)
  | none => (ls.fresh, { ls with current := ls.current.insert i ls.fresh, fresh := ls.fresh + 1 })

def request (ls : IdentityLocks) (t : Ticket) (i : Identity) : IdentityLocks :=
  let (lock, ls) := ls.lockOf i
  { ls with requests := ls.requests ++ [⟨t, i, lock⟩] }

def holder? (ls : IdentityLocks) (lock : Nat) : Option Ticket :=
  (ls.requests.find? fun r => r.lock == lock).map LockRequest.ticket

def holds (ls : IdentityLocks) (t : Ticket) : Bool :=
  ls.requests.any fun r => r.ticket == t && ls.holder? r.lock == some t

/-- Gives back the lock, or the place in the line for it, of a ticket. -/
def giveBack (ls : IdentityLocks) (t : Ticket) : IdentityLocks :=
  { ls with requests := ls.requests.filter fun r => r.ticket ≠ t }

def isReferred (ls : IdentityLocks) (lock : Nat) : Bool := ls.requests.any fun r => r.lock == lock

def prune (ls : IdentityLocks) : IdentityLocks :=
  { ls with current := ls.current.filter fun _ lock => ls.isReferred lock }

def idle (ls : IdentityLocks) : Nat := ls.current.size - ls.prune.current.size

end IdentityLocks
end LocationRelay
