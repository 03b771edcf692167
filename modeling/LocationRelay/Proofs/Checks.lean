import Mathlib.Data.Option.Basic

/-! # Checks and defaults

Checks follow one another, and the first that fails is the answer. A chain gives a value when each of its
checks does, and otherwise the fault of the first check that does not. What may be there and has a default
satisfies what both of them satisfy.
-/
namespace Option

variable {α : Type} {P : α → Prop}

theorem forall_getD {o : Option α} (h : ∀ a ∈ o, P a) {default : α} (hdefault : P default) :
    P (o.getD default) := by
  cases o with
  | none => exact hdefault
  | some a => exact h a rfl

theorem forall_mem_or {o o' : Option α} (h : ∀ a ∈ o, P a) (h' : ∀ a ∈ o', P a) : ∀ a ∈ o.or o', P a := by
  cases o with
  | none => exact h'
  | some a => exact h

end Option

namespace Except

variable {ε ε' α β : Type} {x : Except ε α} {f : α → Except ε β} {g : ε → ε'}

theorem bind_eq_ok {b : β} : x.bind f = .ok b ↔ ∃ a, x = .ok a ∧ f a = .ok b := by
  cases x <;> simp [Except.bind]

theorem bind_eq_error {e : ε} :
    x.bind f = .error e ↔ x = .error e ∨ ∃ a, x = .ok a ∧ f a = .error e := by
  cases x <;> simp [Except.bind]

theorem mapError_eq_ok {a : α} : x.mapError g = .ok a ↔ x = .ok a := by
  cases x <;> simp [Except.mapError]

theorem mapError_eq_error {e : ε'} : x.mapError g = .error e ↔ ∃ d, x = .error d ∧ g d = e := by
  cases x <;> simp [Except.mapError]

end Except
