import Mathlib.Data.List.Nodup
import Mathlib.Logic.Function.Basic

/-!
# Writing to a list of places

`scatter` goes through a list of addresses and changes what is stored at each of them; the
change may depend on how many have been written before. At distinct addresses the writes do
not interfere: each one is applied once, to the value that was there at the start.
-/

namespace CoderDesktop.Collections

universe u v w

variable {Address : Type u} {Value : Type v} [DecidableEq Address]

/-- Change the values at the addresses, which are numbered from the position on. -/
def scatter (write : Nat → Value → Value) :
    List Address → Nat → (Address → Value) → Address → Value
  | [], _, memory => memory
  | address :: rest, position, memory =>
      scatter write rest (position + 1)
        (Function.update memory address (write position (memory address)))

variable {write : Nat → Value → Value} {addresses : List Address}

/-- Nothing is written elsewhere. -/
theorem scatter_of_not_mem {address : Address} (absent : address ∉ addresses) (position : Nat)
    (memory : Address → Value) :
    scatter write addresses position memory address = memory address := by
  induction addresses generalizing position memory with
  | nil => rfl
  | cons first rest inductionHypothesis =>
      have other := List.ne_of_not_mem_cons absent
      rw [scatter, inductionHypothesis (List.not_mem_of_not_mem_cons absent),
        Function.update_of_ne other]

/-- Each address is written once. -/
theorem scatter_getElem (distinct : addresses.Nodup) {index : Nat} {address : Address}
    (here : addresses[index]? = some address) (position : Nat) (memory : Address → Value) :
    scatter write addresses position memory address =
      write (position + index) (memory address) := by
  induction addresses generalizing index position memory with
  | nil => cases here
  | cons first rest inductionHypothesis =>
      obtain ⟨fresh, distinctRest⟩ := List.nodup_cons.mp distinct
      cases index with
      | zero =>
          obtain rfl := Option.some.inj here
          rw [scatter, scatter_of_not_mem fresh, Function.update_self, Nat.add_zero]
      | succ index =>
          rw [List.getElem?_cons_succ] at here
          have other : address ≠ first := by
            rintro rfl
            exact fresh (List.mem_of_getElem? here)
          rw [scatter, inductionHypothesis distinctRest here, Function.update_of_ne other,
            Nat.add_assoc, Nat.add_comm 1]

end CoderDesktop.Collections
