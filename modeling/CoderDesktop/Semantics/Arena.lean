import Mathlib.Logic.Function.Basic

/-!
# Objects and pointers to them

An arena holds the objects that were created and not yet destroyed. Addresses are never
used again, so a pointer to a destroyed object points to nothing. Using such a pointer,
or a null pointer, is a fault; the arena records that one has happened.
-/

namespace CoderDesktop.Semantics

universe u

/-- Objects behind pointers that may dangle. -/
structure Arena (Object : Type u) where
  /-- The objects that exist, by address. -/
  cells : Nat → Option Object
  /-- No object was created here or further on yet. -/
  next : Nat
  faulted : Bool

namespace Arena

variable {Object : Type u}

/-- Nothing was created. -/
def empty : Arena Object := ⟨fun _ => none, 0, false⟩

variable (arena : Arena Object)

/-- The object a pointer points to; `none` is the null pointer. -/
def target (pointer : Option Nat) : Option Object := pointer.bind arena.cells

/-- The pointer may be used. -/
def points (pointer : Option Nat) : Bool := (arena.target pointer).isSome

/-- The object gets the next address. -/
def create (object : Object) : Arena Object :=
  { arena with
    cells := Function.update arena.cells arena.next (some object)
    next := arena.next + 1 }

/-- The object is read or written through a pointer. -/
def access (pointer : Option Nat) : Arena Object :=
  { arena with faulted := arena.faulted || !arena.points pointer }

/-- The object goes; a pointer to none is a fault. -/
def destroy (pointer : Option Nat) : Arena Object :=
  { arena with
    cells := fun address => if pointer = some address then none else arena.cells address
    faulted := arena.faulted || !arena.points pointer }

/-- Objects disappear without a pointer to them being used. -/
def discard (gone : Object → Bool) : Arena Object :=
  { arena with cells := fun address => (arena.cells address).filter fun object => !gone object }

/-- Addresses that were not handed out are empty. -/
def Fresh : Prop := ∀ address, arena.next ≤ address → arena.cells address = none

variable {arena}

@[simp] theorem target_none : arena.target none = none := rfl

@[simp] theorem target_some (address : Nat) : arena.target (some address) = arena.cells address :=
  rfl

@[simp] theorem points_none : arena.points none = false := rfl

@[simp] theorem cells_access (pointer : Option Nat) :
    (arena.access pointer).cells = arena.cells := rfl

@[simp] theorem next_access (pointer : Option Nat) :
    (arena.access pointer).next = arena.next := rfl

@[simp] theorem points_access (pointer other : Option Nat) :
    (arena.access pointer).points other = arena.points other := rfl

/-- Using a pointer twice is no worse than once. -/
@[simp] theorem access_access (pointer : Option Nat) :
    (arena.access pointer).access pointer = arena.access pointer := by
  unfold access
  simp only [points, target, Bool.or_assoc, Bool.or_self]

@[simp] theorem next_destroy (pointer : Option Nat) :
    (arena.destroy pointer).next = arena.next := rfl

@[simp] theorem faulted_destroy (pointer : Option Nat) :
    (arena.destroy pointer).faulted = (arena.faulted || !arena.points pointer) := rfl

@[simp] theorem next_create (object : Object) : (arena.create object).next = arena.next + 1 := rfl

@[simp] theorem faulted_create (object : Object) :
    (arena.create object).faulted = arena.faulted := rfl

@[simp] theorem next_discard (gone : Object → Bool) : (arena.discard gone).next = arena.next := rfl

@[simp] theorem faulted_discard (gone : Object → Bool) :
    (arena.discard gone).faulted = arena.faulted := rfl

/-- What is left after a pointer was used to destroy. -/
theorem cells_destroy_eq_some_iff {pointer : Option Nat} {address : Nat} {object : Object} :
    (arena.destroy pointer).cells address = some object ↔
      pointer ≠ some address ∧ arena.cells address = some object := by
  change (if pointer = some address then none else arena.cells address) = some object ↔ _
  by_cases here : pointer = some address
  · rw [if_pos here]
    exact iff_of_false (fun none => by cases none) fun ⟨elsewhere, _⟩ => elsewhere here
  · rw [if_neg here]
    exact ⟨fun kept => ⟨here, kept⟩, And.right⟩

/-- What is there after a creation is new or was there before. -/
theorem cells_create_eq_some_iff {created object : Object} {address : Nat}
    (fresh : arena.Fresh) :
    (arena.create created).cells address = some object ↔
      address = arena.next ∧ created = object ∨ arena.cells address = some object := by
  change Function.update arena.cells arena.next (some created) address = some object ↔ _
  by_cases here : address = arena.next
  · subst here
    rw [Function.update_self, Option.some_inj, fresh _ (Nat.le_refl _)]
    simp
  · rw [Function.update_of_ne here]
    simp [here]

/-- What is there after a discard was there and did not go. -/
theorem cells_discard_eq_some_iff {gone : Object → Bool} {address : Nat} {object : Object} :
    (arena.discard gone).cells address = some object ↔
      arena.cells address = some object ∧ gone object = false := by
  change (arena.cells address).filter (fun object => !gone object) = some object ↔ _
  rw [Option.filter_eq_some_iff, Bool.not_eq_true']

/-! ## Fresh addresses -/

/-- Objects have addresses below the next one. -/
theorem Fresh.lt (fresh : arena.Fresh) {address : Nat} {object : Object}
    (there : arena.cells address = some object) : address < arena.next := by
  by_contra beyond
  rw [fresh address (Nat.le_of_not_lt beyond)] at there
  cases there

/-- Nothing was created at first. -/
theorem fresh_empty : (empty : Arena Object).Fresh := fun _ _ => rfl

/-- An access creates nothing. -/
theorem Fresh.access (fresh : arena.Fresh) (pointer : Option Nat) :
    (arena.access pointer).Fresh := fresh

/-- A creation uses the next address. -/
theorem Fresh.create (fresh : arena.Fresh) (object : Object) : (arena.create object).Fresh := by
  intro address beyond
  have later : arena.next + 1 ≤ address := beyond
  change Function.update arena.cells arena.next (some object) address = none
  rw [Function.update_of_ne (by omega)]
  exact fresh address (by omega)

/-- Addresses are not used again. -/
theorem Fresh.destroy (fresh : arena.Fresh) (pointer : Option Nat) :
    (arena.destroy pointer).Fresh := by
  intro address beyond
  change (if pointer = some address then none else arena.cells address) = none
  rw [fresh address beyond, ite_self]

/-- Addresses are not used again after a discard. -/
theorem Fresh.discard (fresh : arena.Fresh) (gone : Object → Bool) :
    (arena.discard gone).Fresh := by
  intro address beyond
  change (arena.cells address).filter _ = none
  rw [fresh address beyond]
  rfl

end Arena

end CoderDesktop.Semantics
