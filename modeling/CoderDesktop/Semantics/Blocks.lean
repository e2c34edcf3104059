import Mathlib.Data.List.Nodup
import CoderDesktop.Semantics.Arena

/-!
# The blocks of an arena

An arena holds a list of blocks if these are its objects and nothing has gone wrong. The
operations add a block, take one out or change one; the order of the list means nothing.
An arena that holds no block has had every object destroyed, none of them twice.
-/

namespace CoderDesktop.Semantics

universe u

namespace Arena

variable {Object : Type u}

/-- The object is overwritten through a pointer. -/
def write (arena : Arena Object) (pointer : Option Nat) (object : Object) : Arena Object :=
  { arena with
    cells := fun address =>
      if pointer = some address then (arena.cells address).map fun _ => object
      else arena.cells address
    faulted := arena.faulted || !arena.points pointer }

/-- The arena consists of the blocks, and no pointer was misused. -/
structure Holds (arena : Arena Object) (blocks : List (Nat × Object)) : Prop where
  sound : arena.faulted = false
  fresh : arena.Fresh
  distinct : (blocks.map Prod.fst).Nodup
  exact : ∀ address object, arena.cells address = some object ↔ (address, object) ∈ blocks

variable {arena : Arena Object} {blocks : List (Nat × Object)} {address : Nat} {object : Object}

/-- The empty arena holds nothing. -/
theorem holds_empty : (empty : Arena Object).Holds [] where
  sound := rfl
  fresh := fresh_empty
  distinct := List.nodup_nil
  exact _ _ := iff_of_false (fun none => by cases none) List.not_mem_nil

/-- The order of the blocks does not matter. -/
theorem Holds.perm (holds : arena.Holds blocks) {others : List (Nat × Object)}
    (same : blocks.Perm others) : arena.Holds others where
  sound := holds.sound
  fresh := holds.fresh
  distinct := (same.map Prod.fst).nodup_iff.mp holds.distinct
  exact address object := (holds.exact address object).trans same.mem_iff

/-- A pointer to a block that is held is valid. -/
theorem Holds.points (holds : arena.Holds blocks) (member : (address, object) ∈ blocks) :
    arena.points (some address) = true := by
  rw [Arena.points, target_some, (holds.exact address object).mpr member]
  rfl

/-- A new block is held. -/
theorem Holds.create (holds : arena.Holds blocks) (object : Object) :
    (arena.create object).Holds ((arena.next, object) :: blocks) where
  sound := holds.sound
  fresh := holds.fresh.create object
  distinct := by
    rw [List.map_cons, List.nodup_cons]
    refine ⟨fun member => ?_, holds.distinct⟩
    obtain ⟨⟨address, other⟩, inBlocks, same⟩ := List.mem_map.mp member
    have below := holds.fresh.lt ((holds.exact address other).mpr inBlocks)
    dsimp only at same
    omega
  exact address other := by
    rw [cells_create_eq_some_iff holds.fresh, holds.exact, List.mem_cons, Prod.mk.injEq]
    constructor
    · rintro (⟨rfl, rfl⟩ | member)
      · exact .inl ⟨rfl, rfl⟩
      · exact .inr member
    · rintro (⟨rfl, rfl⟩ | member)
      · exact .inl ⟨rfl, rfl⟩
      · exact .inr member

/-- The other blocks are elsewhere. -/
theorem Holds.ne_of_mem (holds : arena.Holds ((address, object) :: blocks)) {other : Nat}
    {kept : Object} (member : (other, kept) ∈ blocks) : other ≠ address := by
  rintro rfl
  have distinct := holds.distinct
  rw [List.map_cons, List.nodup_cons] at distinct
  exact distinct.1 (List.mem_map.mpr ⟨_, member, rfl⟩)

/-- A destroyed one is not. -/
theorem Holds.destroy (holds : arena.Holds ((address, object) :: blocks)) :
    (arena.destroy (some address)).Holds blocks where
  sound := by
    rw [faulted_destroy, holds.sound, holds.points List.mem_cons_self]
    rfl
  fresh := holds.fresh.destroy _
  distinct := by
    have distinct := holds.distinct
    rw [List.map_cons, List.nodup_cons] at distinct
    exact distinct.2
  exact other kept := by
    rw [cells_destroy_eq_some_iff, holds.exact, List.mem_cons]
    constructor
    · rintro ⟨elsewhere, here | member⟩
      · exact absurd (congrArg some (Prod.mk.inj here).1.symm) elsewhere
      · exact member
    · intro member
      refine ⟨fun here => ?_, .inr member⟩
      exact holds.ne_of_mem member (Option.some.inj here).symm

/-- A block that is written holds what was written. -/
theorem Holds.write (holds : arena.Holds ((address, object) :: blocks)) (written : Object) :
    (arena.write (some address) written).Holds ((address, written) :: blocks) where
  sound := by
    change (arena.faulted || !arena.points (some address)) = false
    rw [holds.sound, holds.points List.mem_cons_self]
    rfl
  fresh other beyond := by
    change (if some address = some other then _ else _) = none
    rw [holds.fresh other beyond]
    exact ite_self none
  distinct := holds.distinct
  exact other kept := by
    change (if some address = some other then (arena.cells other).map fun _ => written
      else arena.cells other) = some kept ↔ _
    rw [List.mem_cons, Prod.mk.injEq]
    by_cases here : address = other
    · subst here
      rw [if_pos rfl, (holds.exact address object).mpr List.mem_cons_self]
      constructor
      · rintro ⟨rfl⟩
        exact .inl ⟨rfl, rfl⟩
      · rintro (⟨-, rfl⟩ | member)
        · rfl
        · exact absurd rfl (holds.ne_of_mem member)
    · rw [if_neg fun same => here (Option.some.inj same), holds.exact, List.mem_cons]
      constructor
      · rintro (same | member)
        · exact absurd (Prod.mk.inj same).1.symm here
        · exact .inr member
      · rintro (⟨rfl, -⟩ | member)
        · exact absurd rfl here
        · exact .inr member

end Arena

end CoderDesktop.Semantics
