import Mathlib.Logic.Function.Iterate

/-!
# Mixing the bits of a word

A word is mixed with a copy of it whose bits are taken from lower places, or from higher
ones. Such a mixing loses nothing: the bits of the word are found one after the other.
-/

namespace CoderDesktop.Encoding

/-! ## Words mixed with a copy -/

section Mixing

variable {width : Nat}

/-- Each bit of the copy is made of bits of the word that rank below it. -/
def Ranked (rank : Nat → Nat) (copy : BitVec width → BitVec width) : Prop :=
  ∀ (left right : BitVec width) (bit : Nat), bit < width →
    (∀ below < width, rank below < rank bit → left.getLsbD below = right.getLsbD below) →
      (copy left).getLsbD bit = (copy right).getLsbD bit

/-- The bits agree in the order of their ranks. -/
theorem Ranked.xor_injective {rank : Nat → Nat} {copy : BitVec width → BitVec width}
    (ranked : Ranked rank copy) : Function.Injective fun word => word ^^^ copy word := by
  intro left right same
  have agree : ∀ height bit, bit < width → rank bit = height →
      left.getLsbD bit = right.getLsbD bit := by
    intro height
    induction height using Nat.strongRecOn with
    | ind height lower =>
        intro bit inWord atHeight
        have copied : (copy left).getLsbD bit = (copy right).getLsbD bit := by
          apply ranked left right bit inWord
          intro below belowInWord ranksBelow
          exact lower (rank below) (atHeight ▸ ranksBelow) below belowInWord rfl
        have mixed := congrArg (fun word => BitVec.getLsbD word bit) same
        simp only [BitVec.getLsbD_xor, copied] at mixed
        exact Bool.xor_left_inj.mp mixed
  apply BitVec.eq_of_getLsbD_eq
  intro bit inWord
  exact agree (rank bit) bit inWord rfl

variable {distance : Nat}

/-- A shift to the left feeds bits from lower ones. -/
theorem ranked_shiftLeft (moves : 0 < distance) :
    Ranked id fun word : BitVec width => word <<< distance := by
  intro left right bit inWord agree
  rw [BitVec.getLsbD_shiftLeft, BitVec.getLsbD_shiftLeft]
  by_cases beyond : bit < distance
  · simp only [beyond, decide_true, Bool.not_true, Bool.and_false, Bool.false_and]
  · have source : bit - distance < bit := by omega
    rw [agree (bit - distance) (Nat.lt_trans source inWord) source]

/-- A shift to the right feeds bits from higher ones. -/
theorem ranked_ushiftRight (moves : 0 < distance) :
    Ranked (width - ·) fun word : BitVec width => word >>> distance := by
  intro left right bit inWord agree
  rw [BitVec.getLsbD_ushiftRight, BitVec.getLsbD_ushiftRight]
  by_cases beyond : distance + bit < width
  · have source : width - (distance + bit) < width - bit := by omega
    exact agree (distance + bit) beyond source
  · rw [BitVec.getLsbD_of_ge left _ (by omega), BitVec.getLsbD_of_ge right _ (by omega)]

end Mixing

/-! ## Generators -/

section Generators

universe u

variable {State : Type u} {next : State → State}

/-- A generator that loses nothing reaches a state that it keeps from nowhere else. -/
theorem iterate_ne_of_kept (injective : Function.Injective next) {kept start : State}
    (keeps : next kept = kept) (elsewhere : start ≠ kept) (steps : Nat) :
    next^[steps] start ≠ kept := by
  intro reached
  rw [← Function.iterate_fixed keeps steps] at reached
  exact elsewhere (injective.iterate steps reached)

end Generators

end CoderDesktop.Encoding
