import CoderDesktop.Encoding.BitMixing
import CoderDesktop.Dlp.Fingerprint
import CoderDesktop.Dlp.WatermarkExtraction

/-!
# The generator of the watermark

The first and the third hash of an identity differ, as they differ in the prefix byte. The
two halves of the fingerprint are therefore different and the seed is not zero. The
generator is injective and keeps zero, so it never gets there.
-/

namespace CoderDesktop.Dlp

open Encoding

/-! ## The seed -/

/-- Hashes of one identity under different prefixes differ. -/
theorem identityHash_ne_of_prefix {identity : List Byte} {pre other : Nat}
    (differ : BitVec.ofNat 8 pre ≠ BitVec.ofNat 8 other) :
    identityHash identity pre ≠ identityHash identity other :=
  @foldl_ne_of_one_differs _ _ fnv1aRound fnv1aRound_injective_hash fnv1aRound_injective_byte
    [] (identity.take 255) _ _ differ 0xcbf29ce484222325

/-- Where the halves cancel each other, the hashes that are combined are the same. -/
theorem hashWord_eq_of_halves_zero {state : WatermarkState}
    (zero : state.halves = ⟨0, 0, 0, 0⟩) : state.hashWord 0 = state.hashWord 2 := by
  have lower : state.word 0 ^^^ state.word 16 = 0#32 := congrArg Xorshift128.s0 zero
  have upper : state.word 4 ^^^ state.word 20 = 0#32 := congrArg Xorshift128.s1 zero
  have sameLower : state.word 0 = state.word 16 := BitVec.xor_eq_zero_iff.mp lower
  have sameUpper : state.word 4 = state.word 20 := BitVec.xor_eq_zero_iff.mp upper
  calc
    state.hashWord 0 = state.word 4 ++ state.word 0 := rfl
    _ = state.word 20 ++ state.word 16 := by rw [sameLower, sameUpper]
    _ = state.hashWord 2 := rfl

/-- The halves of the fingerprint of an identity do not cancel each other. -/
theorem halves_dlpWatermarkSetIdentity (state : WatermarkState) (identity : List Byte) :
    (dlpWatermarkSetIdentity state identity).halves ≠ ⟨0, 0, 0, 0⟩ := by
  intro zero
  have same := hashWord_eq_of_halves_zero zero
  rw [hashWord_dlpWatermarkSetIdentity, hashWord_dlpWatermarkSetIdentity] at same
  exact identityHash_ne_of_prefix (by decide) same

/-- The all-zero fallback is not taken. -/
theorem seed_dlpWatermarkSetIdentity (state : WatermarkState) (identity : List Byte) :
    (dlpWatermarkSetIdentity state identity).seed =
      (dlpWatermarkSetIdentity state identity).halves :=
  if_neg (halves_dlpWatermarkSetIdentity state identity)

/-! ## The steps -/

/-- The generator after a number was drawn. -/
def Xorshift128.advance (rng : Xorshift128) : Xorshift128 :=
  (xorshift128Next rng).2

/-- The last word as it is mixed before the first one is added. -/
def mixed (last : BitVec 32) : BitVec 32 :=
  let shifted := last ^^^ last <<< 11
  shifted ^^^ shifted >>> 8

/-- Mixing one word loses nothing. -/
theorem mixed_injective : Function.Injective mixed := by
  intro left right same
  have shifted : left ^^^ left <<< 11 = right ^^^ right <<< 11 :=
    (ranked_ushiftRight (by decide : 0 < 8)).xor_injective same
  exact (ranked_shiftLeft (by decide : 0 < 11)).xor_injective shifted

/-- A step in terms of `mixed`. -/
theorem advance_eq (rng : Xorshift128) :
    rng.advance = ⟨mixed rng.s3 ^^^ rng.s0 ^^^ rng.s0 >>> 19, rng.s0, rng.s1, rng.s2⟩ := rfl

/-- A step loses nothing. -/
theorem advance_injective : Function.Injective Xorshift128.advance := by
  intro left right same
  rw [advance_eq, advance_eq, Xorshift128.mk.injEq] at same
  obtain ⟨drawn, first, second, third⟩ := same
  rw [first] at drawn
  have last : mixed left.s3 = mixed right.s3 :=
    (BitVec.xor_left_inj _).mp ((BitVec.xor_left_inj _).mp drawn)
  exact Xorshift128.ext first second third (mixed_injective last)

/-- The zero state stays zero. -/
theorem advance_zero : Xorshift128.advance ⟨0, 0, 0, 0⟩ = ⟨0, 0, 0, 0⟩ := by
  decide

/-- No other state becomes zero. -/
theorem advance_ne_zero {rng : Xorshift128} (nonzero : rng ≠ ⟨0, 0, 0, 0⟩) (steps : Nat) :
    Xorshift128.advance^[steps] rng ≠ ⟨0, 0, 0, 0⟩ :=
  iterate_ne_of_kept advance_injective advance_zero nonzero steps

/-- One number is drawn for each pixel of the image, whether it is marked or not. -/
theorem rng_foldl_pixels (state : WatermarkState) (blues : List Nat) (marking : Marking) :
    (blues.foldl (fun marking blue => marking.pixel state blue) marking).rng =
      Xorshift128.advance^[blues.length] marking.rng := by
  induction blues generalizing marking with
  | nil => rfl
  | cons blue rest inductionHypothesis =>
      have drawn : (marking.pixel state blue).rng = marking.rng.advance := by
        unfold Marking.pixel
        dsimp only
        split <;> rfl
      rw [List.foldl_cons, inductionHypothesis, drawn, List.length_cons,
        Function.iterate_succ_apply]

/-- Marking an image, the generator is never zero after any number of rows. -/
theorem rng_rows_ne_zero (former : WatermarkState) (identity : List Byte)
    (stride boff width height : Nat) (pixels : Nat → Byte) :
    let state := dlpWatermarkSetIdentity former identity
    (Marking.rows state stride boff width height ⟨state.seed, 0, pixels⟩).rng ≠ ⟨0, 0, 0, 0⟩ := by
  intro state
  rw [rows_eq_foldl, rng_foldl_pixels]
  apply advance_ne_zero
  rw [seed_dlpWatermarkSetIdentity]
  exact halves_dlpWatermarkSetIdentity former identity

/-! ## The generator never degenerates -/

/-- Whatever the identity, the seed of its fingerprint is the two halves combined, which
are not zero; and a number that is drawn loses nothing of the generator, so that from no
generator but zero, which is kept, zero is ever reached. -/
theorem generator_never_degenerates :
    (∀ (state : WatermarkState) (identity : List Byte),
      (dlpWatermarkSetIdentity state identity).halves ≠ ⟨0, 0, 0, 0⟩ ∧
        (dlpWatermarkSetIdentity state identity).seed =
          (dlpWatermarkSetIdentity state identity).halves) ∧
    (Function.Injective fun rng => (xorshift128Next rng).2) ∧
    (xorshift128Next ⟨0, 0, 0, 0⟩).2 = ⟨0, 0, 0, 0⟩ ∧
    ∀ (rng : Xorshift128), rng ≠ ⟨0, 0, 0, 0⟩ → ∀ steps : Nat,
      (fun rng => (xorshift128Next rng).2)^[steps] rng ≠ ⟨0, 0, 0, 0⟩ := by
  refine ⟨?_, advance_injective, advance_zero, ?_⟩
  · intro state identity
    exact ⟨halves_dlpWatermarkSetIdentity state identity,
      seed_dlpWatermarkSetIdentity state identity⟩
  · intro rng nonzero steps
    exact advance_ne_zero nonzero steps

/-- Seven numbers drawn from the fingerprint of "bob". -/
theorem generator_never_degenerates_bob :
    (fun rng => (xorshift128Next rng).2)^[7] (dlpWatermarkSetIdentity .new [98, 111, 98]).seed ≠
      ⟨0, 0, 0, 0⟩ := by
  obtain ⟨seeds, -, -, runs⟩ := generator_never_degenerates
  obtain ⟨nonzero, seeded⟩ := seeds .new [98, 111, 98]
  rw [seeded]
  exact runs _ nonzero 7

end CoderDesktop.Dlp
