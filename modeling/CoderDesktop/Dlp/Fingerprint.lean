import CoderDesktop.Dlp.Watermark

/-!
# The sensitivity of the fingerprint

Each round of the hash is a bijection of the hash for a fixed byte, and injective in the
byte for a fixed hash. So two identities that differ in one hashed byte have different
hashes from that byte on, under every prefix.
-/

namespace CoderDesktop.Dlp

/-! ## Folds of injective rounds -/

section Folds

variable {State Item : Type} {round : State → Item → State}

/-- A fold whose rounds are injective in the state is injective in its start. -/
theorem foldl_injective (byState : ∀ item, Function.Injective fun state => round state item)
    (items : List Item) : Function.Injective fun state => items.foldl round state := by
  induction items with
  | nil => exact fun _ _ same => same
  | cons item rest inductionHypothesis =>
      intro left right same
      exact byState item (inductionHypothesis same)

/-- Folds over two lists that differ in one place end in different states. -/
theorem foldl_ne_of_one_differs
    (byState : ∀ item, Function.Injective fun state => round state item)
    (byItem : ∀ state, Function.Injective (round state))
    {front back : List Item} {left right : Item} (differ : left ≠ right) (start : State) :
    (front ++ left :: back).foldl round start ≠ (front ++ right :: back).foldl round start := by
  intro same
  rw [List.foldl_append, List.foldl_append, List.foldl_cons, List.foldl_cons] at same
  have beforeBack := foldl_injective byState back same
  exact differ (byItem _ beforeBack)

end Folds

/-- Two lists of one length that agree at every place but one share what stands before and
after that place. -/
theorem exists_split_of_one_differs {Item : Type} {first second : List Item} {position : Nat}
    (sameLength : first.length = second.length)
    (differ : first[position]? ≠ second[position]?)
    (agree : ∀ other, other ≠ position → first[other]? = second[other]?) :
    ∃ front left right back, left ≠ right ∧ front.length = position ∧
      first = front ++ left :: back ∧ second = front ++ right :: back := by
  have inFirst : position < first.length := by
    by_contra beyond
    rw [List.getElem?_eq_none (by omega), List.getElem?_eq_none (by omega)] at differ
    exact differ rfl
  have inSecond : position < second.length := sameLength ▸ inFirst
  have sameFront : first.take position = second.take position := by
    apply List.ext_getElem?
    intro other
    rw [List.getElem?_take, List.getElem?_take]
    split
    · exact agree other (by omega)
    · rfl
  have sameBack : first.drop (position + 1) = second.drop (position + 1) := by
    apply List.ext_getElem?
    intro other
    rw [List.getElem?_drop, List.getElem?_drop]
    exact agree _ (by omega)
  refine ⟨first.take position, first[position], second[position], first.drop (position + 1),
    ?_, ?_, ?_, ?_⟩
  · rwa [List.getElem?_eq_getElem inFirst, List.getElem?_eq_getElem inSecond, ne_eq,
      Option.some_inj] at differ
  · exact List.length_take_of_le (Nat.le_of_lt inFirst)
  · rw [List.getElem_cons_drop, List.take_append_drop]
  · rw [sameFront, sameBack, List.getElem_cons_drop, List.take_append_drop]

/-! ## The rounds of the hash -/

/-- Multiplication by the prime of the hash can be undone, as the prime is odd. -/
theorem mul_fnvPrime_injective :
    Function.Injective fun hash : BitVec 64 => hash * 0x100000001b3 := by
  have inverse : (0x100000001b3 * 0xce965057aff6957b : BitVec 64) = 1#64 := by
    decide
  intro left right same
  have undone := congrArg (· * (0xce965057aff6957b : BitVec 64)) same
  simpa only [BitVec.mul_assoc, inverse, BitVec.mul_one] using undone

/-- For a fixed byte, a round loses nothing of the hash. -/
theorem fnv1aRound_injective_hash (byte : Byte) :
    Function.Injective fun hash => fnv1aRound hash byte := by
  intro left right same
  have mixed : left ^^^ byte.setWidth 64 = right ^^^ byte.setWidth 64 :=
    mul_fnvPrime_injective same
  exact (BitVec.xor_left_inj _).mp mixed

/-- For a fixed hash, different bytes give different hashes. -/
theorem fnv1aRound_injective_byte (hash : BitVec 64) : Function.Injective (fnv1aRound hash) := by
  intro left right same
  have mixed : hash ^^^ left.setWidth 64 = hash ^^^ right.setWidth 64 :=
    mul_fnvPrime_injective same
  have widened : left.setWidth 64 = right.setWidth 64 := (BitVec.xor_right_inj _).mp mixed
  simpa using congrArg (BitVec.setWidth 8) widened

/-- Under every prefix, the hashes of identities that differ in one of their first 255 bytes
differ. -/
theorem identityHash_ne {front back : List Byte} {left right : Byte} (pre : Nat)
    (hashed : front.length < 255) (differ : left ≠ right) :
    identityHash (front ++ left :: back) pre ≠ identityHash (front ++ right :: back) pre := by
  have split (byte : Byte) :
      (front ++ byte :: back).take 255 = front ++ byte :: back.take (254 - front.length) := by
    rw [List.take_append, List.take_of_length_le (Nat.le_of_lt hashed),
      show 255 - front.length = (254 - front.length) + 1 by omega, List.take_succ_cons]
  unfold identityHash fnv1a64
  rw [split left, split right]
  exact foldl_ne_of_one_differs fnv1aRound_injective_hash fnv1aRound_injective_byte
    differ (fnv1aRound 0xcbf29ce484222325 (BitVec.ofNat 8 pre))

/-! ## The words of the fingerprint -/

/-- One of the four 64-bit words of the fingerprint. -/
def WatermarkState.hashWord (state : WatermarkState) (index : Fin 4) : BitVec 64 :=
  state.word ⟨8 * index + 4, by omega⟩ ++ state.word ⟨8 * index, by omega⟩

/-- The eight bytes of a 64-bit number, put together again. -/
theorem append_bytes (hash : BitVec 64) :
    (((hash >>> 56).setWidth 8 ++ (hash >>> 48).setWidth 8 ++ (hash >>> 40).setWidth 8 ++
      (hash >>> 32).setWidth 8 : BitVec 32) ++
    ((hash >>> 24).setWidth 8 ++ (hash >>> 16).setWidth 8 ++ (hash >>> 8).setWidth 8 ++
      (hash >>> 0).setWidth 8 : BitVec 32) : BitVec 64) = hash := by
  ext bit inWord
  simp only [BitVec.getElem_append, BitVec.getElem_setWidth, BitVec.getLsbD_ushiftRight]
  grind

/-- Setting an identity stores its four hashes as the words of the fingerprint. -/
theorem hashWord_dlpWatermarkSetIdentity (state : WatermarkState) (identity : List Byte)
    (index : Fin 4) :
    (dlpWatermarkSetIdentity state identity).hashWord index = identityHash identity index := by
  have stored (place : Nat) (inWord : place < 8) :
      (dlpWatermarkSetIdentity state identity).fingerprint ⟨8 * index + place, by omega⟩ =
        (identityHash identity index >>> (8 * place)).setWidth 8 := by
    have word : (8 * index.val + place) / 8 = index := by omega
    have byte : (8 * index.val + place) % 8 = place := by omega
    simp only [dlpWatermarkSetIdentity, word, byte]
  have lowest := stored 0 (by omega)
  simp only [Nat.add_zero, Nat.mul_zero] at lowest
  simp only [WatermarkState.hashWord, WatermarkState.word, Nat.add_assoc, Nat.reduceAdd,
    Nat.reduceMul, stored 7 (by omega), stored 6 (by omega), stored 5 (by omega),
    stored 4 (by omega), stored 3 (by omega), stored 2 (by omega), stored 1 (by omega), lowest]
  exact append_bytes (identityHash identity index)

/-- Identities of one length that differ in exactly one of their first 255 bytes have
fingerprints that differ in each of the four words. -/
theorem hashWord_ne_of_one_byte_differs {first second : List Byte} {position : Nat}
    (sameLength : first.length = second.length) (hashed : position < 255)
    (differ : first[position]? ≠ second[position]?)
    (agree : ∀ other, other ≠ position → first[other]? = second[other]?)
    (former latter : WatermarkState) (index : Fin 4) :
    (dlpWatermarkSetIdentity former first).hashWord index ≠
      (dlpWatermarkSetIdentity latter second).hashWord index := by
  obtain ⟨front, left, right, back, unequal, rfl, rfl, rfl⟩ :=
    exists_split_of_one_differs sameLength differ agree
  rw [hashWord_dlpWatermarkSetIdentity, hashWord_dlpWatermarkSetIdentity]
  exact identityHash_ne index hashed unequal

/-- "bob" and "rob" have fingerprints that differ in the last word. -/
theorem hashWord_ne_of_bob_rob :
    (dlpWatermarkSetIdentity .new [98, 111, 98]).hashWord 3 ≠
      (dlpWatermarkSetIdentity .new [114, 111, 98]).hashWord 3 := by
  refine @hashWord_ne_of_one_byte_differs [98, 111, 98] [114, 111, 98] 0 rfl (by decide)
    (by decide) ?_ .new .new 3
  intro other elsewhere
  cases other with
  | zero => exact absurd rfl elsewhere
  | succ rest => rfl

end CoderDesktop.Dlp
