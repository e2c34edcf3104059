import Mathlib.Data.List.Basic

/-!
# UTF-8 with replacement

Encoding a text, and a decoder that never fails: a byte at which no character
starts becomes U+FFFD and decoding goes on with the next byte.
-/

namespace CoderDesktop.Encoding.Utf8

/-- The UTF-8 bytes of a text. -/
def encode (chars : List Char) : List UInt8 :=
  chars.flatMap String.utf8EncodeChar

/-- U+FFFD -/
def replacement : Char := Char.ofNat 0xfffd

/-- Decode with at most `fuel` characters put out. -/
def decodeFuel : Nat → List UInt8 → List Char
  | 0, _ => []
  | _, [] => []
  | fuel + 1, byte :: rest =>
      match (byte :: rest).toByteArray.utf8DecodeChar? 0 with
      | some char => char :: decodeFuel fuel ((byte :: rest).drop char.utf8Size)
      | none => replacement :: decodeFuel fuel rest

/-- Each malformed part becomes a replacement character. -/
def decode (bytes : List UInt8) : List Char :=
  decodeFuel bytes.length bytes

/-- A character in front is decoded. -/
theorem decodeFuel_encodeChar_append (fuel : Nat) (char : Char) (rest : List UInt8) :
    decodeFuel (fuel + 1) (String.utf8EncodeChar char ++ rest) =
      char :: decodeFuel fuel rest := by
  have first : (String.utf8EncodeChar char ++ rest).toByteArray.utf8DecodeChar? 0 = some char := by
    rw [List.toByteArray_append]
    exact ByteArray.utf8DecodeChar?_utf8EncodeChar_append
  have length := String.length_utf8EncodeChar char
  cases encoded : String.utf8EncodeChar char ++ rest with
  | nil =>
      have positive := char.utf8Size_pos
      have empty := (List.append_eq_nil_iff.mp encoded).1
      rw [empty] at length
      simp at length
      omega
  | cons byte more =>
      rw [encoded] at first
      simp only [decodeFuel, first]
      rw [← encoded, ← length, List.drop_left]

/-- Decoding gives back an encoded text. -/
theorem decodeFuel_encode (chars : List Char) (extra : Nat) :
    decodeFuel ((encode chars).length + extra) (encode chars) = chars := by
  induction chars generalizing extra with
  | nil => cases extra <;> rfl
  | cons char chars inductionHypothesis =>
      have positive := char.utf8Size_pos
      have length := String.length_utf8EncodeChar char
      have split : encode (char :: chars) = String.utf8EncodeChar char ++ encode chars := rfl
      have fuel : (encode (char :: chars)).length + extra =
          ((encode chars).length + (extra + (char.utf8Size - 1))) + 1 := by
        rw [split, List.length_append, length]
        omega
      rw [fuel, split, decodeFuel_encodeChar_append, inductionHypothesis]

/-- What is encoded is decoded. -/
theorem decode_encode (chars : List Char) : decode (encode chars) = chars :=
  decodeFuel_encode chars 0

/-! ## Decoding arbitrary bytes -/

/-- Some character is encoded at the start of the bytes. -/
def Starts (bytes : List UInt8) : Prop :=
  ∃ char rest, bytes = String.utf8EncodeChar char ++ rest

/-- A decoded character stands in front. -/
theorem decodeChar?_eq_some {bytes : List UInt8} {char : Char}
    (found : bytes.toByteArray.utf8DecodeChar? 0 = some char) :
    ∃ rest, bytes = String.utf8EncodeChar char ++ rest := by
  obtain ⟨rest, split⟩ := ByteArray.exists_of_utf8DecodeChar?_eq_some found
  refine ⟨rest.data.toList, ?_⟩
  have same : rest.data.toList.toByteArray = rest := ByteArray.ext (by simp)
  rw [← List.toByteArray_inj, List.toByteArray_append, same, split]

/-- A malformed byte is replaced. -/
theorem decodeFuel_malformed (fuel : Nat) {byte : UInt8} {rest : List UInt8}
    (malformed : ¬ Starts (byte :: rest)) :
    decodeFuel (fuel + 1) (byte :: rest) = replacement :: decodeFuel fuel rest := by
  rw [decodeFuel]
  split
  · rename_i char found
    exact absurd ⟨char, decodeChar?_eq_some found⟩ malformed
  · rfl

/-- Decoding goes on with a character where one starts, and with a byte elsewhere. -/
theorem decode_induction {motive : List UInt8 → Prop} (nil : motive [])
    (char : ∀ char rest, motive rest → motive (String.utf8EncodeChar char ++ rest))
    (malformed : ∀ byte rest, ¬ Starts (byte :: rest) → motive rest → motive (byte :: rest))
    (bytes : List UInt8) : motive bytes := by
  induction size : bytes.length using Nat.strongRecOn generalizing bytes with
  | _ size inductionHypothesis =>
      cases bytes with
      | nil => exact nil
      | cons byte rest =>
          by_cases starts : Starts (byte :: rest)
          · obtain ⟨first, more, split⟩ := starts
            rw [split] at size ⊢
            have positive := first.utf8Size_pos
            rw [List.length_append, String.length_utf8EncodeChar] at size
            exact char first more (inductionHypothesis more.length (by omega) more rfl)
          · refine malformed byte rest starts (inductionHypothesis rest.length ?_ rest rfl)
            rw [List.length_cons] at size
            omega

/-- A byte of fuel for each byte is enough. -/
theorem decodeFuel_eq_decode {bytes : List UInt8} {fuel : Nat} (enough : bytes.length ≤ fuel) :
    decodeFuel fuel bytes = decode bytes := by
  have any : ∀ left right, bytes.length ≤ left → bytes.length ≤ right →
      decodeFuel left bytes = decodeFuel right bytes := by
    clear enough
    induction bytes using decode_induction with
    | nil => intro left right _ _; cases left <;> cases right <;> rfl
    | char char rest inductionHypothesis =>
        intro left right leftEnough rightEnough
        have positive := char.utf8Size_pos
        rw [List.length_append, String.length_utf8EncodeChar] at leftEnough rightEnough
        obtain ⟨left, rfl⟩ := Nat.exists_eq_add_one.mpr (show 0 < left by omega)
        obtain ⟨right, rfl⟩ := Nat.exists_eq_add_one.mpr (show 0 < right by omega)
        rw [decodeFuel_encodeChar_append, decodeFuel_encodeChar_append,
          inductionHypothesis left right (by omega) (by omega)]
    | malformed byte rest malformed inductionHypothesis =>
        intro left right leftEnough rightEnough
        rw [List.length_cons] at leftEnough rightEnough
        obtain ⟨left, rfl⟩ := Nat.exists_eq_add_one.mpr (show 0 < left by omega)
        obtain ⟨right, rfl⟩ := Nat.exists_eq_add_one.mpr (show 0 < right by omega)
        rw [decodeFuel_malformed _ malformed, decodeFuel_malformed _ malformed,
          inductionHypothesis left right (by omega) (by omega)]
  exact any fuel bytes.length enough (Nat.le_refl _)

/-- `decode` decodes a character in front. -/
theorem decode_encodeChar_append (char : Char) (rest : List UInt8) :
    decode (String.utf8EncodeChar char ++ rest) = char :: decode rest := by
  have positive := char.utf8Size_pos
  have length := String.length_utf8EncodeChar char
  rw [← decodeFuel_eq_decode (Nat.le_succ _), decodeFuel_encodeChar_append,
    decodeFuel_eq_decode]
  rw [List.length_append]
  omega

/-- `decode` replaces a malformed byte. -/
theorem decode_malformed {byte : UInt8} {rest : List UInt8}
    (malformed : ¬ Starts (byte :: rest)) :
    decode (byte :: rest) = replacement :: decode rest := by
  rw [decode, List.length_cons, decodeFuel_malformed _ malformed]
  rfl

/-- Characters are encoded one after the other. -/
theorem encode_cons (char : Char) (chars : List Char) :
    encode (char :: chars) = String.utf8EncodeChar char ++ encode chars := rfl

/-- The replacement has three bytes. -/
theorem length_replacement : (String.utf8EncodeChar replacement).length = 3 := by
  decide

/-- What replacements add is never less than what they stand for. -/
theorem length_le_encode_decode (bytes : List UInt8) :
    bytes.length ≤ (encode (decode bytes)).length := by
  induction bytes using decode_induction with
  | nil => exact Nat.zero_le _
  | char char rest inductionHypothesis =>
      rw [decode_encodeChar_append, encode_cons, List.length_append, List.length_append]
      omega
  | malformed byte rest malformed inductionHypothesis =>
      rw [decode_malformed malformed, encode_cons, List.length_append, length_replacement,
        List.length_cons]
      omega

/-- Bytes that do not get longer are well formed. -/
theorem encode_decode_of_length {bytes : List UInt8}
    (same : (encode (decode bytes)).length = bytes.length) : encode (decode bytes) = bytes := by
  induction bytes using decode_induction with
  | nil => rfl
  | char char rest inductionHypothesis =>
      rw [decode_encodeChar_append, encode_cons] at same ⊢
      rw [List.length_append, List.length_append] at same
      rw [inductionHypothesis (by omega)]
  | malformed byte rest malformed inductionHypothesis =>
      have grown := length_le_encode_decode rest
      rw [decode_malformed malformed, encode_cons, List.length_append, length_replacement,
        List.length_cons] at same
      omega

/-! ## Occurrences of a character -/

/-- The number of places at which a character is encoded. -/
def occurrences (char : Char) : List UInt8 → Nat
  | [] => 0
  | byte :: rest =>
      (if String.utf8EncodeChar char <+: byte :: rest then 1 else 0) + occurrences char rest

/-- No character's bytes start with another's. -/
theorem encodeChar_prefix_append {char first : Char} {rest : List UInt8} :
    String.utf8EncodeChar char <+: String.utf8EncodeChar first ++ rest ↔ char = first := by
  constructor
  · rintro ⟨after, split⟩
    have decoded := decode_encodeChar_append first rest
    rw [← split, decode_encodeChar_append] at decoded
    exact (List.cons.inj decoded).1
  · rintro rfl
    exact List.prefix_append _ _

/-- A continuation byte. -/
def Continues (byte : UInt8) : Prop := 0x80 ≤ byte.toNat ∧ byte.toNat < 0xc0

/-- An encoding is a byte that does not continue and bytes that do. -/
theorem encodeChar_cases (char : Char) : ∃ byte rest, String.utf8EncodeChar char = byte :: rest ∧
    ¬ Continues byte ∧ ∀ other ∈ rest, Continues other := by
  have small := char.val.toNat_lt
  unfold String.utf8EncodeChar
  dsimp only
  split
  · refine ⟨_, _, rfl, ?_, by simp⟩
    simp only [Continues, UInt8.toNat_ofNat']
    omega
  split
  · refine ⟨_, _, rfl, ?_, ?_⟩
    · simp only [Continues, UInt8.toNat_ofNat']
      omega
    · simp only [List.mem_singleton, forall_eq, Continues, UInt8.toNat_ofNat']
      omega
  split
  · refine ⟨_, _, rfl, ?_, ?_⟩
    · simp only [Continues, UInt8.toNat_ofNat']
      omega
    · simp only [List.mem_cons, List.not_mem_nil, or_false, forall_eq_or_imp, forall_eq, Continues,
        UInt8.toNat_ofNat']
      omega
  · refine ⟨_, _, rfl, ?_, ?_⟩
    · simp only [Continues, UInt8.toNat_ofNat']
      omega
    · simp only [List.mem_cons, List.not_mem_nil, or_false, forall_eq_or_imp, forall_eq, Continues,
        UInt8.toNat_ofNat']
      omega

/-- No character starts within the rest of another one. -/
theorem occurrences_continues {char : Char} {tail rest : List UInt8}
    (continues : ∀ byte ∈ tail, Continues byte) :
    occurrences char (tail ++ rest) = occurrences char rest := by
  induction tail with
  | nil => rfl
  | cons byte tail inductionHypothesis =>
      have later := inductionHypothesis fun other member =>
        continues other (List.mem_cons_of_mem _ member)
      rw [List.cons_append, occurrences, if_neg, Nat.zero_add, later]
      obtain ⟨first, more, shape, starts, -⟩ := encodeChar_cases char
      rw [shape]
      intro found
      obtain rfl := (List.cons_prefix_cons.mp found).1
      exact starts (continues first List.mem_cons_self)

/-- Occurrences are counted character by character. -/
theorem occurrences_encodeChar_append (char first : Char) (rest : List UInt8) :
    occurrences char (String.utf8EncodeChar first ++ rest) =
      (if char = first then 1 else 0) + occurrences char rest := by
  obtain ⟨byte, more, shape, -, continues⟩ := encodeChar_cases first
  have starts := @encodeChar_prefix_append char first rest
  rw [shape] at starts ⊢
  rw [List.cons_append] at starts ⊢
  rw [occurrences, occurrences_continues continues]
  simp only [starts]

/-- A text that is well formed contains a character as often as its encoding. -/
theorem occurrences_encode (char : Char) (chars : List Char) :
    occurrences char (encode chars) = chars.count char := by
  induction chars with
  | nil => rfl
  | cons first chars inductionHypothesis =>
      rw [encode_cons, occurrences_encodeChar_append, inductionHypothesis, List.count_cons]
      by_cases same : char = first
      · simp [same, Nat.add_comm]
      · simp [same, Ne.symm same]

/-- Joining bytes may complete a character and never loses one. -/
theorem occurrences_append_le (char : Char) (first second : List UInt8) :
    occurrences char first + occurrences char second ≤ occurrences char (first ++ second) := by
  induction first with
  | nil => simp [occurrences]
  | cons byte first inductionHypothesis =>
      have kept : String.utf8EncodeChar char <+: byte :: first →
          String.utf8EncodeChar char <+: byte :: (first ++ second) := fun found =>
        found.trans (List.prefix_append _ second)
      rw [List.cons_append, occurrences, occurrences]
      split
      · rename_i found
        rw [if_pos (kept found)]
        omega
      · omega

/-- Decoding makes up replacements and nothing else. -/
theorem count_decode_le {char : Char} (real : char ≠ replacement) (bytes : List UInt8) :
    (decode bytes).count char ≤ occurrences char bytes := by
  induction bytes using decode_induction with
  | nil => exact Nat.zero_le _
  | char first rest inductionHypothesis =>
      rw [decode_encodeChar_append, occurrences_encodeChar_append, List.count_cons]
      by_cases same : char = first
      · simp only [same, beq_self_eq_true, if_true]
        subst same
        omega
      · simp only [if_neg same, beq_eq_false_iff_ne.mpr (Ne.symm same), Bool.false_eq_true,
          if_false]
        omega
  | malformed byte rest malformed inductionHypothesis =>
      rw [decode_malformed malformed, List.count_cons_of_ne (Ne.symm real), occurrences]
      omega

end CoderDesktop.Encoding.Utf8
