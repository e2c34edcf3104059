import Mathlib.Algebra.Group.Nat.Defs
import Mathlib.Data.List.Basic

/-!
# Base64

The standard alphabet with padding, and a lenient decoder: characters outside the
alphabet, the padding among them, are skipped, and bits that do not fill a byte
are dropped. `decode_encode` is the round trip.
-/

namespace CoderDesktop.Encoding.Base64

/-- The character of a six-bit digit. -/
def digit (value : Nat) : Char :=
  if value < 26 then Char.ofNat (0x41 + value)
  else if value < 52 then Char.ofNat (0x61 + (value - 26))
  else if value < 62 then Char.ofNat (0x30 + (value - 52))
  else if value = 62 then '+' else '/'

/-- The digit a character stands for. -/
def value (char : Char) : Option Nat :=
  if 0x41 ≤ char.toNat ∧ char.toNat ≤ 0x5a then some (char.toNat - 0x41)
  else if 0x61 ≤ char.toNat ∧ char.toNat ≤ 0x7a then some (char.toNat - 0x61 + 26)
  else if 0x30 ≤ char.toNat ∧ char.toNat ≤ 0x39 then some (char.toNat - 0x30 + 52)
  else if char = '+' then some 62
  else if char = '/' then some 63
  else none

/-- Each digit is read as its value. -/
private theorem value_digit_all : ∀ digitValue ∈ List.range 64,
    value (digit digitValue) = some digitValue := by
  decide

/-- A digit is read as its value. -/
theorem value_digit {digitValue : Nat} (small : digitValue < 64) :
    value (digit digitValue) = some digitValue :=
  value_digit_all digitValue (List.mem_range.mpr small)

/-- Three bytes make four digits; a shorter last group is padded. -/
def encode : List UInt8 → List Char
  | [] => []
  | [a] => [digit (a.toNat / 4), digit (a.toNat % 4 * 16), '=', '=']
  | [a, b] =>
      [digit (a.toNat / 4), digit (a.toNat % 4 * 16 + b.toNat / 16), digit (b.toNat % 16 * 4), '=']
  | a :: b :: c :: rest =>
      digit (a.toNat / 4) :: digit (a.toNat % 4 * 16 + b.toNat / 16) ::
        digit (b.toNat % 16 * 4 + c.toNat / 64) :: digit (c.toNat % 64) :: encode rest

/-- The `nbits` bits read and not yet put out are the low bits of `buf`. -/
def decodeFrom (buf nbits : Nat) : List Char → List UInt8
  | [] => []
  | char :: rest =>
      match value char with
      | none => decodeFrom buf nbits rest
      | some digitValue =>
          if 2 ≤ nbits then
            UInt8.ofNat ((buf * 64 + digitValue) / 2 ^ (nbits - 2)) ::
              decodeFrom ((buf * 64 + digitValue) % 2 ^ (nbits - 2)) (nbits - 2) rest
          else
            decodeFrom (buf * 64 + digitValue) (nbits + 6) rest

/-- Characters outside the alphabet are skipped, and the bits of an unfinished byte are dropped. -/
def decode (chars : List Char) : List UInt8 :=
  decodeFrom 0 0 chars

/-! ## Round trip -/

/-- A character outside the alphabet is skipped. -/
theorem decodeFrom_skip {buf nbits : Nat} {char : Char} (skipped : value char = none)
    (rest : List Char) : decodeFrom buf nbits (char :: rest) = decodeFrom buf nbits rest := by
  rw [decodeFrom, skipped]

/-- A digit that does not complete a byte. -/
theorem decodeFrom_fill {buf nbits digitValue : Nat} (small : digitValue < 64)
    (short : nbits < 2) (rest : List Char) :
    decodeFrom buf nbits (digit digitValue :: rest) =
      decodeFrom (buf * 64 + digitValue) (nbits + 6) rest := by
  rw [decodeFrom, value_digit small]
  exact if_neg (by omega)

/-- A digit that completes a byte. -/
theorem decodeFrom_emit {buf nbits digitValue : Nat} (small : digitValue < 64)
    (enough : 2 ≤ nbits) (rest : List Char) :
    decodeFrom buf nbits (digit digitValue :: rest) =
      UInt8.ofNat ((buf * 64 + digitValue) / 2 ^ (nbits - 2)) ::
        decodeFrom ((buf * 64 + digitValue) % 2 ^ (nbits - 2)) (nbits - 2) rest := by
  rw [decodeFrom, value_digit small]
  exact if_pos enough

/-- A number that fits is its byte. -/
theorem ofNat_eq (byte : UInt8) {number : Nat} (same : number = byte.toNat) :
    UInt8.ofNat number = byte := by
  rw [same, UInt8.ofNat_toNat]

/-- A full group of four digits gives its three bytes and leaves no bits. -/
theorem decodeFrom_group (a b c : UInt8) (rest : List Char) :
    decodeFrom 0 0 (digit (a.toNat / 4) :: digit (a.toNat % 4 * 16 + b.toNat / 16) ::
        digit (b.toNat % 16 * 4 + c.toNat / 64) :: digit (c.toNat % 64) :: rest) =
      a :: b :: c :: decodeFrom 0 0 rest := by
  have aSmall := a.toNat_lt
  have bSmall := b.toNat_lt
  have cSmall := c.toNat_lt
  rw [decodeFrom_fill (by omega) (by omega), decodeFrom_emit (by omega) (by omega),
    decodeFrom_emit (by omega) (by omega), decodeFrom_emit (by omega) (by omega)]
  simp only [Nat.zero_mul, Nat.zero_add, Nat.reduceSub, Nat.reducePow]
  congr 1
  · exact ofNat_eq _ (by omega)
  congr 1
  · exact ofNat_eq _ (by omega)
  congr 1
  · exact ofNat_eq _ (by omega)
  · rw [show ((((a.toNat / 4) * 64 + (a.toNat % 4 * 16 + b.toNat / 16)) % 16 * 64 +
        (b.toNat % 16 * 4 + c.toNat / 64)) % 4 * 64 + c.toNat % 64) % 1 = 0 by omega]

/-- What is encoded is decoded, by the three bytes of a group. -/
theorem decode_encode (bytes : List UInt8) : decode (encode bytes) = bytes := by
  unfold decode
  induction bytes using encode.induct with
  | case1 => rfl
  | case2 a =>
      have aSmall := a.toNat_lt
      rw [encode, decodeFrom_fill (by omega) (by omega), decodeFrom_emit (by omega) (by omega),
        decodeFrom_skip (by decide), decodeFrom_skip (by decide)]
      simp only [decodeFrom, Nat.zero_mul, Nat.zero_add, Nat.reduceSub, Nat.reducePow]
      rw [ofNat_eq a (by omega)]
  | case3 a b =>
      have aSmall := a.toNat_lt
      have bSmall := b.toNat_lt
      rw [encode, decodeFrom_fill (by omega) (by omega), decodeFrom_emit (by omega) (by omega),
        decodeFrom_emit (by omega) (by omega), decodeFrom_skip (by decide)]
      simp only [decodeFrom, Nat.zero_mul, Nat.zero_add, Nat.reduceSub, Nat.reducePow]
      rw [ofNat_eq a (by omega), ofNat_eq b (by omega)]
  | case4 a b c rest inductionHypothesis =>
      rw [encode, decodeFrom_group, inductionHypothesis]

end CoderDesktop.Encoding.Base64
