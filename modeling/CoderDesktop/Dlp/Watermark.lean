import Mathlib.Data.List.Basic
import Mathlib.Logic.Function.Basic

/-!
# The steganographic watermark

`watermark.c`: the identity is hashed to a 256-bit fingerprint, and applying it to a
frame buffer writes one fingerprint bit into the blue byte of about one pixel in
sixteen, chosen by a generator seeded from the fingerprint. Memory is little-endian,
as the pixel layouts in the source assume.
-/

namespace CoderDesktop.Dlp

/-- A byte of a pixel buffer. -/
abbrev Byte := BitVec 8

/-! ## The fingerprint -/

/-- One round of `fnv1a_64`. -/
def fnv1aRound (hash : BitVec 64) (byte : Byte) : BitVec 64 :=
  (hash ^^^ byte.setWidth 64) * 0x100000001b3

/-- The FNV-1a hash of a byte string. -/
def fnv1a64 (data : List Byte) : BitVec 64 :=
  data.foldl fnv1aRound 0xcbf29ce484222325

/-- `dlp_watermark_state`; its `enabled` field is read nowhere. -/
structure WatermarkState where
  fingerprint : Fin 32 → Byte
  hasIdentity : Bool

/-- The state of a compositor that was just allocated with `calloc`. -/
def WatermarkState.new : WatermarkState := ⟨fun _ => 0, false⟩

/-- The hash of an identity under one of the four one-byte prefixes; at most 255 bytes
of the identity fit into the buffer. -/
def identityHash (identity : List Byte) (pre : Nat) : BitVec 64 :=
  fnv1a64 (BitVec.ofNat 8 pre :: identity.take 255)

/-- Each hash fills its eight bytes of the fingerprint. The identity is given as the
bytes before its terminator. -/
def dlpWatermarkSetIdentity (_ : WatermarkState) (identity : List Byte) : WatermarkState where
  fingerprint index := ((identityHash identity (index / 8)) >>> (8 * (index % 8 : Nat))).setWidth 8
  hasIdentity := true

/-! ## The generator -/

/-- `struct xorshift128`. -/
@[ext]
structure Xorshift128 where
  s0 : BitVec 32
  s1 : BitVec 32
  s2 : BitVec 32
  s3 : BitVec 32
deriving DecidableEq, Repr

/-- The number drawn and the generator after it. -/
def xorshift128Next (rng : Xorshift128) : BitVec 32 × Xorshift128 :=
  let shifted := rng.s3 ^^^ rng.s3 <<< 11
  let mixed := shifted ^^^ shifted >>> 8
  let drawn := mixed ^^^ rng.s0 ^^^ rng.s0 >>> 19
  (drawn, ⟨drawn, rng.s0, rng.s1, rng.s2⟩)

/-- The 32-bit word stored at a byte offset of the fingerprint. -/
def WatermarkState.word (state : WatermarkState) (offset : Fin 29) : BitVec 32 :=
  state.fingerprint ⟨offset + 3, by omega⟩ ++ state.fingerprint ⟨offset + 2, by omega⟩ ++
    state.fingerprint ⟨offset + 1, by omega⟩ ++ state.fingerprint ⟨offset, by omega⟩

/-- The two halves of the fingerprint, combined. -/
def WatermarkState.halves (state : WatermarkState) : Xorshift128 where
  s0 := state.word 0 ^^^ state.word 16
  s1 := state.word 4 ^^^ state.word 20
  s2 := state.word 8 ^^^ state.word 24
  s3 := state.word 12 ^^^ state.word 28

/-- The seed: an all-zero state is replaced. -/
def WatermarkState.seed (state : WatermarkState) : Xorshift128 :=
  if state.halves = ⟨0, 0, 0, 0⟩ then { state.halves with s0 := 1 } else state.halves

/-! ## Frame buffers -/

/-- `fourcc_code` of the DRM headers. -/
def fourccCode (a b c d : Char) : BitVec 32 :=
  BitVec.ofNat 32 a.toNat ||| BitVec.ofNat 32 b.toNat <<< 8 |||
    BitVec.ofNat 32 c.toNat <<< 16 ||| BitVec.ofNat 32 d.toNat <<< 24

/-- `DRM_FORMAT_ARGB8888`. -/
def drmFormatArgb8888 : BitVec 32 := fourccCode 'A' 'R' '2' '4'
/-- `DRM_FORMAT_XRGB8888`. -/
def drmFormatXrgb8888 : BitVec 32 := fourccCode 'X' 'R' '2' '4'
/-- `DRM_FORMAT_ABGR8888`. -/
def drmFormatAbgr8888 : BitVec 32 := fourccCode 'A' 'B' '2' '4'
/-- `DRM_FORMAT_XBGR8888`. -/
def drmFormatXbgr8888 : BitVec 32 := fourccCode 'X' 'B' '2' '4'

/-- The place of the blue byte in a pixel, negative for unsupported formats. -/
def blueOffset (format : BitVec 32) : Int :=
  if format = drmFormatArgb8888 ∨ format = drmFormatXrgb8888 then 0
  else if format = drmFormatAbgr8888 ∨ format = drmFormatXbgr8888 then 2
  else -1

/-- What `wlr_buffer_begin_data_ptr_access` yields: the memory from the returned
pointer on, the pixel format and the row length in bytes. -/
structure DataPtrAccess where
  data : Nat → Byte
  format : BitVec 32
  stride : Nat

/-- A `wlr_buffer`; `access` is `none` when it cannot be mapped. -/
structure WlrBuffer where
  width : Int
  height : Int
  access : Option DataPtrAccess

/-! ## Marking a buffer -/

/-- The variables of the marking loop. -/
structure Marking where
  rng : Xorshift128
  bitIdx : Fin 256
  pixels : Nat → Byte

/-- A bit of the fingerprint. -/
def WatermarkState.fingerprintBit (state : WatermarkState) (bitIdx : Fin 256) : Byte :=
  (state.fingerprint ⟨bitIdx / 8, by omega⟩ >>> (bitIdx % 8 : Nat)) &&& 1

/-- The body of the loop; `blue` is the address of the pixel's blue byte. -/
def Marking.pixel (state : WatermarkState) (blue : Nat) (marking : Marking) : Marking :=
  let (drawn, rng) := xorshift128Next marking.rng
  if drawn &&& 0xF ≠ 0 then
    { marking with rng }
  else
    { rng
      bitIdx := marking.bitIdx + 1
      pixels := Function.update marking.pixels blue
        ((marking.pixels blue &&& 0xFE) ||| state.fingerprintBit marking.bitIdx) }

/-- The inner loop, over the pixels of one row. -/
def Marking.row (state : WatermarkState) (stride boff width y : Nat) (marking : Marking) :
    Marking :=
  (List.range width).foldl (fun marking x => marking.pixel state (y * stride + x * 4 + boff))
    marking

/-- The outer loop. -/
def Marking.rows (state : WatermarkState) (stride boff width height : Nat) (marking : Marking) :
    Marking :=
  (List.range height).foldl (fun marking y => marking.row state stride boff width y) marking

/-- The buffer afterwards and the result. Neither pointer is null. -/
def dlpWatermarkApply (buffer : WlrBuffer) (state : WatermarkState) : WlrBuffer × Bool :=
  if !state.hasIdentity then (buffer, false)
  else
    match buffer.access with
    | none => (buffer, false)
    | some mapped =>
        let boff := blueOffset mapped.format
        if boff < 0 then (buffer, false)
        else
          let marked := Marking.rows state mapped.stride boff.toNat buffer.width.toNat
            buffer.height.toNat ⟨state.seed, 0, mapped.data⟩
          ({ buffer with access := some { mapped with data := marked.pixels } }, true)

/-- The buffer can be mapped and its format has a known blue byte. -/
def WlrBuffer.markable (buffer : WlrBuffer) : Bool :=
  buffer.access.any fun mapped => 0 ≤ blueOffset mapped.format

/-- The result tells whether the buffer was marked: the identity is set and the buffer
can be marked. -/
theorem dlpWatermarkApply_result (buffer : WlrBuffer) (state : WatermarkState) :
    (dlpWatermarkApply buffer state).2 = (state.hasIdentity && buffer.markable) := by
  unfold dlpWatermarkApply WlrBuffer.markable
  cases state.hasIdentity with
  | false => rfl
  | true =>
      cases buffer.access with
      | none => rfl
      | some mapped =>
          by_cases supported : 0 ≤ blueOffset mapped.format
          · simp [supported, Int.not_lt.mpr supported]
          · simp [supported, Int.not_le.mp supported]

/-- A buffer that is not marked is left alone. -/
theorem dlpWatermarkApply_of_failed {buffer : WlrBuffer} {state : WatermarkState}
    (failed : (dlpWatermarkApply buffer state).2 = false) :
    (dlpWatermarkApply buffer state).1 = buffer := by
  rw [dlpWatermarkApply_result] at failed
  unfold dlpWatermarkApply
  cases identified : state.hasIdentity with
  | false => rfl
  | true =>
      cases mapped : buffer.access with
      | none => rfl
      | some mapping =>
          have unsupported : blueOffset mapping.format < 0 := by
            simpa [identified, WlrBuffer.markable, mapped] using failed
          simp [unsupported]

end CoderDesktop.Dlp
