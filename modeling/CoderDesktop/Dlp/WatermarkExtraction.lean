import Mathlib.Data.List.Flatten
import CoderDesktop.Collections.Scatter
import CoderDesktop.Dlp.Watermark

/-!
# Extracting the watermark

Which pixels are selected depends on the fingerprint and the size of the image, not on
what is in it. The loops therefore write the fingerprint bits, one after the other, into
the low bits at a list of addresses that is known beforehand, and where rows do not overlap
these addresses are distinct. Offsets within a row are those of memory that exists, so the
`int` product of the source does not overflow.
-/

namespace CoderDesktop.Dlp

open Collections

/-! ## The selected pixels -/

/-- The addresses of the blue bytes, in row-major order. -/
def blueAddresses (stride boff width height : Nat) : List Nat :=
  (List.range height).flatMap fun y => (List.range width).map fun x => y * stride + x * 4 + boff

/-- One number is drawn for each pixel; the pixel is selected if its low four bits are zero. -/
def selected : Xorshift128 → List Nat → List Nat
  | _, [] => []
  | rng, blue :: rest =>
      let (drawn, rng) := xorshift128Next rng
      if drawn &&& 0xF ≠ 0 then selected rng rest else blue :: selected rng rest

/-- The blue bytes of the selected pixels of an image. -/
def selectedBlues (state : WatermarkState) (width height : Int) (image : DataPtrAccess) :
    List Nat :=
  selected state.seed
    (blueAddresses image.stride (blueOffset image.format).toNat width.toNat height.toNat)

/-- The bit index at the selected pixel of the number. -/
def wrapped (position : Nat) : Fin 256 := ⟨position % 256, Nat.mod_lt _ (by decide)⟩

/-- The fingerprint bit at the selected pixel of the number. -/
def WatermarkState.bit (state : WatermarkState) (position : Nat) : Byte :=
  state.fingerprintBit (wrapped position)

/-- A byte with its low bit replaced by a fingerprint bit. -/
def WatermarkState.mark (state : WatermarkState) (position : Nat) (byte : Byte) : Byte :=
  (byte &&& 0xFE) ||| state.bit position

/-- The image after the marking. -/
def marked (state : WatermarkState) (width height : Int) (image : DataPtrAccess) : DataPtrAccess :=
  { image with data := scatter state.mark (selectedBlues state width height image) 0 image.data }

/-- The selected addresses are in order. -/
theorem selected_sublist (rng : Xorshift128) (blues : List Nat) :
    (selected rng blues).Sublist blues := by
  induction blues generalizing rng with
  | nil => exact .slnil
  | cons blue rest inductionHypothesis =>
      rw [selected]
      dsimp only
      split
      · exact (inductionHypothesis _).cons blue
      · exact (inductionHypothesis _).cons_cons blue

/-- Rows that do not overlap have their pixels at different addresses. -/
theorem nodup_blueAddresses {stride width : Nat} (padded : 4 * width ≤ stride)
    (boff height : Nat) : (blueAddresses stride boff width height).Nodup := by
  refine List.nodup_flatMap.mpr ⟨fun y _ => ?_, ?_⟩
  · refine List.nodup_range.map fun x x' same => ?_
    omega
  · refine List.pairwise_lt_range.imp fun {y y'} later => ?_
    rintro address inRow inRow'
    obtain ⟨x, xBound, rfl⟩ := List.mem_map.mp inRow
    obtain ⟨x', -, same⟩ := List.mem_map.mp inRow'
    rw [List.mem_range] at xBound
    -- The later row starts at least a row length further on.
    have rowStart : y * stride + stride ≤ y' * stride := by
      rw [← Nat.succ_mul]
      exact Nat.mul_le_mul_right stride later
    omega

/-! ## The loops -/

/-- The two loops visit the addresses one after the other. -/
theorem rows_eq_foldl (state : WatermarkState) (stride boff width height : Nat)
    (marking : Marking) :
    Marking.rows state stride boff width height marking =
      (blueAddresses stride boff width height).foldl
        (fun marking blue => Marking.pixel state blue marking) marking := by
  simp only [Marking.rows, Marking.row, blueAddresses, List.foldl_flatMap, List.foldl_map]

/-- The position starts at 0. -/
theorem wrapped_zero : wrapped 0 = 0 := rfl

/-- The position counts up and wraps. -/
theorem wrapped_succ (position : Nat) : wrapped (position + 1) = wrapped position + 1 := by
  apply Fin.ext
  simp [wrapped, Fin.val_add]

/-- The loops write the bits to the selected addresses. -/
theorem foldl_pixels (state : WatermarkState) (blues : List Nat) (rng : Xorshift128)
    (position : Nat) (pixels : Nat → Byte) :
    (blues.foldl (fun marking blue => Marking.pixel state blue marking)
        (Marking.mk rng (wrapped position) pixels)).pixels =
      scatter state.mark (selected rng blues) position pixels := by
  induction blues generalizing rng position pixels with
  | nil => rfl
  | cons blue rest inductionHypothesis =>
      rw [List.foldl_cons, selected, Marking.pixel]
      dsimp only
      split
      · exact inductionHypothesis _ _ _
      · rw [scatter, ← wrapped_succ]
        exact inductionHypothesis _ _ _

/-- Marking mapped memory of a known format. -/
theorem dlpWatermarkApply_eq {buffer : WlrBuffer} {mapped : DataPtrAccess}
    {state : WatermarkState} (accessed : buffer.access = some mapped)
    (identified : state.hasIdentity = true) (supported : 0 ≤ blueOffset mapped.format) :
    dlpWatermarkApply buffer state =
      ({ buffer with access := some (marked state buffer.width buffer.height mapped) }, true) := by
  have written := foldl_pixels state (blueAddresses mapped.stride (blueOffset mapped.format).toNat
    buffer.width.toNat buffer.height.toNat) state.seed 0 mapped.data
  rw [← rows_eq_foldl, wrapped_zero] at written
  unfold dlpWatermarkApply marked selectedBlues
  rw [← written]
  simp [identified, accessed, Int.not_lt.mpr supported]

/-! ## Low bits -/

section Bits

variable (state : WatermarkState) (position : Nat) (byte : Byte)

/-- A bit is 0 or 1. -/
theorem bit_and_low : state.bit position &&& 1 = state.bit position := by
  unfold WatermarkState.bit WatermarkState.fingerprintBit
  rw [BitVec.and_assoc, BitVec.and_self]

/-- A mark carries its bit. -/
theorem mark_and_low : state.mark position byte &&& 1 = state.bit position := by
  have cleared : byte &&& 0xFE &&& 1 = 0 := by
    rw [BitVec.and_assoc]
    exact BitVec.and_zero
  rw [WatermarkState.mark, BitVec.and_or_distrib_right, cleared, bit_and_low]
  exact BitVec.zero_or

end Bits

/-! ## Extraction -/

/-- The byte with these low bits, the least significant one first. -/
def byteOfBits (bits : Nat → Byte) : Byte :=
  (List.range 8).foldl (fun byte place => byte ||| bits place <<< place) 0

/-- The fingerprint with these bits. -/
def fingerprintOfBits (bits : Nat → Byte) (index : Fin 32) : Byte :=
  byteOfBits fun place => bits (8 * index + place)

/-- A byte is made of its bits. -/
theorem byteOfBits_shift :
    ∀ byte : Byte, byteOfBits (fun place => byte >>> place &&& 1) = byte := by
  decide +kernel

/-- The bits of the fingerprint are those of its bytes. -/
theorem bit_of_byte (state : WatermarkState) (index : Fin 32) {place : Nat} (bound : place < 8) :
    state.bit (8 * index + place) = state.fingerprint index >>> place &&& 1 := by
  have bits := index.isLt
  have position : (8 * index + place) % 256 = 8 * index + place := Nat.mod_eq_of_lt (by omega)
  have quotient : (8 * index + place) / 8 = index := by omega
  have remainder : (8 * index + place) % 8 = place := by omega
  simp [WatermarkState.bit, WatermarkState.fingerprintBit, wrapped, position, quotient, remainder]

/-- The same bits make the same byte. -/
theorem byteOfBits_congr {bits bits' : Nat → Byte} (same : ∀ place < 8, bits place = bits' place) :
    byteOfBits bits = byteOfBits bits' := by
  refine List.foldl_ext _ _ _ fun byte place member => ?_
  rw [same place (List.mem_range.mp member)]

/-- The first 256 bits determine the fingerprint. -/
theorem fingerprintOfBits_eq {bits : Nat → Byte} {state : WatermarkState}
    (same : ∀ position < 256, bits position = state.bit position) :
    fingerprintOfBits bits = state.fingerprint := by
  funext index
  have bound := index.isLt
  rw [fingerprintOfBits, ← byteOfBits_shift (state.fingerprint index)]
  refine byteOfBits_congr fun place small => ?_
  rw [same _ (by omega), bit_of_byte state index small]

/-- Reading the low bits of the selected pixels. -/
def extracted (state : WatermarkState) (width height : Int) (image : DataPtrAccess) :
    Fin 32 → Byte :=
  fingerprintOfBits fun position =>
    image.data ((selectedBlues state width height image).getD position 0) &&& 1

/-- The image carries the watermark: the selected pixels have the bits of the fingerprint in
turn, and if there are enough of them it can be read off. -/
structure Carries (state : WatermarkState) (width height : Int) (image : DataPtrAccess) :
    Prop where
  bits : ∀ position blue, (selectedBlues state width height image)[position]? = some blue →
    image.data blue &&& 1 = state.fingerprintBit (wrapped position)
  fingerprint : 256 ≤ (selectedBlues state width height image).length →
    extracted state width height image = state.fingerprint

/-- An image with the right bits carries the fingerprint. -/
theorem Carries.of_bits {state : WatermarkState} {width height : Int} {image : DataPtrAccess}
    (bits : ∀ position blue, (selectedBlues state width height image)[position]? = some blue →
      image.data blue &&& 1 = state.bit position) :
    Carries state width height image := by
  refine ⟨bits, fun enough => fingerprintOfBits_eq fun position small => ?_⟩
  have inList : position < (selectedBlues state width height image).length := by omega
  rw [List.getD_eq_getElem?_getD, List.getElem?_eq_getElem inList, Option.getD_some]
  exact bits position _ (List.getElem?_eq_getElem inList)

/-! ## Marking an image -/

section Images

variable (state : WatermarkState) (height : Int) {width : Int} {image : DataPtrAccess}

/-- Marking does not change which pixels are selected. -/
theorem selectedBlues_marked (other : WatermarkState) :
    selectedBlues other width height (marked state width height image) =
      selectedBlues other width height image := rfl

/-- No address is selected twice. -/
theorem nodup_selectedBlues (padded : 4 * width ≤ image.stride) :
    (selectedBlues state width height image).Nodup := by
  refine (selected_sublist _ _).nodup (nodup_blueAddresses ?_ _ _)
  omega

/-- A marked image carries the fingerprint. -/
theorem carries_marked (padded : 4 * width ≤ image.stride) :
    Carries state width height (marked state width height image) := by
  refine .of_bits fun position blue here => ?_
  rw [selectedBlues_marked] at here
  have written : (marked state width height image).data blue =
      state.mark (0 + position) (image.data blue) :=
    scatter_getElem (nodup_selectedBlues state height padded) here 0 image.data
  rw [written, mark_and_low, Nat.zero_add]

end Images

end CoderDesktop.Dlp
