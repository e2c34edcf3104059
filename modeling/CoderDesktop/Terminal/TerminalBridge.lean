import Mathlib.Algebra.Order.BigOperators.Group.List
import Mathlib.Algebra.Order.Ring.Nat
import CoderDesktop.Data.SecureStorage

/-!
# Terminal output

The way of terminal output from the frames of the WebSocket to the page: a frame becomes
a text, the text its UTF-8 bytes again, and these go to the page as base64. Every frame
is decoded by itself, so a character that is split between two frames, a byte that is not
UTF-8 and a leading byte order mark do not come through.
-/

namespace CoderDesktop.Terminal

open Data Encoding

/-- `TerminalWebSocket::onBinaryMessage`: the text of the signal. -/
def onBinaryMessage (data : List UInt8) : String := fromUtf8 data

/-- What `TerminalBridge` puts out for a signal of its WebSocket. -/
def outputReceived (data : String) : String := toBase64 data

/-- The bytes the page gets, one payload after the other. -/
def received (frames : List (List UInt8)) : List UInt8 :=
  frames.flatMap fun data => Base64.decode (outputReceived (onBinaryMessage data)).toList

/-- U+FEFF -/
def mark : Char := Char.ofNat 0xfeff

/-- The frame is the UTF-8 form of a text that does not start with a byte order mark. -/
def IsText (data : List UInt8) : Prop :=
  ∃ text : String, ¬ hasMark text ∧ data = toUtf8 text

/-! ## One frame -/

/-- What `fromUtf8` keeps of the characters. -/
def withoutMark (chars : List Char) : List Char :=
  if chars.head? = some mark then chars.tail else chars

/-- The page decodes a frame to its text, without a mark in front. -/
theorem decode_outputReceived (data : List UInt8) :
    Base64.decode (outputReceived (onBinaryMessage data)).toList =
      Utf8.encode (withoutMark (Utf8.decode data)) := by
  rw [outputReceived, toBase64, String.toList_ofList, Base64.decode_encode, toUtf8, onBinaryMessage,
    fromUtf8]
  cases Utf8.decode data with
  | nil => rfl
  | cons first rest =>
      by_cases isMark : first = mark
      · simp [withoutMark, isMark, mark]
      · simp [withoutMark, isMark, show ¬ first = Char.ofNat 0xfeff from isMark]

/-- The page receives the texts of the frames, each without a mark in front. -/
theorem received_eq (frames : List (List UInt8)) :
    received frames =
      Utf8.encode (frames.flatMap fun data => withoutMark (Utf8.decode data)) := by
  simp only [received, decode_outputReceived, Utf8.encode, List.flatMap_assoc]

/-- Exactly a mark in front is lost. -/
theorem count_withoutMark (chars : List Char) :
    (withoutMark chars).count mark + (if chars.head? = some mark then 1 else 0) =
      chars.count mark := by
  cases chars with
  | nil => rfl
  | cons first rest =>
      by_cases isMark : first = mark
      · simp [withoutMark, isMark]
      · simp [withoutMark, isMark]

/-- A text comes through. -/
theorem withoutMark_decode_of_isText {data : List UInt8} (isText : IsText data) :
    Utf8.encode (withoutMark (Utf8.decode data)) = data := by
  obtain ⟨text, plain, rfl⟩ := isText
  rw [← decode_outputReceived, onBinaryMessage, outputReceived, toBase64, String.toList_ofList,
    Base64.decode_encode, fromUtf8_toUtf8 plain]

/-- A well-formed text without a mark in front. -/
theorem isText_of_decode {data : List UInt8} (plain : (Utf8.decode data).head? ≠ some mark)
    (wellFormed : Utf8.encode (Utf8.decode data) = data) : IsText data := by
  refine ⟨String.ofList (Utf8.decode data), ?_, ?_⟩
  · rwa [hasMark, String.toList_ofList]
  · rw [toUtf8, String.toList_ofList, wellFormed]

/-! ## All frames -/

/-- Sums are equal only if the terms are, when they are in order. -/
theorem eq_of_sum_le {Item : Type} {low high : Item → Nat} (le : ∀ item, low item ≤ high item)
    {items : List Item} (total : (items.map high).sum ≤ (items.map low).sum) :
    ∀ item ∈ items, low item = high item := by
  induction items with
  | nil => intro item member; cases member
  | cons first rest inductionHypothesis =>
      have here := le first
      have later : (rest.map low).sum ≤ (rest.map high).sum :=
        List.sum_le_sum fun item _ => le item
      simp only [List.map_cons, List.sum_cons] at total
      intro item member
      rcases List.mem_cons.mp member with rfl | member
      · omega
      · exact inductionHypothesis (by omega) item member

/-- The frames have as many byte order marks as the stream at most. -/
theorem sum_count_le (frames : List (List UInt8)) :
    (frames.map fun data => (Utf8.decode data).count mark).sum ≤
      Utf8.occurrences mark frames.flatten := by
  induction frames with
  | nil => exact Nat.zero_le _
  | cons data rest inductionHypothesis =>
      have here := Utf8.count_decode_le (show mark ≠ Utf8.replacement by decide) data
      have joined := Utf8.occurrences_append_le mark data rest.flatten
      simp only [List.map_cons, List.sum_cons, List.flatten_cons]
      omega

/-- The length of bytes made item by item. -/
theorem sum_length_flatMap {Item : Type} (items : List Item) (bytes : Item → List UInt8) :
    (items.flatMap bytes).length = (items.map fun item => (bytes item).length).sum :=
  List.length_flatMap

/-- No byte order mark is lost from a stream that comes through. -/
theorem no_mark_of_received {frames : List (List UInt8)}
    (faithful : received frames = frames.flatten) :
    ∀ data ∈ frames, (Utf8.decode data).head? ≠ some mark := by
  have counted : Utf8.occurrences mark frames.flatten =
      (frames.map fun data => (withoutMark (Utf8.decode data)).count mark).sum := by
    rw [← faithful, received_eq, Utf8.occurrences_encode, List.count_flatMap]
    rfl
  have le : ∀ data,
      (withoutMark (Utf8.decode data)).count mark ≤ (Utf8.decode data).count mark := by
    intro data
    have count := count_withoutMark (Utf8.decode data)
    omega
  have same := eq_of_sum_le le (counted ▸ sum_count_le frames)
  intro data member isMark
  have count := count_withoutMark (Utf8.decode data)
  have equal := same data member
  rw [if_pos isMark] at count
  omega

/-- The page gets the bytes of the stream, however it was split, exactly if every frame is
a text without a leading byte order mark. -/
theorem received_eq_flatten_iff (frames : List (List UInt8)) :
    received frames = frames.flatten ↔ ∀ data ∈ frames, IsText data := by
  constructor
  · intro faithful
    have plain := no_mark_of_received faithful
    have kept : ∀ data ∈ frames, withoutMark (Utf8.decode data) = Utf8.decode data :=
      fun data member => if_neg (plain data member)
    have lengths : (frames.map fun data => (Utf8.encode (Utf8.decode data)).length).sum ≤
        (frames.map List.length).sum := by
      rw [← List.length_flatten, ← faithful, received, sum_length_flatMap]
      refine le_of_eq (congrArg List.sum (List.map_congr_left fun data member => ?_))
      rw [decode_outputReceived, kept data member]
    intro data member
    have same := eq_of_sum_le Utf8.length_le_encode_decode lengths data member
    exact isText_of_decode (plain data member) (Utf8.encode_decode_of_length same.symm)
  · intro texts
    induction frames with
    | nil => rfl
    | cons data rest inductionHypothesis =>
        have later := inductionHypothesis
          fun other member => texts other (List.mem_cons_of_mem _ member)
        rw [List.flatten_cons, ← later, received, List.flatMap_cons, decode_outputReceived,
          withoutMark_decode_of_isText (texts data List.mem_cons_self)]
        rfl

/-- A character split between two frames is lost. -/
theorem received_ne_flatten : ¬ (∀ frames, received frames = frames.flatten) := by
  intro always
  have split := congrArg List.length (always [[0xc3], [0xa9]])
  revert split
  decide +kernel

end CoderDesktop.Terminal
