import Mathlib.Data.List.Basic
import Mathlib.Data.Nat.ModEq
import Mathlib.Tactic.Ring

/-!
# Readers of texts

A reader takes a value off the front of a text. `Reads reader text value` says that it
takes exactly `text`, whatever follows it, and gives `value`. There is one rule for each
way to put readers together, so that the round trip of a format follows the shape of its
writer.
-/

namespace CoderDesktop.Encoding

universe u v

/-- A reader takes a value off the front of a text, or fails. -/
abbrev Reader (α : Type u) := List Char → Option (α × List Char)

/-- The reader takes exactly this text, whatever follows it. -/
def Reads {α : Type u} (reader : Reader α) (text : List Char) (value : α) : Prop :=
  ∀ rest, reader (text ++ rest) = some (value, rest)

namespace Reader

variable {α : Type u} {β : Type v}

/-- The second reader goes on where the first stopped. -/
def bind (reader : Reader α) (next : α → Reader β) : Reader β := fun text =>
  (reader text).bind fun taken => next taken.1 taken.2

/-- The value is converted. -/
def map (convert : α → β) (reader : Reader α) : Reader β := fun text =>
  (reader text).map fun taken => (convert taken.1, taken.2)

/-- The second reader tries where the first failed. -/
def orElse (first second : Reader α) : Reader α := fun text => (first text).or (second text)

/-- Exactly the expected text. -/
def literal (expected : List Char) : Reader Unit := fun text =>
  if text.take expected.length = expected then some ((), text.drop expected.length) else none

/-- A reader and then a separator. -/
def before (separator : List Char) (reader : Reader α) : Reader α :=
  reader.bind fun value => (literal separator).map fun _ => value

/-- A reader after an opening. -/
def after (opening : List Char) (reader : Reader α) : Reader α :=
  (literal opening).bind fun _ => reader

/-- Items up to a closing character; each step takes one character at least. -/
def takeUntil (close : Char) (item : Reader α) : Nat → Reader (List α)
  | 0, _ => none
  | _ + 1, [] => none
  | fuel + 1, head :: rest =>
      if head = close then some ([], rest)
      else (item (head :: rest)).bind fun taken =>
        (takeUntil close item fuel taken.2).map fun more => (taken.1 :: more.1, more.2)

/-- Items up to the closing character. -/
def itemsUntil (close : Char) (item : Reader α) : Reader (List α) := fun text =>
  takeUntil close item text.length text

/-- Items with commas between them, in brackets. -/
def listOf (opening close : Char) (item : Reader α) : Reader (List α) :=
  after [opening] <| orElse ((literal [close]).map fun _ => []) <|
    item.bind fun first => (itemsUntil close (after [','] item)).map (first :: ·)

/-- The digit a character stands for. -/
def digitValue (base : Nat) (char : Char) : Option Nat :=
  (List.range base).find? (Nat.digitChar · = char)

/-- A number of `width` digits that continues the digits of `high`. -/
def digitsAfter (base : Nat) : Nat → Nat → Reader Nat
  | 0, high, text => some (high, text)
  | _ + 1, _, [] => none
  | width + 1, high, head :: rest =>
      (digitValue base head).bind fun digit => digitsAfter base width (high * base + digit) rest

/-- A number of exactly `width` digits. -/
def number (base width : Nat) : Reader Nat := digitsAfter base width 0

end Reader

/-! ## Writers -/

/-- Items between brackets, with commas. -/
def writeList {α : Type u} (opening close : Char) (write : α → List Char) : List α → List Char
  | [] => [opening, close]
  | first :: rest =>
      opening :: (write first ++ ((rest.flatMap fun value => ',' :: write value) ++ [close]))

/-- The last `width` digits of a number. -/
def writeNumber (base : Nat) : Nat → Nat → List Char
  | 0, _ => []
  | width + 1, number =>
      Nat.digitChar (number / base ^ width % base) :: writeNumber base width number

namespace Reads

open Reader

variable {α : Type u} {β : Type v} {reader : Reader α} {text : List Char} {value : α}

/-- Readers read one after the other. -/
theorem bind {next : α → Reader β} {more : List Char} {result : β}
    (reads : Reads reader text value) (continues : Reads (next value) more result) :
    Reads (reader.bind next) (text ++ more) result := by
  intro rest
  rw [Reader.bind, List.append_assoc, reads]
  exact continues rest

/-- A conversion reads the same text. -/
theorem map (convert : α → β) (reads : Reads reader text value) :
    Reads (reader.map convert) text (convert value) := by
  intro rest
  rw [Reader.map, reads]
  rfl

/-- The first reader reads its text. -/
theorem orElse_left {second : Reader α} (reads : Reads reader text value) :
    Reads (reader.orElse second) text value := by
  intro rest
  rw [Reader.orElse, reads]
  rfl

/-- The second reads its text where the first fails. -/
theorem orElse_right {first : Reader α} (fails : ∀ rest, first (text ++ rest) = none)
    (reads : Reads reader text value) : Reads (first.orElse reader) text value := by
  intro rest
  rw [Reader.orElse, fails, reads]
  rfl

/-- A literal reads itself. -/
theorem literal (expected : List Char) : Reads (Reader.literal expected) expected () := by
  intro rest
  simp [Reader.literal]

/-- What follows is read, too. -/
theorem before {separator : List Char} (reads : Reads reader text value) :
    Reads (reader.before separator) (text ++ separator) value :=
  reads.bind ((Reads.literal separator).map _)

/-- What goes before is read, too. -/
theorem after (opening : List Char) (reads : Reads reader text value) :
    Reads (reader.after opening) (opening ++ text) value :=
  (Reads.literal opening).bind reads

end Reads

/-- A literal is not found where another character stands. -/
theorem Reader.literal_eq_none {expected head : Char} (other : head ≠ expected)
    (rest : List Char) : Reader.literal [expected] (head :: rest) = none := by
  simp [Reader.literal, other]

namespace Reads

open Reader

variable {α : Type u} {item : Reader α} {write : α → List Char} {opening close : Char}

/-- What starts with some other character than the closing one. -/
def Apart (close : Char) (text : List Char) : Prop :=
  ∃ head rest, text = head :: rest ∧ head ≠ close

/-- Items are read up to the end, by induction on the values. -/
theorem takeUntil {values : List α} (reads : ∀ value ∈ values, Reads item (write value) value)
    (apart : ∀ value ∈ values, Apart close (write value)) :
    ∀ (fuel : Nat) (rest : List Char), (values.flatMap write).length < fuel →
      Reader.takeUntil close item fuel (values.flatMap write ++ (close :: rest)) =
        some (values, rest) := by
  induction values with
  | nil =>
      intro fuel rest enough
      obtain ⟨fuel, rfl⟩ := Nat.exists_eq_add_one.mpr enough
      simp [Reader.takeUntil]
  | cons value values inductionHypothesis =>
      intro fuel rest enough
      obtain ⟨fuel, rfl⟩ := Nat.exists_eq_add_one.mpr (Nat.zero_lt_of_lt enough)
      obtain ⟨head, tail, starts, other⟩ := apart value List.mem_cons_self
      have taken := reads value List.mem_cons_self (values.flatMap write ++ (close :: rest))
      have more := inductionHypothesis (fun other member => reads other (.tail _ member))
        (fun other member => apart other (.tail _ member)) fuel rest (by
          simp only [List.flatMap_cons, starts, List.length_append, List.length_cons] at enough
          omega)
      rw [List.flatMap_cons, List.append_assoc]
      rw [starts, List.cons_append] at taken ⊢
      rw [Reader.takeUntil, if_neg other, taken, Option.bind_some, more]
      rfl

/-- Fuel for the whole text is enough. -/
theorem itemsUntil {values : List α} (reads : ∀ value ∈ values, Reads item (write value) value)
    (apart : ∀ value ∈ values, Apart close (write value)) :
    Reads (Reader.itemsUntil close item) (values.flatMap write ++ [close]) values := by
  intro rest
  rw [Reader.itemsUntil, List.append_assoc]
  refine takeUntil reads apart _ rest ?_
  simp

/-- A list is read back. -/
theorem listOf (comma : close ≠ ',') {values : List α}
    (reads : ∀ value ∈ values, Reads item (write value) value)
    (apart : ∀ value ∈ values, Apart close (write value)) :
    Reads (Reader.listOf opening close item) (writeList opening close write values) values := by
  cases values with
  | nil => exact .after [opening] (.orElse_left ((Reads.literal [close]).map _))
  | cons first rest =>
      refine .after [opening] (.orElse_right ?_ ?_)
      · intro follows
        obtain ⟨head, tail, starts, other⟩ := apart first List.mem_cons_self
        rw [Reader.map, starts]
        exact congrArg (Option.map _) (literal_eq_none other _)
      · have others : Reads (Reader.itemsUntil close (Reader.after [','] item))
            ((rest.flatMap fun value => ',' :: write value) ++ [close]) rest :=
          itemsUntil (fun value member => (reads value (.tail _ member)).after [','])
            fun value _ => ⟨',', write value, rfl, comma.symm⟩
        exact (reads first List.mem_cons_self).bind (others.map _)

/-! ## Numbers -/

/-- A digit is read as its value. -/
theorem digitValue_digitChar : ∀ base ≤ 16, ∀ digit < base,
    digitValue base (Nat.digitChar digit) = some digit := by
  decide

/-- A number is read back after higher digits, by induction on its width. -/
theorem digitsAfter {base : Nat} (small : base ≤ 16) (positive : 0 < base) (number : Nat) :
    ∀ width high, Reads (Reader.digitsAfter base width high) (writeNumber base width number)
      (high * base ^ width + number % base ^ width) := by
  intro width
  induction width with
  | zero =>
      intro high rest
      simp [Reader.digitsAfter, writeNumber, Nat.mod_one]
  | succ width inductionHypothesis =>
      intro high rest
      have digit := digitValue_digitChar base small _
        (Nat.mod_lt (number / base ^ width) positive)
      rw [writeNumber, List.cons_append, Reader.digitsAfter, digit, Option.bind_some,
        inductionHypothesis]
      have split : (high * base + number / base ^ width % base) * base ^ width +
          number % base ^ width = high * base ^ (width + 1) + number % base ^ (width + 1) := by
        rw [Nat.mod_pow_succ, pow_succ]
        ring
      rw [split]

/-- A number that has no more digits than are written. -/
theorem number {base width value : Nat} (small : base ≤ 16) (positive : 0 < base)
    (fits : value < base ^ width) :
    Reads (Reader.number base width) (writeNumber base width value) value := by
  have reads := digitsAfter small positive value width 0
  rwa [Nat.zero_mul, Nat.zero_add, Nat.mod_eq_of_lt fits] at reads

end Reads

end CoderDesktop.Encoding
