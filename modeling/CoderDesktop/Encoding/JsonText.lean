import CoderDesktop.Encoding.Reader

/-!
# Compact JSON

Arrays of flat objects, whose members are texts and booleans, as compact JSON text.
`read_write` is the round trip.
-/

namespace CoderDesktop.Encoding.JsonText

/-- The values that occur. -/
inductive Scalar where
  | text (value : String)
  | bool (value : Bool)
deriving DecidableEq, Repr

/-- The members of an object, in order. -/
abbrev Members := List (String × Scalar)

/-! ## Writing -/

/-- The characters with an escape of two characters, and its second one. -/
def shortEscapes : List (Char × Char) :=
  [('"', '"'), ('\\', '\\'), ('\x08', 'b'), ('\x0c', 'f'), ('\n', 'n'), ('\r', 'r'), ('\t', 't')]

/-- A character inside a string, escaped where JSON needs it. -/
def writeChar (char : Char) : List Char :=
  match shortEscapes.lookup char with
  | some letter => ['\\', letter]
  | none => if char.toNat < 0x20 then '\\' :: 'u' :: writeNumber 16 4 char.toNat else [char]

/-- A string in quotes. -/
def writeText (text : String) : List Char :=
  '"' :: (text.toList.flatMap writeChar ++ ['"'])

/-- A value. -/
def writeScalar : Scalar → List Char
  | .text value => writeText value
  | .bool true => ['t', 'r', 'u', 'e']
  | .bool false => ['f', 'a', 'l', 's', 'e']

/-- A key and its value. -/
def writeMember (member : String × Scalar) : List Char :=
  writeText member.1 ++ ([':'] ++ writeScalar member.2)

/-- An object. -/
def writeObject (members : Members) : List Char := writeList '{' '}' writeMember members

/-- An array of objects. -/
def write (objects : List Members) : List Char := writeList '[' ']' writeObject objects

/-! ## Reading -/

open Reader

/-- What follows a backslash. -/
def readEscape : Reader Char
  | [] => none
  | letter :: rest =>
      if letter = 'u' then (number 16 4).map Char.ofNat rest
      else (shortEscapes.find? (·.2 = letter)).map fun escape => (escape.1, rest)

/-- One character of a string, with its escape resolved. -/
def readChar : Reader Char
  | [] => none
  | head :: rest => if head = '\\' then readEscape rest else some (head, rest)

/-- A string in quotes. -/
def readText : Reader String := after ['"'] ((itemsUntil '"' readChar).map String.ofList)

/-- A string, `true` or `false`. -/
def readScalar : Reader Scalar :=
  (readText.map .text).orElse <|
    (Reader.map (fun _ => .bool true) (literal ['t', 'r', 'u', 'e'])).orElse
      (Reader.map (fun _ => .bool false) (literal ['f', 'a', 'l', 's', 'e']))

/-- A key and its value. -/
def readMember : Reader (String × Scalar) :=
  readText.bind fun key => after [':'] (readScalar.map fun value => (key, value))

/-- An object. -/
def readObject : Reader Members := listOf '{' '}' readMember

/-- Nothing may follow the array. -/
def read (text : List Char) : Option (List Members) :=
  match listOf '[' ']' readObject text with
  | some (objects, []) => some objects
  | _ => none

/-! ## The round trip -/

/-- The short escapes are distinct, and none is `u`. -/
theorem shortEscapes_lookup : ∀ escape ∈ shortEscapes,
    escape.2 ≠ 'u' ∧ shortEscapes.find? (·.2 = escape.2) = some escape := by
  decide

/-- A short escape that is found is in the table. -/
theorem mem_of_lookup {char letter : Char} (found : shortEscapes.lookup char = some letter) :
    (char, letter) ∈ shortEscapes := by
  obtain ⟨earlier, later, split, -⟩ := List.lookup_eq_some_iff.mp found
  exact split ▸ List.mem_append_right earlier List.mem_cons_self

/-- A character is read back, escaped or not. -/
theorem reads_writeChar (char : Char) : Reads readChar (writeChar char) char := by
  intro rest
  unfold writeChar
  cases found : shortEscapes.lookup char with
  | some letter =>
      obtain ⟨notCode, finds⟩ := shortEscapes_lookup _ (mem_of_lookup found)
      simp [readChar, readEscape, notCode, finds]
  | none =>
      dsimp only
      split
      · rename_i control
        have code : Reads ((number 16 4).map Char.ofNat) (writeNumber 16 4 char.toNat)
            (Char.ofNat char.toNat) := .map _ (.number (by decide) (by decide) (by omega))
        rw [Char.ofNat_toNat] at code
        exact code rest
      · have plain : char ≠ '\\' := by
          rintro rfl
          exact absurd found (by decide)
        simp [readChar, plain]

/-- No character starts with a quote. -/
theorem apart_writeChar (char : Char) : Reads.Apart '"' (writeChar char) := by
  unfold writeChar
  cases found : shortEscapes.lookup char with
  | some letter => exact ⟨'\\', [letter], rfl, by decide⟩
  | none =>
      dsimp only
      split
      · exact ⟨'\\', _, rfl, by decide⟩
      · refine ⟨char, [], rfl, ?_⟩
        rintro rfl
        exact absurd found (by decide)

/-- A string is read back. -/
theorem reads_writeText (text : String) : Reads readText (writeText text) text := by
  have chars : Reads (itemsUntil '"' readChar) (text.toList.flatMap writeChar ++ ['"'])
      text.toList :=
    .itemsUntil (fun char _ => reads_writeChar char) fun char _ => apart_writeChar char
  have reads := (chars.map String.ofList).after ['"']
  rwa [String.ofList_toList] at reads

/-- A value is read back. -/
theorem reads_writeScalar (value : Scalar) : Reads readScalar (writeScalar value) value := by
  cases value with
  | text value => exact .orElse_left ((reads_writeText value).map _)
  | bool value =>
      cases value with
      | true => exact .orElse_right (fun _ => rfl) (.orElse_left ((Reads.literal _).map _))
      | false =>
          exact .orElse_right (fun _ => rfl)
            (.orElse_right (fun _ => rfl) ((Reads.literal _).map _))

/-- A member is read back. -/
theorem reads_writeMember (member : String × Scalar) :
    Reads readMember (writeMember member) member :=
  (reads_writeText member.1).bind (((reads_writeScalar member.2).map _).after [':'])

/-- An object is read back. -/
theorem reads_writeObject (members : Members) :
    Reads readObject (writeObject members) members :=
  .listOf (by decide) (fun member _ => reads_writeMember member)
    fun member _ => ⟨'"', _, rfl, by decide⟩

/-- An array of objects is read back. -/
theorem reads_write (objects : List Members) :
    Reads (listOf '[' ']' readObject) (write objects) objects := by
  refine .listOf (by decide) (fun members _ => reads_writeObject members) fun members _ => ?_
  cases members <;> exact ⟨'{', _, rfl, by decide⟩

/-- An array of objects is read back with nothing left over. -/
theorem read_write (objects : List Members) : read (write objects) = some objects := by
  have whole := reads_write objects []
  rw [List.append_nil] at whole
  rw [read, whole]

end CoderDesktop.Encoding.JsonText
