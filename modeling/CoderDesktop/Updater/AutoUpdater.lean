import Mathlib.Data.List.Lex
import Mathlib.Data.Prod.Lex
import Mathlib.Order.Lattice.Nat
import CoderDesktop.Versions.Fallback

/-!
# Newer versions

`AutoUpdater` compares the triples of numbers that two versions begin with, or the texts
where one of them begins otherwise. Each comparison is a strict order, the two together
are not transitive.
-/

namespace CoderDesktop.Updater

open Versions

/-! ## Reading a version -/

/-- `toInt` of a run of digits, which is 0 where an `int` does not hold the value. -/
def toInt (digits : List Char) : Int :=
  let value := Nat.ofDigitChars 10 digits 0
  if value < 0x80000000 then value else 0

/-- `(\d+)`, with what follows it. A shorter run would be followed by a digit. -/
def digits (text : List Char) : Option (List Char × List Char) :=
  if text.takeWhile Char.isDigit = [] then none
  else some (text.takeWhile Char.isDigit, text.dropWhile Char.isDigit)

/-- `\.` -/
def dot : List Char → Option (List Char)
  | '.' :: rest => some rest
  | _ => none

/-- The start of a version, `^v?(\d+)\.(\d+)\.(\d+)`. -/
def parseSemver (tag : String) : Option (Int × Int × Int) := do
  let text := if tag.toList.head? = some 'v' then tag.toList.tail else tag.toList
  let (major, text) ← digits text
  let text ← dot text
  let (minor, text) ← digits text
  let text ← dot text
  let (patch, _) ← digits text
  some (toInt major, toInt minor, toInt patch)

/-- The UTF-16 code units of a string, by which strings are compared. -/
def codeUnits (text : String) : List Nat :=
  text.toList.flatMap fun char =>
    if char.toNat < 0x10000 then [char.toNat]
    else [0xD800 + (char.toNat - 0x10000) / 0x400, 0xDC00 + (char.toNat - 0x10000) % 0x400]

/-- The triples are compared, or the texts where one has none. -/
def isNewerVersion (local_ remote : String) : Bool :=
  match parseSemver local_, parseSemver remote with
  | some (lMaj, lMin, lPat), some (rMaj, rMin, rPat) =>
      if rMaj ≠ lMaj then rMaj > lMaj
      else if rMin ≠ lMin then rMin > lMin
      else rPat > lPat
  | none, _ | some _, none => codeUnits remote > codeUnits local_

/-! ## The order -/

/-- The numbers of a version, to be compared from the left. -/
def numbers (tag : String) : Option (Int ×ₗ Int ×ₗ Int) :=
  (parseSemver tag).map fun (major, minor, patch) => toLex (major, toLex (minor, patch))

/-- The comparison is the one of triples with a fallback. -/
theorem isNewerVersion_iff (local_ remote : String) :
    isNewerVersion local_ remote = true ↔ Fallback.Before numbers codeUnits local_ remote := by
  unfold isNewerVersion Fallback.Before numbers
  cases parseSemver local_ with
  | none =>
      cases parseSemver remote with
      | none | some => simp only [Option.map_none, Option.map_some, decide_eq_true_eq, gt_iff_lt]
  | some left =>
      cases parseSemver remote with
      | none => simp only [Option.map_none, Option.map_some, decide_eq_true_eq, gt_iff_lt]
      | some right =>
          obtain ⟨lMaj, lMin, lPat⟩ := left
          obtain ⟨rMaj, rMin, rPat⟩ := right
          simp only [Option.map_some, Prod.Lex.toLex_lt_toLex]
          split
          · rw [decide_eq_true_eq]
            omega
          · split
            · rw [decide_eq_true_eq]
              omega
            · rw [decide_eq_true_eq]
              omega

/-- Being newer is irreflexive and asymmetric. It is transitive but for three versions of
which two begin with numbers and are ordered differently as texts, and the third comes
between them as a text. -/
theorem isNewerVersion_order (a b c : String) :
    isNewerVersion a a = false ∧
      ¬ (isNewerVersion a b = true ∧ isNewerVersion b a = true) ∧
      ((isNewerVersion a b = true → isNewerVersion b c = true → isNewerVersion a c = true) ↔
        ¬ Fallback.Conflict numbers codeUnits a b c) := by
  simp only [← Bool.not_eq_true, isNewerVersion_iff]
  refine ⟨Fallback.not_before_self, fun both => ?_, Fallback.trans_iff⟩
  exact Fallback.not_before_of_before both.1 both.2

/-- A version that is no triple stands between two that are. -/
theorem isNewerVersion_cycle :
    ¬ ∀ a b c : String,
      isNewerVersion a a = false ∧
        ¬ (isNewerVersion a b = true ∧ isNewerVersion b a = true) ∧
        (isNewerVersion a b = true → isNewerVersion b c = true → isNewerVersion a c = true) := by
  intro isOrder
  have older := (isOrder "10.0.0" "2" "9.0.0").2.2 (by decide +kernel) (by decide +kernel)
  revert older
  decide +kernel

end CoderDesktop.Updater
