import Mathlib.Data.Char
import Mathlib.Data.List.Lex
import Mathlib.Data.Prod.Lex
import Mathlib.Data.Sum.Order
import Mathlib.Order.Lattice.Nat
import Mathlib.Order.WithBot

/-!
# Semantic versions

Valid versions of Semantic Versioning 2.0, their text, and the precedence between them.
Build metadata is in the text and not in the precedence.
-/

namespace CoderDesktop.Versions

/-- `[0-9A-Za-z-]` -/
def isIdentifierChar (char : Char) : Bool := char.isAlphanum || char = '-'

/-- An identifier of a pre-release. One of digits alone is a number without leading zeros. -/
inductive PreReleaseIdentifier where
  | numeric (number : Nat)
  | alphanumeric (text : List Char) (chars : ∀ char ∈ text, isIdentifierChar char = true)
      (notNumeric : ∃ char ∈ text, char.isDigit = false)

namespace PreReleaseIdentifier

/-- The identifier as it is written. -/
def text : PreReleaseIdentifier → List Char
  | numeric number => Nat.toDigits 10 number
  | alphanumeric text _ _ => text

/-- Numbers come before texts. Texts are compared by their ASCII codes. -/
def key : PreReleaseIdentifier → Nat ⊕ₗ List Char
  | numeric number => toLex (.inl number)
  | alphanumeric text _ _ => toLex (.inr text)

end PreReleaseIdentifier

/-- An identifier of the build metadata. -/
structure BuildIdentifier where
  text : List Char
  notEmpty : text ≠ []
  chars : ∀ char ∈ text, isIdentifierChar char = true

/-- A version of the Semantic Versioning format. -/
structure SemVer where
  major : Nat
  minor : Nat
  patch : Nat
  /-- Empty for a normal version. -/
  preRelease : List PreReleaseIdentifier
  build : List BuildIdentifier

namespace SemVer

variable (version : SemVer)

/-- The three numbers as they are written. -/
def coreText : List Char :=
  Nat.toDigits 10 version.major ++ '.' ::
    (Nat.toDigits 10 version.minor ++ '.' :: Nat.toDigits 10 version.patch)

/-- A part of the text that is left out if it has no identifiers. -/
def suffix (mark : Char) (identifiers : List (List Char)) : List Char :=
  if identifiers = [] then [] else mark :: List.intercalate ['.'] identifiers

/-- The version as it is written. -/
def text : List Char :=
  version.coreText ++
    (suffix '-' (version.preRelease.map PreReleaseIdentifier.text) ++
      suffix '+' (version.build.map BuildIdentifier.text))

/-- The three numbers, compared in order. -/
def core : Nat ×ₗ Nat ×ₗ Nat := toLex (version.major, toLex (version.minor, version.patch))

/-- A normal version comes after its pre-releases. These are compared identifier by
identifier, and more identifiers come after fewer. -/
def preReleaseKey : WithTop (List (Nat ⊕ₗ List Char)) :=
  if version.preRelease = [] then ⊤ else (version.preRelease.map PreReleaseIdentifier.key :)

/-- The order of versions: the numbers, then the pre-release. -/
def precedence : (Nat ×ₗ Nat ×ₗ Nat) ×ₗ WithTop (List (Nat ⊕ₗ List Char)) :=
  toLex (version.core, version.preReleaseKey)

/-- Nothing that may follow the numbers is a digit. -/
theorem isDigit_head?_suffixes :
    ∀ char ∈ (suffix '-' (version.preRelease.map PreReleaseIdentifier.text) ++
      suffix '+' (version.build.map BuildIdentifier.text)).head?, char.isDigit = false := by
  unfold suffix
  intro char isFirst
  split at isFirst
  · split at isFirst
    · cases isFirst
    · cases isFirst
      rfl
  · cases isFirst
    rfl

end SemVer

end CoderDesktop.Versions
