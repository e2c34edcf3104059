import CoderDesktop.Updater.AutoUpdater
import CoderDesktop.Versions.SemVer

/-!
# Newer versions and precedence

`isNewerVersion` on semantic versions. It sees the three numbers, as far as an `int` holds
them, and nothing of a pre-release.
-/

namespace CoderDesktop.Updater

open Versions

/-! ## The numbers of a semantic version -/

/-- The text of a version, as a tag. -/
def tag (prefixed : Bool) (version : SemVer) : String :=
  String.ofList (if prefixed then 'v' :: version.text else version.text)

/-- What an `int` makes of a number. -/
def held (number : Nat) : Int := if number < 0x80000000 then number else 0

/-- The numbers as the updater holds them. -/
def heldCore (version : SemVer) : Int ×ₗ Int ×ₗ Int :=
  toLex (held version.major, toLex (held version.minor, held version.patch))

/-- A number is read to its end. -/
theorem digits_toDigits (number : Nat) {rest : List Char}
    (ends : ∀ char ∈ rest.head?, char.isDigit = false) :
    digits (Nat.toDigits 10 number ++ rest) = some (Nat.toDigits 10 number, rest) := by
  have all : ∀ char ∈ Nat.toDigits 10 number, char.isDigit = true :=
    fun char member => Nat.isDigit_of_mem_toDigits (by decide) (Nat.le_refl 10) member
  have noneLeft : rest.takeWhile Char.isDigit = [] ∧ rest.dropWhile Char.isDigit = rest := by
    cases rest with
    | nil => exact ⟨rfl, rfl⟩
    | cons char rest =>
        have isEnd := ends char rfl
        exact ⟨List.takeWhile_cons_of_neg (by simp [isEnd]),
          List.dropWhile_cons_of_neg (by simp [isEnd])⟩
  rw [digits, List.takeWhile_append_of_pos all, List.dropWhile_append_of_pos all, noneLeft.1,
    noneLeft.2, List.append_nil, if_neg Nat.toDigits_ne_nil]

/-- A number is read as the updater holds it. -/
theorem toInt_toDigits (number : Nat) : toInt (Nat.toDigits 10 number) = held number := by
  rw [toInt, Nat.ofDigitChars_toDigits (by decide) (Nat.le_refl 10)]
  rfl

/-- The text of a version begins with a digit. -/
theorem exists_text_eq_cons (version : SemVer) :
    ∃ first rest, version.text = first :: rest ∧ first.isDigit = true := by
  obtain ⟨first, rest, shape⟩ := List.exists_cons_of_ne_nil
    (Nat.toDigits_ne_nil : Nat.toDigits 10 version.major ≠ [])
  have isDigit : first.isDigit = true :=
    Nat.isDigit_of_mem_toDigits (by decide) (Nat.le_refl 10) (shape ▸ List.mem_cons_self)
  rw [SemVer.text, SemVer.coreText, shape]
  exact ⟨first, _, rfl, isDigit⟩

/-- The prefix is dropped. -/
theorem text_of_tag (prefixed : Bool) (version : SemVer) :
    (if (tag prefixed version).toList.head? = some 'v' then (tag prefixed version).toList.tail
      else (tag prefixed version).toList) = version.text := by
  rw [tag, String.toList_ofList]
  cases prefixed with
  | true => rfl
  | false =>
      obtain ⟨first, rest, shape, isDigit⟩ := exists_text_eq_cons version
      refine if_neg fun isV => ?_
      rw [if_neg Bool.false_ne_true, shape] at isV
      cases isV
      cases isDigit

/-- The triple of a tag is that of its version. -/
theorem parseSemver_tag (prefixed : Bool) (version : SemVer) :
    parseSemver (tag prefixed version) =
      some (held version.major, held version.minor, held version.patch) := by
  have dotEnds (rest : List Char) : ∀ char ∈ ('.' :: rest).head?, char.isDigit = false := by
    rintro char isFirst
    cases isFirst
    rfl
  rw [parseSemver, text_of_tag, SemVer.text, SemVer.coreText]
  simp only [List.append_assoc, List.cons_append]
  rw [digits_toDigits _ (dotEnds _)]
  simp only [Option.bind_eq_bind, Option.bind_some, dot]
  rw [digits_toDigits _ (dotEnds _)]
  simp only [Option.bind_some]
  rw [digits_toDigits _ version.isDigit_head?_suffixes]
  simp only [Option.bind_some, toInt_toDigits]

/-! ## Precedence -/

/-- Tags are compared as the updater holds their numbers. -/
theorem isNewerVersion_tag_iff (prefixed prefixed' : Bool) (local_ remote : SemVer) :
    isNewerVersion (tag prefixed local_) (tag prefixed' remote) = true ↔
      heldCore local_ < heldCore remote := by
  rw [isNewerVersion_iff, Fallback.Before, numbers, numbers, parseSemver_tag, parseSemver_tag]
  rfl

/-- The comparison agrees with the precedence of two versions exactly if, where their
numbers are the same, the pre-release of the local one is not lower, and where they are
not, they compare the same when those that do not fit an `int` are taken for 0. -/
theorem isNewerVersion_precedence_iff (prefixed prefixed' : Bool) (local_ remote : SemVer) :
    (isNewerVersion (tag prefixed local_) (tag prefixed' remote) = true ↔
        local_.precedence < remote.precedence) ↔
      (local_.core = remote.core → ¬ local_.preReleaseKey < remote.preReleaseKey) ∧
        (local_.core ≠ remote.core →
          (heldCore local_ < heldCore remote ↔ local_.core < remote.core)) := by
  rw [isNewerVersion_tag_iff, SemVer.precedence, SemVer.precedence, Prod.Lex.toLex_lt_toLex]
  by_cases same : local_.core = remote.core
  · have sameHeld : heldCore local_ = heldCore remote := by
      simp only [SemVer.core, toLex_inj, Prod.mk.injEq] at same
      rw [heldCore, heldCore, same.1, same.2.1, same.2.2]
    simp only [same, sameHeld, lt_irrefl, false_or, true_and, false_iff, ne_eq, not_true_eq_false,
      false_imp_iff, and_true, true_imp_iff]
  · simp only [same, false_and, or_false, false_imp_iff, ne_eq, not_false_eq_true, true_imp_iff,
      true_and]

/-- A release candidate and the release after it. -/
theorem release_not_newer_than_candidate :
    ¬ ∀ (prefixed prefixed' : Bool) (local_ remote : SemVer),
      isNewerVersion (tag prefixed local_) (tag prefixed' remote) = true ↔
        local_.precedence < remote.precedence := by
  intro agrees
  let candidate : SemVer :=
    ⟨1, 0, 0,
      [.alphanumeric ['r', 'c'] (List.all_eq_true.mp rfl) ⟨'r', List.mem_cons_self, rfl⟩], []⟩
  let release : SemVer := ⟨1, 0, 0, [], []⟩
  have lower : candidate.precedence < release.precedence :=
    Prod.Lex.toLex_lt_toLex.mpr (.inr ⟨rfl, WithTop.coe_lt_top _⟩)
  have newer := (isNewerVersion_tag_iff false false candidate release).mp
    ((agrees false false candidate release).mpr lower)
  exact lt_irrefl _ newer

end CoderDesktop.Updater
