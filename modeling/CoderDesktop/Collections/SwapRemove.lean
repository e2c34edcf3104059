import Mathlib.Data.List.Basic
import Mathlib.Data.List.Perm.Basic

/-!
# Removal from an unordered array

The entry sought is overwritten by the last one, and the array shortened by one.
-/

namespace CoderDesktop.Collections

universe u

variable {Entry : Type u} [DecidableEq Entry]

/-- Remove the first occurrence; the last entry takes its place. -/
def swapRemove (sought : Entry) : List Entry → List Entry
  | [] => []
  | entry :: rest =>
      if entry = sought then
        match rest.getLast? with
        | some last => last :: rest.dropLast
        | none => []
      else entry :: swapRemove sought rest

/-- Up to order, one occurrence is gone. -/
theorem swapRemove_perm (sought : Entry) (entries : List Entry) :
    (swapRemove sought entries).Perm (entries.erase sought) := by
  induction entries with
  | nil => exact .refl _
  | cons entry rest inductionHypothesis =>
      by_cases found : entry = sought
      · subst found
        rw [swapRemove, if_pos rfl, List.erase_cons_head]
        cases last : rest.getLast? with
        | none =>
            obtain rfl := List.getLast?_eq_none_iff.mp last
            exact .refl _
        | some final =>
            have split : rest.dropLast ++ [final] = rest :=
              List.dropLast_append_getLast? final last
            have moved : (final :: rest.dropLast).Perm (rest.dropLast ++ [final]) :=
              (List.perm_append_singleton _ _).symm
            rwa [split] at moved
      · rw [swapRemove, if_neg found, List.erase_cons_tail (by simpa using found)]
        exact inductionHypothesis.cons entry

/-- All entries but the removed one stay. -/
theorem mem_swapRemove_iff {sought entry : Entry} {entries : List Entry}
    (distinct : entries.Nodup) :
    entry ∈ swapRemove sought entries ↔ entry ≠ sought ∧ entry ∈ entries := by
  rw [(swapRemove_perm sought entries).mem_iff, distinct.mem_erase_iff]

/-- What stays is distinct. -/
theorem nodup_swapRemove (sought : Entry) {entries : List Entry} (distinct : entries.Nodup) :
    (swapRemove sought entries).Nodup :=
  (swapRemove_perm sought entries).nodup_iff.mpr (distinct.erase sought)

end CoderDesktop.Collections
