import Mathlib.Data.List.Sort
import Mathlib.Data.Prod.Lex
import Mathlib.Order.RelClasses

/-!
# Sorting by a comparison

A sort of which nothing is known but what a library promises: given a strict weak order it
rearranges a list so that no entry comes before one that is less.
-/

namespace CoderDesktop.Collections

universe u v w

variable {Entry : Type u}

/-- What a sort promises of a comparison that is a strict weak order, and of no other. -/
structure Sorts (sort : (Entry → Entry → Bool) → List Entry → List Entry) : Prop where
  perm {less : Entry → Entry → Bool} (order : IsStrictWeakOrder Entry (less · ·))
    (list : List Entry) : (sort less list).Perm list
  sorted {less : Entry → Entry → Bool} (order : IsStrictWeakOrder Entry (less · ·))
    (list : List Entry) : (sort less list).Pairwise fun entry later => less later entry = false

/-- An insertion sort is one of these. -/
theorem sorts_insertionSort :
    Sorts fun (less : Entry → Entry → Bool) list =>
      list.insertionSort fun entry later => less later entry = false where
  perm _ list := List.perm_insertionSort _ list
  sorted {less} order list := by
    have notBoth (a b : Entry) (forward : less a b = true) : less b a = false :=
      Bool.eq_false_iff.mpr fun back => order.irrefl _ (order.trans _ _ _ forward back)
    have total : Std.Total fun a b : Entry => less b a = false := ⟨fun a b => by
      cases forward : less b a with
      | false => exact .inl rfl
      | true => exact .inr (notBoth b a forward)⟩
    have trans : IsTrans Entry fun a b => less b a = false := ⟨fun a b c ab bc => by
      by_contra ca
      rw [Bool.not_eq_false] at ca
      -- What ties with `b` on the way from `c` to `a` is tied with both.
      by_cases below : less a b = true
      · exact Bool.false_ne_true (bc.symm.trans (order.trans _ _ _ ca below))
      by_cases above : less b c = true
      · exact Bool.false_ne_true (ab.symm.trans (order.trans _ _ _ above ca))
      have tie := order.incomp_trans a b c ⟨below, Bool.not_eq_true _ ▸ ab⟩
        ⟨above, Bool.not_eq_true _ ▸ bc⟩
      exact tie.2 ca⟩
    exact List.pairwise_insertionSort _ list

section Keys

variable {First : Type v} {Second : Type w} [LinearOrder First] [LinearOrder Second]

/-- The comparison by one key, and by another one where the first ties. -/
def lessByKeys (first : Entry → First) (second : Entry → Second) (a b : Entry) : Bool :=
  if cmp (first a) (first b) ≠ .eq then cmp (first a) (first b) = .lt
  else cmp (second a) (second b) = .lt

variable {first : Entry → First} {second : Entry → Second}

/-- Two keys compare lexicographically. -/
theorem lessByKeys_iff {a b : Entry} : lessByKeys first second a b = true ↔
    toLex (first a, second a) < toLex (first b, second b) := by
  rw [Prod.Lex.toLex_lt_toLex, lessByKeys]
  by_cases tie : cmp (first a) (first b) = .eq
  · rw [if_neg (not_not.mpr tie), decide_eq_true_iff, cmp_eq_lt_iff]
    rw [cmp_eq_eq_iff] at tie
    simp [tie]
  · rw [if_pos tie, decide_eq_true_iff, cmp_eq_lt_iff]
    rw [cmp_eq_eq_iff] at tie
    simp [tie]

/-- Comparing by two keys is a strict weak order. -/
theorem strictWeakOrder_lessByKeys :
    IsStrictWeakOrder Entry (lessByKeys first second · ·) := by
  have keys : IsStrictWeakOrder (First ×ₗ Second) (· < ·) :=
    isStrictWeakOrder_of_isOrderConnected
  have keyed : IsStrictWeakOrder Entry
      (Order.Preimage (fun a => toLex (first a, second a)) (· < ·)) := inferInstance
  have same : (fun a b => lessByKeys first second a b = true) =
      Order.Preimage (fun a => toLex (first a, second a)) (· < ·) :=
    funext fun a => funext fun b => propext lessByKeys_iff
  rw [same]
  exact keyed

end Keys

end CoderDesktop.Collections
