import Mathlib.Data.List.Induction

/-!
# Sweeping a list from its end

A loop over the positions of a list, from the last one to the first, rewrites or removes
the item at each. As a removal only moves items that were visited before, every item is
visited once, at the position it had.
-/

namespace CoderDesktop.Collections

universe u

variable {Item : Type u} (visit : Nat → Item → Option Item)

/-- Visit one position: the item is replaced, or removed if nothing is returned for it. -/
def sweepAt (items : List Item) (position : Nat) : List Item :=
  match items[position]? with
  | none => items
  | some item =>
      match visit position item with
      | none => items.eraseIdx position
      | some kept => items.set position kept

/-- A visit replaces the item at its index, or drops it. -/
theorem sweepAt_length (front : List Item) (item : Item) (back : List Item) :
    sweepAt visit (front ++ item :: back) front.length =
      front ++ ((visit front.length item).toList ++ back) := by
  have here : (front ++ item :: back)[front.length]? = some item := by
    simp
  unfold sweepAt
  rw [here]
  dsimp only
  cases visit front.length item with
  | none => simp [List.eraseIdx_append_of_length_le]
  | some kept => simp

/-- What was visited stands behind the items that are still to come. -/
theorem foldl_sweepAt (items visited : List Item) :
    (List.range items.length).reverse.foldl (sweepAt visit) (items ++ visited) =
      (items.zipIdx.filterMap fun entry => visit entry.2 entry.1) ++ visited := by
  induction items using List.reverseRecOn generalizing visited with
  | nil => rfl
  | append_singleton items last inductionHypothesis =>
      have positions : (List.range (items ++ [last]).length).reverse =
          items.length :: (List.range items.length).reverse := by
        rw [List.length_append, List.length_singleton, List.range_succ, List.reverse_append]
        rfl
      rw [positions, List.foldl_cons, List.append_assoc, List.singleton_append, sweepAt_length,
        inductionHypothesis, List.zipIdx_append, List.filterMap_append, List.append_assoc]
      cases kept : visit items.length last with
      | none => simp [kept]
      | some other => simp [kept]

end CoderDesktop.Collections
