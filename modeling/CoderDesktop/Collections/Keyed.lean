import Mathlib.Data.List.Perm.Basic
import Mathlib.Data.List.Basic

/-!
# Lists with keys

Updates in place of a list whose entries have distinct keys, and the keys of the
entries with a property: an update that takes the property from one entry takes its key
out and no other.
-/

namespace CoderDesktop.Collections

universe u v

variable {Entry : Type u} {Key : Type v} (key : Entry → Key)

/-- The keys of the entries with a property. -/
def keysWhere (has : Entry → Bool) (entries : List Entry) : List Key :=
  (entries.filter has).map key

variable {key} {has : Entry → Bool} {entries : List Entry} {write : Entry → Entry}

/-- Updates that keep keys and the property. -/
theorem keysWhere_map (keys : ∀ entry ∈ entries, key (write entry) = key entry)
    (same : ∀ entry ∈ entries, has (write entry) = has entry) :
    keysWhere key has (entries.map write) = keysWhere key has entries := by
  unfold keysWhere
  have kept : entries.filter (has ∘ write) = entries.filter has := List.filter_congr same
  rw [List.filter_map, List.map_map, kept]
  refine List.map_congr_left fun entry member => ?_
  exact keys entry (List.mem_filter.mp member).1

/-- Erasing an entry that does not count keeps the keys. -/
theorem keysWhere_eraseIdx {row : Nat} (within : row < entries.length)
    (without : has entries[row] = false) :
    keysWhere key has (entries.eraseIdx row) = keysWhere key has entries := by
  have split : entries = entries.take row ++ entries[row] :: entries.drop (row + 1) := by
    rw [← List.drop_eq_getElem_cons within, List.take_append_drop]
  have kept : entries.filter has =
      (entries.take row).filter has ++ (entries.drop (row + 1)).filter has := by
    conv_lhs => rw [split]
    rw [List.filter_append, List.filter_cons_of_neg (by simp [without])]
  unfold keysWhere
  rw [List.eraseIdx_eq_take_drop_succ, List.filter_append, kept]

variable [DecidableEq Key]

/-- An update that takes the property from the entries of one key. -/
theorem keysWhere_map_without {gone : Key}
    (keys : ∀ entry ∈ entries, key (write entry) = key entry)
    (without : ∀ entry ∈ entries, has (write entry) = (has entry && decide (key entry ≠ gone))) :
    keysWhere key has (entries.map write) =
      (keysWhere key has entries).filter fun other => decide (other ≠ gone) := by
  unfold keysWhere
  rw [List.filter_map, List.map_map, List.filter_map, List.filter_filter]
  have same : entries.filter (has ∘ write) = entries.filter fun entry =>
      ((fun other => decide (other ≠ gone)) ∘ key) entry && has entry := by
    refine List.filter_congr fun entry member => ?_
    exact (without entry member).trans (Bool.and_comm _ _)
  rw [same]
  refine List.map_congr_left fun entry member => ?_
  exact keys entry (List.mem_filter.mp member).1

/-- Distinct keys are one of them and the others. -/
theorem perm_cons_filter_ne {keys : List Key} {gone : Key} (distinct : keys.Nodup)
    (member : gone ∈ keys) :
    keys.Perm (gone :: keys.filter fun other => decide (other ≠ gone)) := by
  have erased : keys.erase gone = keys.filter fun other => decide (other ≠ gone) := by
    rw [distinct.erase_eq_filter]
    exact List.filter_congr fun other _ => by simp [bne, Bool.beq_eq_decide_eq]
  exact erased ▸ List.perm_cons_erase member

/-- Update the entry at the first position of a key, found by a search. -/
theorem modify_findIdx_eq_map (sought : Key) (write : Entry → Entry) {entries : List Entry}
    (distinct : (entries.map key).Nodup) :
    (match entries.findIdx? fun entry => key entry = sought with
      | some row => entries.modify row write
      | none => entries) =
      entries.map fun entry => if key entry = sought then write entry else entry := by
  induction entries with
  | nil => rfl
  | cons head rest inductionHypothesis =>
      obtain ⟨notAgain, distinct⟩ := List.nodup_cons.mp distinct
      rw [List.findIdx?_cons, List.map_cons]
      by_cases here : key head = sought
      · have others : ∀ entry ∈ rest, key entry ≠ sought := by
          intro entry member same
          exact notAgain (List.mem_map.mpr ⟨entry, member, same.trans here.symm⟩)
        have rest_eq : (rest.map fun entry => if key entry = sought then write entry else entry) =
            rest := by
          refine (List.map_congr_left fun entry member => ?_).trans (List.map_id rest)
          exact if_neg (others entry member)
        simp [here, rest_eq]
      · rw [← inductionHypothesis distinct]
        simp only [here, decide_false, Bool.false_eq_true, if_false]
        cases rest.findIdx? fun entry => key entry = sought with
        | none => rfl
        | some row => rfl

end CoderDesktop.Collections
