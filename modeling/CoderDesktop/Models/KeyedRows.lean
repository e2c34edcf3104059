import Mathlib.Data.List.Basic
import Mathlib.Data.List.Induction
import Mathlib.Data.List.Nodup
import Mathlib.Data.List.Perm.Subperm
import Mathlib.Logic.Function.Basic

/-!
# Lists of keyed rows

A list shown by a view is brought up to date in place: rows whose key is gone are
removed from the back, rows whose key stays are overwritten at the position an index
built before has for the key, and the others are appended. The view follows through
the changes announced.

Where keys repeat, the index has the last position of each. The rows it hides are
`shadowed`, and no update reaches them.
-/

namespace CoderDesktop.Models

universe u v

/-- What a view is told of the rows. -/
inductive RowChange where
  | removed (row : Nat)
  | dataChanged (row : Nat)
  | inserted (row : Nat)
deriving DecidableEq, Repr

variable {Row : Type u} {Key : Type v} [DecidableEq Key] (key : Row → Key)

/-- Remove the rows whose key is not in the list, counting `row` down. -/
def removeMissing (keys : List Key) : Nat → List Row → List Row × List RowChange
  | 0, rows => (rows, [])
  | row + 1, rows =>
      if (rows[row]?).any (key · ∉ keys) then
        let result := removeMissing keys row (rows.eraseIdx row)
        (result.1, .removed row :: result.2)
      else removeMissing keys row rows

/-- The position of each key; a later row takes the key over. -/
def currentPositions (rows : List Row) : Key → Option Nat :=
  rows.zipIdx.foldl (fun positions entry => Function.update positions (key entry.1) (some entry.2))
    fun _ => none

/-- Overwrite the rows that have a position, append those that have none. -/
def applyRows (positions : Key → Option Nat) : List Row → List Row → List Row × List RowChange
  | [], rows => (rows, [])
  | row :: rest, rows =>
      match positions (key row) with
      | some index =>
          let result := applyRows positions rest (rows.set index row)
          (result.1, .dataChanged index :: result.2)
      | none =>
          let result := applyRows positions rest (rows ++ [row])
          (result.1, .inserted rows.length :: result.2)

/-- Make `rows` the list `new`, and tell the view how. -/
def setRows (new rows : List Row) : List Row × List RowChange :=
  let kept := removeMissing key (new.map key) rows.length rows
  let applied := applyRows key (currentPositions key kept.1) new kept.1
  (applied.1, kept.2 ++ applied.2)

/-- The rows with a later row of the same key. -/
def shadowed : List Row → List Row
  | [] => []
  | row :: rest => if key row ∈ rest.map key then row :: shadowed rest else shadowed rest

variable {key}

/-! ## The stages of an update -/

/-- Counting down, the rows behind the counter have been dealt with. -/
theorem removeMissing_append (keys : List Key) (front back : List Row) :
    (removeMissing key keys front.length (front ++ back)).1 =
      front.filter (key · ∈ keys) ++ back := by
  induction front using List.reverseRecOn generalizing back with
  | nil => rfl
  | append_singleton front row inductionHypothesis =>
      have atRow : (front ++ [row] ++ back)[front.length]? = some row := by simp
      have gone : (front ++ [row] ++ back).eraseIdx front.length = front ++ back := by
        rw [List.append_assoc, List.eraseIdx_append_of_length_le (Nat.le_refl _), Nat.sub_self]
        rfl
      rw [List.length_append, List.length_singleton, removeMissing, atRow, Option.any_some, gone]
      by_cases present : key row ∈ keys
      · rw [if_neg (by simpa using present), List.append_assoc, inductionHypothesis]
        simp [List.filter_append, present]
      · rw [if_pos (by simpa using present), inductionHypothesis]
        simp [List.filter_append, present]

/-- The rows whose keys are missing go. -/
theorem removeMissing_eq (keys : List Key) (rows : List Row) :
    (removeMissing key keys rows.length rows).1 = rows.filter (key · ∈ keys) := by
  simpa using removeMissing_append keys rows []

/-- The last row with a key has its position. -/
theorem currentPositions_concat (rows : List Row) (row : Row) :
    currentPositions key (rows ++ [row]) =
      Function.update (currentPositions key rows) (key row) (some rows.length) := by
  simp [currentPositions, List.zipIdx_append]

/-- A row that no later one hides is where the index says. -/
theorem currentPositions_of_last (before after : List Row) (row : Row)
    (last : key row ∉ after.map key) :
    currentPositions key (before ++ row :: after) (key row) = some before.length := by
  induction after using List.reverseRecOn with
  | nil => rw [currentPositions_concat, Function.update_self]
  | append_singleton after final inductionHypothesis =>
      have apart : key row ≠ key final := fun same => last (by simp [same])
      have regrouped :
          before ++ row :: (after ++ [final]) = (before ++ row :: after) ++ [final] := by
        simp
      rw [regrouped, currentPositions_concat, Function.update_of_ne apart]
      exact inductionHypothesis fun member => last (by simp [List.mem_map.mp member])

/-- A row with a later one of its key is shadowed. -/
theorem mem_shadowed {before after : List Row} {row : Row} (later : key row ∈ after.map key) :
    row ∈ shadowed key (before ++ row :: after) := by
  induction before with
  | nil => simp [shadowed, later]
  | cons head rest inductionHypothesis =>
      rw [List.cons_append, shadowed]
      split
      · exact List.mem_cons_of_mem _ inductionHypothesis
      · exact inductionHypothesis

/-- A row that the index does not send its key to is shadowed. -/
theorem mem_shadowed_of_moved {rows : List Row} {index : Nat} {row : Row}
    (found : rows[index]? = some row) (moved : currentPositions key rows (key row) ≠ some index) :
    row ∈ shadowed key rows := by
  obtain ⟨bound, atIndex⟩ := List.getElem?_eq_some_iff.mp found
  have split : rows = rows.take index ++ row :: rows.drop (index + 1) := by
    rw [← atIndex, List.getElem_cons_drop, List.take_append_drop]
  have front : (rows.take index).length = index := List.length_take_of_le (Nat.le_of_lt bound)
  rw [split] at moved ⊢
  refine mem_shadowed ?_
  by_contra last
  refine moved ?_
  rw [currentPositions_of_last _ _ _ last, front]

/-- Shadowed rows are rows. -/
theorem shadowed_subset (rows : List Row) : shadowed key rows ⊆ rows := by
  induction rows with
  | nil => exact List.Subset.refl _
  | cons row rest inductionHypothesis =>
      rw [shadowed]
      split
      · exact List.cons_subset_cons _ inductionHypothesis
      · exact List.subset_cons_of_subset _ inductionHypothesis

/-- A row is shadowed among some rows only if it is among all. -/
theorem shadowed_filter_subset (keep : Row → Bool) (rows : List Row) :
    shadowed key (rows.filter keep) ⊆ shadowed key rows := by
  induction rows with
  | nil => exact List.Subset.refl _
  | cons row rest inductionHypothesis =>
      intro other member
      by_cases kept : keep row
      · rw [List.filter_cons_of_pos kept, shadowed] at member
        rw [shadowed]
        by_cases later : key row ∈ (rest.filter keep).map key
        · have laterToo : key row ∈ rest.map key :=
            List.map_subset _ (List.filter_subset_self _) later
          rw [if_pos later] at member
          rw [if_pos laterToo]
          exact (List.cons_subset_cons _ inductionHypothesis) member
        · rw [if_neg later] at member
          split
          · exact List.mem_cons_of_mem _ (inductionHypothesis member)
          · exact inductionHypothesis member
      · rw [List.filter_cons_of_neg kept] at member
        rw [shadowed]
        split
        · exact List.mem_cons_of_mem _ (inductionHypothesis member)
        · exact inductionHypothesis member

/-! ## The rows after an update -/

omit [DecidableEq Key] in
/-- A row after applying is new, or stands at a position that no new row is sent to. -/
theorem mem_applyRows {positions : Key → Option Nat} {new rows : List Row} {row : Row}
    (member : row ∈ (applyRows key positions new rows).1) :
    row ∈ new ∨ ∃ index, rows[index]? = some row ∧
      ∀ other ∈ new, positions (key other) ≠ some index := by
  induction new generalizing rows with
  | nil =>
      obtain ⟨index, found⟩ := List.mem_iff_getElem?.mp member
      exact .inr ⟨index, found, fun _ none => (List.not_mem_nil none).elim⟩
  | cons head rest inductionHypothesis =>
      rw [applyRows] at member
      cases place : positions (key head) with
      | some position =>
          rw [place] at member
          rcases inductionHypothesis member with inRest | ⟨index, found, unreached⟩
          · exact .inl (List.mem_cons_of_mem _ inRest)
          · rw [List.getElem?_set] at found
            split at found
            · refine .inl ?_
              split at found
              · obtain rfl := Option.some.inj found
                exact List.mem_cons_self
              · cases found
            · rename_i elsewhere
              refine .inr ⟨index, found, List.forall_mem_cons.mpr ⟨?_, unreached⟩⟩
              rw [place]
              exact fun same => elsewhere (Option.some.inj same)
      | none =>
          rw [place] at member
          rcases inductionHypothesis member with inRest | ⟨index, found, unreached⟩
          · exact .inl (List.mem_cons_of_mem _ inRest)
          · rcases Nat.lt_or_ge index rows.length with inside | behind
            · rw [List.getElem?_append_left inside] at found
              refine .inr ⟨index, found, List.forall_mem_cons.mpr ⟨?_, unreached⟩⟩
              rw [place]
              exact nofun
            · rw [List.getElem?_append_right behind] at found
              have isHead := List.mem_of_getElem? found
              exact .inl (List.mem_cons.mpr (.inl (List.mem_singleton.mp isHead)))

/-- A row after an update is one of the new list, or was hidden before. -/
theorem mem_setRows {new rows : List Row} {row : Row} (member : row ∈ (setRows key new rows).1) :
    row ∈ new ∨ row ∈ shadowed key rows ∧ key row ∈ new.map key := by
  rw [setRows, removeMissing_eq] at member
  rcases mem_applyRows member with isNew | ⟨index, found, unreached⟩
  · exact .inl isNew
  · have kept := List.mem_filter.mp (List.mem_of_getElem? found)
    have present : key row ∈ new.map key := of_decide_eq_true kept.2
    refine .inr ⟨?_, present⟩
    refine shadowed_filter_subset (fun row => decide (key row ∈ new.map key)) rows ?_
    refine mem_shadowed_of_moved found ?_
    -- the new row of this key would be sent here
    obtain ⟨other, isNew, sameKey⟩ := List.mem_map.mp present
    rw [← sameKey]
    exact unreached other isNew

/-! ## Distinct keys -/

/-- With distinct keys no row is shadowed. -/
theorem shadowed_eq_nil {rows : List Row} (distinct : (rows.map key).Nodup) :
    shadowed key rows = [] := by
  induction rows with
  | nil => rfl
  | cons row rest inductionHypothesis =>
      obtain ⟨last, distinct⟩ := List.nodup_cons.mp distinct
      rw [shadowed, if_neg last, inductionHypothesis distinct]

/-- The index sends a key to a row that has it. -/
theorem currentPositions_sound {rows : List Row} {sought : Key} {index : Nat}
    (found : currentPositions key rows sought = some index) :
    (rows.map key)[index]? = some sought := by
  induction rows using List.reverseRecOn with
  | nil => cases found
  | append_singleton rows row inductionHypothesis =>
      rw [currentPositions_concat] at found
      by_cases same : sought = key row
      · subst same
        obtain rfl : rows.length = index := by simpa using found
        simp
      · rw [Function.update_of_ne same] at found
        have before := inductionHypothesis found
        obtain ⟨bound, -⟩ := List.getElem?_eq_some_iff.mp before
        rw [List.map_append, List.getElem?_append_left bound, before]

/-- A key has a position exactly when a row has it. -/
theorem isNone_currentPositions (rows : List Row) (sought : Key) :
    (currentPositions key rows sought).isNone = !decide (sought ∈ rows.map key) := by
  induction rows using List.reverseRecOn with
  | nil => simp [currentPositions]
  | append_singleton rows row inductionHypothesis =>
      rw [currentPositions_concat]
      by_cases same : sought = key row
      · simp [same]
      · rw [Function.update_of_ne same, inductionHypothesis]
        simp [same]

omit [DecidableEq Key] in
/-- Overwriting keeps the keys in place; the others are appended. -/
theorem keys_applyRows {positions : Key → Option Nat} {new rows : List Row}
    (sound : ∀ row ∈ new, ∀ index, positions (key row) = some index →
      (rows.map key)[index]? = some (key row)) :
    (applyRows key positions new rows).1.map key =
      rows.map key ++ (new.map key).filter fun sought => (positions sought).isNone := by
  induction new generalizing rows with
  | nil => simp [applyRows]
  | cons row rest inductionHypothesis =>
      obtain ⟨atRow, sound⟩ := List.forall_mem_cons.mp sound
      rw [applyRows]
      cases place : positions (key row) with
      | some index =>
          have sameKeys : (rows.set index row).map key = rows.map key := by
            obtain ⟨bound, same⟩ := List.getElem?_eq_some_iff.mp (atRow index place)
            rw [List.map_set, ← same, List.set_getElem_self]
          rw [inductionHypothesis (by rwa [sameKeys]), sameKeys]
          simp [place]
      | none =>
          rw [inductionHypothesis fun other member index found => ?_]
          · simp [place]
          · have before := sound other member index found
            obtain ⟨bound, -⟩ := List.getElem?_eq_some_iff.mp before
            rw [List.map_append, List.getElem?_append_left bound, before]

/-- The keys that stay keep their order; those that are new follow in theirs. -/
theorem keys_setRows (new rows : List Row) :
    (setRows key new rows).1.map key =
      (rows.map key).filter (fun sought => decide (sought ∈ new.map key)) ++
        (new.map key).filter fun sought => !decide (sought ∈ rows.map key) := by
  have kept : (rows.filter fun row => decide (key row ∈ new.map key)).map key =
      (rows.map key).filter fun sought => decide (sought ∈ new.map key) := by
    rw [List.filter_map]
    rfl
  rw [setRows, removeMissing_eq, keys_applyRows fun _ _ _ => currentPositions_sound, kept]
  simp only [isNone_currentPositions]
  congr 1
  refine List.filter_congr fun sought inNew => ?_
  congr 2
  rw [List.mem_map, List.mem_map, eq_iff_iff]
  constructor
  · rintro ⟨row, kept, same⟩
    exact ⟨row, (List.mem_filter.mp kept).1, same⟩
  · rintro ⟨row, member, rfl⟩
    exact ⟨row, List.mem_filter.mpr ⟨member, decide_eq_true inNew⟩, rfl⟩

/-- Where neither list repeats a key, neither do the rows after an update. -/
theorem nodup_keys_setRows {new rows : List Row} (distinctNew : (new.map key).Nodup)
    (distinct : (rows.map key).Nodup) : ((setRows key new rows).1.map key).Nodup := by
  rw [keys_setRows]
  refine (distinct.filter _).append (distinctNew.filter _) ?_
  intro sought stays isNew
  have before := (List.mem_filter.mp stays).1
  have notBefore := (List.mem_filter.mp isNew).2
  simp [before] at notBefore

/-- Where neither list repeats a key, the rows become those of the new list. -/
theorem setRows_perm {new rows : List Row} (distinctNew : (new.map key).Nodup)
    (distinct : (rows.map key).Nodup) : (setRows key new rows).1.Perm new := by
  have subset : (setRows key new rows).1 ⊆ new := by
    intro row member
    rcases mem_setRows member with isNew | ⟨hidden, -⟩
    · exact isNew
    · rw [shadowed_eq_nil distinct] at hidden
      cases hidden
  have sameKeys : ((setRows key new rows).1.map key).Perm (new.map key) := by
    refine (List.perm_ext_iff_of_nodup (nodup_keys_setRows distinctNew distinct)
      distinctNew).mpr fun sought => ?_
    rw [keys_setRows]
    simp only [List.mem_append, List.mem_filter, decide_eq_true_eq, Bool.not_eq_true',
      decide_eq_false_iff_not]
    tauto
  have nodup : (setRows key new rows).1.Nodup :=
    List.Nodup.of_map key (sameKeys.nodup_iff.mpr distinctNew)
  have length : new.length ≤ (setRows key new rows).1.length := by
    simpa using Nat.le_of_eq sameKeys.length_eq.symm
  exact (nodup.subperm subset).perm_of_length_le length

end CoderDesktop.Models
