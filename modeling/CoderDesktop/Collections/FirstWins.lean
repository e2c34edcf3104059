import Mathlib.Data.List.Nodup

/-!
# The first entry of a key wins

One pass over a list that keeps an entry when no entry before it has its key. What is kept
are the entries that a search for their key finds first.
-/

namespace CoderDesktop.Collections

universe u v

variable {Entry : Type u} {Key : Type v} [DecidableEq Key] (key : Entry → Key)

/-- The entries of keys that are not `seen`, the first of each key. -/
def firstWins : List Key → List Entry → List Entry
  | _, [] => []
  | seen, entry :: rest =>
      if key entry ∈ seen then firstWins seen rest
      else entry :: firstWins (key entry :: seen) rest

variable {key}

/-- What is kept is the first of its key, of a key not seen before. -/
theorem mem_firstWins {seen : List Key} {list : List Entry} {entry : Entry} :
    entry ∈ firstWins key seen list ↔
      key entry ∉ seen ∧ list.find? (fun other => key other = key entry) = some entry := by
  induction list generalizing seen with
  | nil => simp [firstWins]
  | cons head rest inductionHypothesis =>
      rw [firstWins]
      by_cases same : key head = key entry
      · rw [List.find?_cons_of_pos (by simp [same]), Option.some.injEq]
        split
        next isSeen =>
          rw [inductionHypothesis, ← same]
          exact iff_of_false (fun kept => kept.1 isSeen) (fun kept => kept.1 isSeen)
        next unseen =>
          rw [List.mem_cons, inductionHypothesis, ← same]
          constructor
          · rintro (rfl | ⟨later, -⟩)
            · exact ⟨unseen, rfl⟩
            · exact absurd List.mem_cons_self later
          · rintro ⟨-, rfl⟩
            exact .inl rfl
      · have other : entry ≠ head := fun equal => same (congrArg key equal).symm
        rw [List.find?_cons_of_neg (by simp [same])]
        split
        next => exact inductionHypothesis
        next =>
          rw [List.mem_cons, inductionHypothesis, List.mem_cons, not_or]
          constructor
          · rintro (equal | ⟨⟨-, unseen⟩, first⟩)
            · exact absurd equal other
            · exact ⟨unseen, first⟩
          · rintro ⟨unseen, first⟩
            exact .inr ⟨⟨Ne.symm same, unseen⟩, first⟩

/-- No key is kept twice. -/
theorem nodup_map_firstWins (seen : List Key) (list : List Entry) :
    ((firstWins key seen list).map key).Nodup := by
  induction list generalizing seen with
  | nil => exact List.nodup_nil
  | cons head rest inductionHypothesis =>
      rw [firstWins]
      split
      next => exact inductionHypothesis seen
      next =>
        refine List.nodup_cons.mpr ⟨?_, inductionHypothesis _⟩
        rintro later
        obtain ⟨other, kept, same⟩ := List.mem_map.mp later
        exact (mem_firstWins.mp kept).1 (same ▸ List.mem_cons_self)

/-- Every key that occurs has its first entry. -/
theorem exists_mem_firstWins {list : List Entry} {entry : Entry} (member : entry ∈ list) :
    ∃ first ∈ firstWins key [] list,
      list.find? (fun other => key other = key entry) = some first := by
  obtain ⟨first, found⟩ : ∃ first, list.find? (fun other => key other = key entry) = some first :=
    Option.isSome_iff_exists.mp (List.find?_isSome.mpr ⟨entry, member, by simp⟩)
  have same : key first = key entry := by simpa using List.find?_some found
  exact ⟨first, mem_firstWins.mpr ⟨List.not_mem_nil, same ▸ found⟩, found⟩

end CoderDesktop.Collections
