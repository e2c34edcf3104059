import CoderDesktop.Semantics.Run
import Mathlib.Data.List.Nodup
import Mathlib.Data.List.Perm.Basic

/-!
# Owned handles

Handles are numbered as they are created, used while they are held, and released. The
handles held and the handles released are a permutation of the handles created: none is
lost, and none is released twice. The rules are one for each thing that can be done with
a handle.
-/

namespace CoderDesktop.Semantics

universe u

variable {Call : Type u} (handle : Call → Nat) (releases : Call → Bool)

/-- The handles released by the calls of a log, in order. -/
def releasedIn (log : List Call) : List Nat := (log.filter releases).map handle

/-- No handle is used, or released, after it was released. -/
def UsedWhileOwned (log : List Call) : Prop :=
  ∀ before call after, log = before ++ call :: after →
    handle call ∉ releasedIn handle releases before

/-- Of the handles created so far, those held, and what the log did with them. -/
structure Owned (created : Nat) (held : List Nat) (log : List Call) : Prop where
  accounted : (held ++ releasedIn handle releases log).Perm (List.range created)
  used : UsedWhileOwned handle releases log

namespace Owned

variable {handle releases} {created : Nat} {held earlier later : List Nat} {log : List Call}
  {call : Call}

/-- Nothing was created. -/
theorem start : Owned handle releases 0 [] [] := by
  refine ⟨List.Perm.refl _, fun before call after split => ?_⟩
  simp at split

/-- A handle that is created is held. -/
theorem create (owned : Owned handle releases created held log) :
    Owned handle releases (created + 1) (held ++ [created]) log := by
  refine ⟨?_, owned.used⟩
  rw [List.range_succ, List.append_assoc]
  refine (List.perm_append_comm.append_left held).trans ?_
  rw [← List.append_assoc]
  exact owned.accounted.append_right _

/-- What is held and what was released are apart. -/
theorem nodup (owned : Owned handle releases created held log) :
    (held ++ releasedIn handle releases log).Nodup :=
  owned.accounted.nodup_iff.mpr List.nodup_range

/-- What is held was not released. -/
theorem not_released (owned : Owned handle releases created held log) {number : Nat}
    (holds : number ∈ held) : number ∉ releasedIn handle releases log :=
  fun released => (List.nodup_append.mp owned.nodup).2.2 number holds number released rfl

/-- A handle that was created and is not held was released once. -/
theorem released_once (owned : Owned handle releases created held log) {number : Nat}
    (isCreated : number < created) (notHeld : number ∉ held) :
    (releasedIn handle releases log).count number = 1 := by
  have known := owned.accounted.mem_iff.mpr (List.mem_range.mpr isCreated)
  refine List.count_eq_one_of_mem (List.nodup_append.mp owned.nodup).2.1 ?_
  exact (List.mem_append.mp known).resolve_left notHeld

/-- A call on a handle that was not released is one of its uses. -/
theorem used_snoc (used : UsedWhileOwned handle releases log)
    (owns : handle call ∉ releasedIn handle releases log) :
    UsedWhileOwned handle releases (log ++ [call]) := by
  intro before other after split
  rcases snoc_eq_split.mp split with ⟨-, rfl, rfl⟩ | ⟨rest, -, split⟩
  · exact owns
  · exact used before other rest split

/-- A handle that is held is used. -/
theorem use (owned : Owned handle releases created held log) (keeps : releases call = false)
    (holds : handle call ∈ held) : Owned handle releases created held (log ++ [call]) := by
  refine ⟨?_, used_snoc owned.used (owned.not_released holds)⟩
  have same : releasedIn handle releases (log ++ [call]) = releasedIn handle releases log := by
    simp [releasedIn, keeps]
  exact same ▸ owned.accounted

/-- A handle that is held is released. -/
theorem release (owned : Owned handle releases created (earlier ++ handle call :: later) log)
    (gives : releases call = true) :
    Owned handle releases created (earlier ++ later) (log ++ [call]) := by
  have holds : handle call ∈ earlier ++ handle call :: later := by simp
  refine ⟨?_, used_snoc owned.used (owned.not_released holds)⟩
  have more : releasedIn handle releases (log ++ [call]) =
      releasedIn handle releases log ++ [handle call] := by
    simp [releasedIn, gives]
  rw [more, ← List.append_assoc]
  refine (List.perm_append_singleton _ _).trans (List.Perm.trans ?_ owned.accounted)
  exact (List.perm_middle.symm : (handle call :: (earlier ++ later)).Perm _).append_right _

/-- Calls on held handles that release nothing. -/
theorem useAll {calls : List Call} (owned : Owned handle releases created held log)
    (keeps : ∀ call ∈ calls, releases call = false) (holds : ∀ call ∈ calls, handle call ∈ held) :
    Owned handle releases created held (log ++ calls) := by
  induction calls generalizing log with
  | nil => rwa [List.append_nil]
  | cons call rest inductionHypothesis =>
      have called := owned.use (keeps call List.mem_cons_self) (holds call List.mem_cons_self)
      rw [List.append_cons]
      exact inductionHypothesis called (fun other member => keeps other (.tail _ member))
        fun other member => holds other (.tail _ member)

/-- The handles a list of calls releases are given up, whatever else is held. -/
theorem releaseAll {calls : List Call}
    (owned : Owned handle releases created (calls.map handle ++ held) log)
    (gives : ∀ call ∈ calls, releases call = true) :
    Owned handle releases created held (log ++ calls) := by
  induction calls generalizing log with
  | nil => rwa [List.append_nil]
  | cons call rest inductionHypothesis =>
      have released : Owned handle releases created ([] ++ (rest.map handle ++ held))
          (log ++ [call]) := release owned (gives call List.mem_cons_self)
      rw [List.append_cons]
      exact inductionHypothesis released fun other member => gives other (.tail _ member)

end Owned

end CoderDesktop.Semantics
