import Mathlib.Data.List.Basic
import Mathlib.Logic.Function.Basic

/-!
# Intrusive listeners

A listener embedded in a structure is linked into the list of at most one emitter.
Adding one that is linked, or removing one that is not, corrupts those lists; both are
recorded as faults. Listeners that belong together are added and removed in groups,
and a group is free of faults exactly when all its listeners were in the other state.
-/

namespace CoderDesktop.Signals

universe u v

/-- A use of a listener that corrupts a list. -/
inductive LinkFault (Listener : Type u) where
  | addedTwice (listener : Listener)
  | removedUnlinked (listener : Listener)
deriving DecidableEq, Repr

/-- Where each listener is linked, and what went wrong so far. -/
structure Links (Listener : Type u) (Emitter : Type v) where
  target : Listener → Option Emitter
  faults : List (LinkFault Listener)

namespace Links

variable {Listener : Type u} {Emitter : Type v}

/-- Zeroed memory. -/
def none : Links Listener Emitter := ⟨fun _ => .none, []⟩

variable [DecidableEq Listener] (links : Links Listener Emitter)

/-- `wl_signal_add` -/
def add (emitter : Emitter) (listener : Listener) : Links Listener Emitter where
  target := Function.update links.target listener (some emitter)
  faults :=
    if (links.target listener).isSome then links.faults ++ [.addedTwice listener]
    else links.faults

/-- `wl_list_remove` -/
def remove (listener : Listener) : Links Listener Emitter where
  target := Function.update links.target listener .none
  faults :=
    if (links.target listener).isSome then links.faults
    else links.faults ++ [.removedUnlinked listener]

/-- The listeners are linked in order. -/
def addAll (emitter : Emitter) (listeners : List Listener) : Links Listener Emitter :=
  listeners.foldl (·.add emitter ·) links

/-- The listeners are unlinked in order. -/
def removeAll (listeners : List Listener) : Links Listener Emitter :=
  listeners.foldl remove links

/-- Listeners that are linked have the emitter as their target. -/
theorem target_addAll (emitter : Emitter) (listeners : List Listener) (listener : Listener) :
    (links.addAll emitter listeners).target listener =
      if listener ∈ listeners then some emitter else links.target listener := by
  induction listeners generalizing links with
  | nil => rfl
  | cons head rest inductionHypothesis =>
      show ((links.add emitter head).addAll emitter rest).target listener = _
      rw [inductionHypothesis]
      by_cases later : listener ∈ rest
      · simp [later]
      · by_cases same : listener = head
        · simp [same, add]
        · simp [later, same, add]

/-- Listeners that are unlinked have none. -/
theorem target_removeAll (listeners : List Listener) (listener : Listener) :
    (links.removeAll listeners).target listener =
      if listener ∈ listeners then .none else links.target listener := by
  induction listeners generalizing links with
  | nil => rfl
  | cons head rest inductionHypothesis =>
      show ((links.remove head).removeAll rest).target listener = _
      rw [inductionHypothesis]
      by_cases later : listener ∈ rest
      · simp [later]
      · by_cases same : listener = head
        · simp [same, remove]
        · simp [later, same, remove]

/-- Linking is no fault for a listener that is not linked. -/
theorem faults_add_eq_nil_iff (emitter : Emitter) (listener : Listener) :
    (links.add emitter listener).faults = [] ↔
      links.faults = [] ∧ links.target listener = .none := by
  cases linked : links.target listener with
  | none => simp [add, linked]
  | some other => simp [add, linked]

/-- Unlinking is no fault for one that is. -/
theorem faults_remove_eq_nil_iff (listener : Listener) :
    (links.remove listener).faults = [] ↔
      links.faults = [] ∧ (links.target listener).isSome = true := by
  cases linked : links.target listener with
  | none => simp [remove, linked]
  | some other => simp [remove, linked]

/-- Adding a group is free of faults when none of it was linked. -/
theorem faults_addAll_eq_nil_iff (emitter : Emitter) {listeners : List Listener}
    (distinct : listeners.Nodup) :
    (links.addAll emitter listeners).faults = [] ↔
      links.faults = [] ∧ ∀ listener ∈ listeners, links.target listener = .none := by
  induction listeners generalizing links with
  | nil => simp [addAll]
  | cons head rest inductionHypothesis =>
      obtain ⟨notAgain, distinct⟩ := List.nodup_cons.mp distinct
      show ((links.add emitter head).addAll emitter rest).faults = [] ↔ _
      rw [inductionHypothesis _ distinct, faults_add_eq_nil_iff, List.forall_mem_cons, and_assoc]
      refine and_congr_right fun _ => and_congr_right fun _ => ?_
      refine forall₂_congr fun listener member => ?_
      have apart : listener ≠ head := fun same => notAgain (same ▸ member)
      simp [add, Function.update_of_ne apart]

/-- Removing a group is free of faults when all of it was linked. -/
theorem faults_removeAll_eq_nil_iff {listeners : List Listener} (distinct : listeners.Nodup) :
    (links.removeAll listeners).faults = [] ↔
      links.faults = [] ∧ ∀ listener ∈ listeners, (links.target listener).isSome = true := by
  induction listeners generalizing links with
  | nil => simp [removeAll]
  | cons head rest inductionHypothesis =>
      obtain ⟨notAgain, distinct⟩ := List.nodup_cons.mp distinct
      show ((links.remove head).removeAll rest).faults = [] ↔ _
      rw [inductionHypothesis _ distinct, faults_remove_eq_nil_iff, List.forall_mem_cons,
        and_assoc]
      refine and_congr_right fun _ => and_congr_right fun _ => ?_
      refine forall₂_congr fun listener member => ?_
      have apart : listener ≠ head := fun same => notAgain (same ▸ member)
      simp [remove, Function.update_of_ne apart]

end Links

end CoderDesktop.Signals
