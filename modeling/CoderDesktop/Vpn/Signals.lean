import CoderDesktop.Vpn.Helper

/-!
# What the last `StateChanged` signal says

`Observed` is the helper together with the last signal it has sent. `shutdown` and
the monitor emit while they hold the mutex; `Start`, `startTunnel` and `setError`
emit after releasing it, so another transition can come in between.
-/

namespace CoderDesktop.Vpn

open Semantics

/-- The attempt has neither a setup step nor an emission left. -/
def Phase.settled : Phase → Bool
  | .monitor | .done => true
  | .announce | .setup _ | .save | .emitConnected | .unwind _ _ | .emitError _ => false

/-- The state an emission outside the mutex announces as the last thing its
attempt does before it settles. -/
def Phase.announces : Phase → Option HelperState
  | .emitConnected => some .connected
  | .emitError _ => some .error
  | .announce | .setup _ | .save | .monitor | .unwind _ _ | .done => none

/-- A step of the setup does not settle. -/
theorem SetupStep.next_settled (step : SetupStep) : step.next.settled = false := by
  cases step <;> rfl

namespace Helper

/-- Every attempt but the given one has settled. -/
def OthersSettled (helper : Helper) (attempt : AttemptId) : Prop :=
  ∀ (other : Nat) (current : Attempt), other ≠ attempt → helper.attempts[other]? = some current →
    current.phase.settled = true

/-- No goroutine has a pending emission or setup step. -/
def Quiescent (helper : Helper) : Prop :=
  ∀ (other : Nat) (current : Attempt), helper.attempts[other]? = some current →
    current.phase.settled = true

/-- What a step of one attempt does to the attempts. -/
theorem attempts_setAttempt (helper : Helper) {attempt : AttemptId} {old value : Attempt}
    (running : helper.attempts[attempt]? = some old) (other : AttemptId) :
    (helper.setAttempt attempt value).attempts[other]? =
      if other = attempt then some value else helper.attempts[other]? := by
  have bound : attempt < helper.attempts.length := (List.getElem?_eq_some_iff.mp running).1
  rw [setAttempt, List.getElem?_set]
  by_cases same : other = attempt
  · subst same
    simp [bound]
  · simp [same, Ne.symm same]

/-- An attempt that moves on settles the helper exactly when it and the others are settled. -/
theorem quiescent_setAttempt {helper : Helper} {attempt : AttemptId} {old value : Attempt}
    (running : helper.attempts[attempt]? = some old) :
    (helper.setAttempt attempt value).Quiescent ↔
      value.phase.settled = true ∧ helper.OthersSettled attempt := by
  constructor
  · intro quiescent
    refine ⟨quiescent attempt value ?_, fun other current different found => ?_⟩
    · rw [attempts_setAttempt helper running, if_pos rfl]
    · refine quiescent other current ?_
      rw [attempts_setAttempt helper running, if_neg different, found]
  · rintro ⟨settled, others⟩ other current found
    rw [attempts_setAttempt helper running] at found
    split at found
    · obtain rfl := Option.some.inj found
      exact settled
    · exact others other current ‹_› found

/-- A helper is quiescent exactly when an attempt and the others are settled. -/
theorem quiescent_iff {helper : Helper} {attempt : AttemptId} {current : Attempt}
    (running : helper.attempts[attempt]? = some current) :
    helper.Quiescent ↔ current.phase.settled = true ∧ helper.OthersSettled attempt := by
  constructor
  · exact fun quiescent => ⟨quiescent _ _ running, fun other value _ => quiescent other value⟩
  · rintro ⟨settled, others⟩ other value found
    by_cases same : other = attempt
    · subst same
      obtain rfl := Option.some.inj (running.symm.trans found)
      exact settled
    · exact others other value same found

/-- Settled attempts make a quiescent helper. -/
theorem quiescent_of_all {helper : Helper}
    (settled : helper.attempts.all (·.phase.settled) = true) : helper.Quiescent :=
  fun _ _ found => List.all_eq_true.mp settled _ (List.mem_of_getElem? found)

/-- An emission that settles the last attempt announces the state of the service. -/
def AnnouncesCurrent (helper : Helper) : HelperEvent → Prop
  | .advance attempt none =>
      ∀ current ∈ helper.attempts[attempt]?, helper.OthersSettled attempt →
        ∀ state ∈ current.phase.announces, helper.svc.state = state
  | .start _ | .startRejected _ | .shutdown | .advance _ (some _) => True

/-- An attempt's announcement counts once the others are settled. -/
theorem announcesCurrent_iff {helper : Helper} {attempt : AttemptId} {current : Attempt}
    (running : helper.attempts[attempt]? = some current) :
    helper.AnnouncesCurrent (.advance attempt none) ↔
      (helper.OthersSettled attempt →
        ∀ state ∈ current.phase.announces, helper.svc.state = state) := by
  simp [AnnouncesCurrent, running]

end Helper

/-- The helper and the last signal it has sent. -/
structure Observed where
  helper : Helper
  last : Option StateChanged
deriving DecidableEq, Repr

namespace Observed

/-- No signal was emitted. -/
def new : Observed := ⟨.new, none⟩

/-- A step of the helper, with the last signal it emits. -/
def next (observed : Observed) (event : HelperEvent) : Option Observed :=
  (observed.helper.step event).map fun result => ⟨result.1, result.2.getLast?.or observed.last⟩

/-- A step of the helper, with the last of its signals. -/
theorem next_eq_some_iff {observed after : Observed} {event : HelperEvent} :
    observed.next event = some after ↔
      ∃ signals, Helper.Step observed.helper event after.helper signals ∧
        after.last = signals.getLast?.or observed.last := by
  obtain ⟨helper, last⟩ := after
  simp only [next, Option.map_eq_some_iff, ← Helper.step_eq_some_iff, Observed.mk.injEq]
  constructor
  · rintro ⟨⟨middle, signals⟩, taken, rfl, rfl⟩
    exact ⟨signals, taken, rfl⟩
  · rintro ⟨signals, taken, rfl⟩
    exact ⟨(helper, signals), taken, rfl, rfl⟩

/-- In a quiescent state the last signal carries what `GetStatus` returns. -/
def Truthful (observed : Observed) : Prop :=
  observed.helper.Quiescent → ∀ signal ∈ observed.last, signal.state = observed.helper.svc.state

/-- A step into an unsettled phase is followed by the emission that settles it. -/
private theorem truthful_of_unsettled {observed : Observed} {helper : Helper}
    {attempt : AttemptId} {old value : Attempt}
    (running : helper.attempts[attempt]? = some old)
    (attempts : observed.helper.attempts = (helper.setAttempt attempt value).attempts)
    (unsettled : value.phase.settled = false) : observed.Truthful := by
  intro quiescent
  have moved : (helper.setAttempt attempt value).Quiescent := fun other current found =>
    quiescent other current (attempts ▸ found)
  rw [((Helper.quiescent_setAttempt running).mp moved).1] at unsettled
  cases unsettled

/-- An emission that settles its attempt leaves a truthful state exactly when it
announces the state of the service, or something else is still pending. -/
private theorem truthful_emission_iff {helper : Helper} {attempt : AttemptId}
    {old value : Attempt} {signal : StateChanged}
    (running : helper.attempts[attempt]? = some old) (settled : value.phase.settled = true)
    (announces : old.phase.announces = some signal.state) :
    Truthful ⟨helper.setAttempt attempt value, some signal⟩ ↔
      helper.AnnouncesCurrent (.advance attempt none) := by
  rw [Helper.announcesCurrent_iff running, Truthful, Helper.quiescent_setAttempt running]
  simp [announces, settled, Helper.setAttempt, eq_comm]

/-- What decides, at each step, whether quiescent states stay truthful. -/
theorem truthful_step_iff (observed after : Observed) (event : HelperEvent)
    (truthful : observed.Truthful) (taken : observed.next event = some after) :
    after.Truthful ↔ observed.helper.AnnouncesCurrent event := by
  obtain ⟨helper, last⟩ := after
  obtain ⟨signals, step, sent⟩ := next_eq_some_iff.mp taken
  obtain rfl : last = signals.getLast?.or observed.last := sent
  cases step with
  | @start coderURL svc accepted =>
      refine iff_of_true (fun quiescent => ?_) trivial
      have pending := quiescent observed.helper.attempts.length ⟨coderURL, .announce, []⟩ (by simp)
      cases pending
  | startRejected rejected => exact iff_of_true truthful trivial
  | shutdown =>
      refine iff_of_true (fun quiescent => ?_) trivial
      simp only [HelperService.shutdown]
      split
      · exact truthful quiescent
      · simp
  | announce running =>
      refine iff_of_true (truthful_of_unsettled running rfl rfl) ?_
      exact (Helper.announcesCurrent_iff running).mpr fun _ _ announced => by cases announced
  | succeed running =>
      refine iff_of_true (truthful_of_unsettled running rfl (SetupStep.next_settled _)) ?_
      exact (Helper.announcesCurrent_iff running).mpr fun _ _ announced => by cases announced
  | fail running => exact iff_of_true (truthful_of_unsettled running rfl rfl) trivial
  | save running =>
      refine iff_of_true (truthful_of_unsettled running rfl rfl) ?_
      exact (Helper.announcesCurrent_iff running).mpr fun _ _ announced => by cases announced
  | emitConnected running => exact truthful_emission_iff running rfl rfl
  | controllerClosed running =>
      refine iff_of_true (fun quiescent => ?_)
        ((Helper.announcesCurrent_iff running).mpr fun _ _ announced => by cases announced)
      have others := ((Helper.quiescent_setAttempt running).mp quiescent).2
      simp only [HelperService.controllerClosed]
      split
      · simp
      · exact truthful ((Helper.quiescent_iff running).mpr ⟨rfl, others⟩)
  | release running =>
      refine iff_of_true (truthful_of_unsettled running rfl rfl) ?_
      exact (Helper.announcesCurrent_iff running).mpr fun _ _ announced => by cases announced
  | setError running =>
      refine iff_of_true (truthful_of_unsettled running rfl rfl) ?_
      exact (Helper.announcesCurrent_iff running).mpr fun _ _ announced => by cases announced
  | emitError running => exact truthful_emission_iff running rfl rfl

/-- Signals tell the truth in every quiescent state of a run exactly when no
emission that settles the helper comes after its state was left. -/
theorem truthful_iff_announcesCurrent (events : List HelperEvent) :
    (∀ observed, Visits next new events observed → observed.Truthful) ↔
      Conforms next (fun observed event => observed.helper.AnnouncesCurrent event) new events :=
  visits_iff_conforms (fun _ => True) Truthful (fun _ _ _ _ _ => trivial)
    (fun observed event after _ truthful taken =>
      truthful_step_iff observed after event truthful taken)
    trivial (fun _ _ none => by cases none) events

/-- `Stop` comes between the save of the tunnel and its "connected" signal. -/
theorem connected_after_stop_is_untruthful :
    ¬ ∀ observed, Visits next new
        (.start "https://dev.coder.com" :: List.replicate 10 (.advance 0 none) ++
          [.shutdown, .advance 0 none]) observed → observed.Truthful := by
  refine not_visits_of_replay (fun observed =>
    observed.helper.attempts.all (·.phase.settled) ∧ observed.last = some ⟨.connected, ""⟩ ∧
      observed.helper.svc.state = .disconnected) (by decide) ?_
  intro observed reached truthful
  obtain ⟨settled, last, state⟩ := of_decide_eq_true reached
  have same := truthful (Helper.quiescent_of_all settled) _ last
  rw [state] at same
  cases same

end Observed

end CoderDesktop.Vpn
