import CoderDesktop.Vpn.Bridge
import CoderDesktop.Vpn.Signals
import Mathlib.Data.List.Induction

/-!
# Agreement of the bridge and the helper

In a quiet world nothing is under way any more, so the bridge shows what the last
message told it. `Tracked` is the invariant behind agreement: either delivering
the queue makes the bridge show the helper's state, or something still under way
will report it. Three kinds of step can end it: a message that was overtaken by
a later change (`connected` and `error` are emitted outside the lock, and a reply
repeats what was read earlier), a failed `Start` while a tunnel is up, and a
failed `Stop` or `GetStatus` nothing else makes up for.
-/

namespace CoderDesktop.Vpn

open Semantics

/-- The call asks for a start. -/
def HelperCall.isStart : HelperCall → Bool
  | .start _ _ => true
  | .stop | .getStatus => false

/-- The helper state the bridge takes from a reply, if any. -/
def Reply.reports : Reply → Option HelperState
  | .startFailed _ => some .disconnected
  | .status state _ => some state
  | .started _ | .stopped | .stopFailed _ | .statusFailed _ => none

/-- The helper's state a message tells. -/
def Message.reports : Message → Option HelperState
  | .stateChanged signal => some signal.state
  | .reply answer => answer.reports

/-- An attempt, a `Start` call or a reply that will report a state is under way. -/
def unsettled (attempts : List Attempt) (calls : List HelperCall) (answers : List Reply) : Bool :=
  attempts.any (!·.phase.settled) || calls.any HelperCall.isStart || answers.any (·.reports.isSome)

namespace World

/-- No call, reply, signal or running setup is outstanding. -/
structure Quiet (world : World) : Prop where
  calls : world.calls = []
  answers : world.answers = []
  queue : world.queue = []
  running : ∀ current ∈ world.helper.attempts, current.phase.settled = true

/-- The bridge shows the helper's state and can act on it. -/
structure Agrees (world : World) : Prop where
  same : world.bridge.state = .reported world.helper.svc.state
  /-- `start` or `stop` would issue a call. -/
  unstuck : ∀ url token,
    (world.bridge.start url token).2.2 ≠ [] ∨ world.bridge.stop.2.2 ≠ []

/-- What the bridge shows after it has received the queue. -/
def shown (bridge : VpnBridge) (queue : List Message) : BridgeState :=
  (queue.foldl (fun current message => (current.receive message).1) bridge).state

/-- The step tells the bridge nothing that is out of date, and withholds nothing
the bridge still depends on. -/
def KeepsInformed (world : World) : WorldEvent → Prop
  | .helper (.advance attempt none) =>
      ∀ value ∈ world.helper.attempts[attempt]?, ∀ state ∈ value.phase.announces,
        world.helper.svc.state = state ∨
          unsettled (world.helper.attempts.eraseIdx attempt) world.calls world.answers
  | .sendReply index =>
      ∀ reply ∈ world.answers[index]?, ∀ state ∈ reply.reports,
        world.helper.svc.state = state ∨
          unsettled world.helper.attempts world.calls (world.answers.eraseIdx index)
  | .refuse index _ =>
      ∀ call ∈ world.calls[index]?, call.isStart ∨
        world.helper.svc.state = .disconnected ∨
        world.bridge.state = .reported world.helper.svc.state ∨
        world.calls.eraseIdx index ≠ [] ∨
        (∃ message ∈ world.queue, message.reports ≠ none) ∨
        unsettled world.helper.attempts [] world.answers
  | .userStart _ _ | .userStop | .helper _ | .execute _ | .deliver => True

instance (world : World) : (event : WorldEvent) → Decidable (world.KeepsInformed event)
  | .helper (.advance attempt none) =>
      inferInstanceAs (Decidable (∀ value ∈ world.helper.attempts[attempt]?,
        ∀ state ∈ value.phase.announces, world.helper.svc.state = state ∨
          unsettled (world.helper.attempts.eraseIdx attempt) world.calls world.answers = true))
  | .sendReply index =>
      inferInstanceAs (Decidable (∀ reply ∈ world.answers[index]?, ∀ state ∈ reply.reports,
        world.helper.svc.state = state ∨
          unsettled world.helper.attempts world.calls (world.answers.eraseIdx index) = true))
  | .refuse index _ =>
      inferInstanceAs (Decidable (∀ call ∈ world.calls[index]?, call.isStart = true ∨
        world.helper.svc.state = .disconnected ∨
        world.bridge.state = .reported world.helper.svc.state ∨
        world.calls.eraseIdx index ≠ [] ∨
        (∃ message ∈ world.queue, message.reports ≠ none) ∨
        unsettled world.helper.attempts [] world.answers = true))
  | .userStart _ _ | .userStop | .execute _ | .deliver | .helper (.start _)
  | .helper (.startRejected _) | .helper .shutdown | .helper (.advance _ (some _)) =>
      .isTrue trivial

/-- The queue, or something that is still to come, brings the helper's state to
the bridge. -/
def Tracked (world : World) : Prop :=
  shown world.bridge world.queue = .reported world.helper.svc.state ∨
    unsettled world.helper.attempts world.calls world.answers = true ∨
    (world.helper.svc.state ≠ .disconnected ∧ world.calls ≠ [] ∧
      ∀ message ∈ world.queue, message.reports = none)

/-! ## What the bridge shows -/

/-- The bridge shows the state that a message tells. -/
theorem receive_state (bridge : VpnBridge) (message : Message) :
    (bridge.receive message).1.state = message.reports.elim bridge.state .reported := by
  rcases message with signal | ⟨attempt⟩ | ⟨err⟩ | _ | ⟨err⟩ | ⟨state, coderURL⟩ | ⟨err⟩
  · simp only [VpnBridge.receive, VpnBridge.onStateChanged, Message.reports, Option.elim_some]
    split <;> simp_all
  · rfl
  · rfl
  · rfl
  · rfl
  · simp only [VpnBridge.receive, VpnBridge.onGetStatusFinished, Message.reports, Reply.reports,
      Option.elim_some]
    split <;> simp_all
  · rfl

/-- The last message that tells a state counts. -/
theorem shown_snoc (bridge : VpnBridge) (queue : List Message) (message : Message) :
    shown bridge (queue ++ [message]) = message.reports.elim (shown bridge queue) .reported := by
  simp [shown, List.foldl_append, receive_state]

/-- A queue that reports nothing leaves the bridge as it is. -/
theorem shown_of_silent {bridge : VpnBridge} {queue : List Message}
    (silent : ∀ message ∈ queue, message.reports = none) : shown bridge queue = bridge.state := by
  induction queue using List.reverseRecOn with
  | nil => rfl
  | append_singleton queue message inductionHypothesis =>
      rw [shown_snoc, silent message (by simp)]
      exact inductionHypothesis fun other member => silent other (List.mem_append_left _ member)

/-- Once a queued message reports a state, the bridge's own state is overwritten. -/
theorem shown_of_reports {queue : List Message} (left right : VpnBridge)
    (speaks : ∃ message ∈ queue, message.reports ≠ none) :
    shown left queue = shown right queue := by
  induction queue using List.reverseRecOn with
  | nil => obtain ⟨message, member, -⟩ := speaks; cases member
  | append_singleton queue message inductionHypothesis =>
      rw [shown_snoc, shown_snoc]
      cases reported : message.reports with
      | some state => rfl
      | none =>
          refine inductionHypothesis ?_
          obtain ⟨other, member, reports⟩ := speaks
          rcases List.mem_append.mp member with member | member
          · exact ⟨other, member, reports⟩
          · rw [List.mem_singleton.mp member] at reports
            exact absurd reported reports

/-- A queue tells a state or none. -/
theorem silent_or_speaks (queue : List Message) :
    (∀ message ∈ queue, message.reports = none) ∨ ∃ message ∈ queue, message.reports ≠ none := by
  by_cases silent : ∀ message ∈ queue, message.reports = none
  · exact .inl silent
  · exact .inr (by simpa using silent)

end World

/-! ## What is under way -/

section Replaced

variable {α : Type} {list : List α} {index : Nat} {value : α}

/-- Replacing an item exchanges its part. -/
theorem any_set (holds : α → Bool) (found : list[index]? = some value) (other : α) :
    (list.set index other).any holds = (holds other || (list.eraseIdx index).any holds) := by
  induction list generalizing index with
  | nil => cases found
  | cons head rest inductionHypothesis =>
      cases index with
      | zero => rfl
      | succ index =>
          have found : rest[index]? = some value := by simpa using found
          simp only [List.set_cons_succ, List.eraseIdx_cons_succ, List.any_cons,
            inductionHypothesis found, Bool.or_left_comm]

/-- An item and the others. -/
theorem any_found (holds : α → Bool) (found : list[index]? = some value) :
    list.any holds = (holds value || (list.eraseIdx index).any holds) := by
  have same : list.set index value = list := by
    obtain ⟨bounded, rfl⟩ := List.getElem?_eq_some_iff.mp found
    exact List.set_getElem_self bounded
  rw [← any_set holds found value, same]

end Replaced

/-- An attempt that announces its state late changes nothing else. -/
theorem Helper.Step.late {helper after : Helper} {attempt : AttemptId} {value : Attempt}
    {state : HelperState} {signals : List StateChanged}
    (taken : Helper.Step helper (.advance attempt none) after signals)
    (found : helper.attempts[attempt]? = some value)
    (isLate : value.phase.announces = some state) :
    after.svc = helper.svc ∧ (∃ errorMsg, signals = [⟨state, errorMsg⟩]) ∧
      after.attempts.any (!·.phase.settled) =
        (helper.attempts.eraseIdx attempt).any (!·.phase.settled) := by
  cases taken with
  | emitConnected running =>
      cases Option.some.inj (found.symm.trans running)
      obtain rfl := Option.some.inj isLate
      exact ⟨rfl, ⟨_, rfl⟩, by simp [setAttempt, any_set _ running, Phase.settled]⟩
  | emitError running =>
      cases Option.some.inj (found.symm.trans running)
      obtain rfl := Option.some.inj isLate
      exact ⟨rfl, ⟨_, rfl⟩, by simp [setAttempt, any_set _ running, Phase.settled]⟩
  | announce running => cases Option.some.inj (found.symm.trans running); cases isLate
  | succeed running => cases Option.some.inj (found.symm.trans running); cases isLate
  | save running => cases Option.some.inj (found.symm.trans running); cases isLate
  | controllerClosed running => cases Option.some.inj (found.symm.trans running); cases isLate
  | release running => cases Option.some.inj (found.symm.trans running); cases isLate
  | setError running => cases Option.some.inj (found.symm.trans running); cases isLate

/-- How a step of the helper bears on the bridge. -/
theorem Helper.Step.bearing {helper after : Helper} {event : HelperEvent}
    {signals : List StateChanged} (taken : Helper.Step helper event after signals) :
    after.attempts.any (!·.phase.settled) = true ∨
      (after.svc.state = helper.svc.state ∧ signals = [] ∧
        after.attempts.any (!·.phase.settled) = helper.attempts.any (!·.phase.settled)) ∨
      (∃ errorMsg, signals = [⟨after.svc.state, errorMsg⟩]) ∨
      ∃ attempt value state, event = .advance attempt none ∧
        helper.attempts[attempt]? = some value ∧ value.phase.announces = some state := by
  cases taken with
  | start accepted => exact .inl (by simp [Phase.settled])
  | startRejected => exact .inr (.inl ⟨rfl, rfl, rfl⟩)
  | shutdown =>
      by_cases down : helper.svc.state = .disconnected
      · exact .inr (.inl (by simp [HelperService.shutdown, down]))
      · exact .inr (.inr (.inl ⟨"", by simp [HelperService.shutdown, down]⟩))
  | announce running => exact .inl (by simp [setAttempt, any_set _ running, Phase.settled])
  | @succeed _ _ step _ running =>
      have due : step.next.settled = false := step.next_settled
      exact .inl (by simp [setAttempt, any_set _ running, due])
  | fail running => exact .inl (by simp [setAttempt, any_set _ running, Phase.settled])
  | save running => exact .inl (by simp [setAttempt, any_set _ running, Phase.settled])
  | release running => exact .inl (by simp [setAttempt, any_set _ running, Phase.settled])
  | setError running => exact .inl (by simp [setAttempt, any_set _ running, Phase.settled])
  | @controllerClosed attempt coderURL locals running =>
      by_cases active : helper.svc.controller = some attempt ∧ helper.svc.state = .connected
      · exact .inr (.inr (.inl ⟨"VPN tunnel connection lost", by
          simp only [HelperService.controllerClosed, if_pos active]⟩))
      · refine .inr (.inl ⟨?_, ?_, ?_⟩)
        · simp [HelperService.controllerClosed, active]
        · simp [HelperService.controllerClosed, active]
        · simp [setAttempt, any_set _ running, any_found _ running, Phase.settled]
  | emitConnected running => exact .inr (.inr (.inr ⟨_, _, _, rfl, running, rfl⟩))
  | emitError running => exact .inr (.inr (.inr ⟨_, _, _, rfl, running, rfl⟩))

section Unsettled

variable {attempts : List Attempt} {calls : List HelperCall} {answers : List Reply}

/-- An attempt under way is unsettled. -/
theorem unsettled_of_due (due : attempts.any (!·.phase.settled) = true) :
    unsettled attempts calls answers = true := by
  simp [unsettled, due]

/-- A new call adds its part. -/
theorem unsettled_snoc_call (call : HelperCall) :
    unsettled attempts (calls ++ [call]) answers =
      (call.isStart || unsettled attempts calls answers) := by
  simp only [unsettled, List.any_append, List.any_cons, List.any_nil, Bool.or_false]
  grind

/-- A new answer adds its part. -/
theorem unsettled_snoc_answer (answer : Reply) :
    unsettled attempts calls (answers ++ [answer]) =
      (answer.reports.isSome || unsettled attempts calls answers) := by
  simp only [unsettled, List.any_append, List.any_cons, List.any_nil, Bool.or_false]
  grind

/-- A call that is taken takes its part. -/
theorem unsettled_of_call {index : Nat} {call : HelperCall} (found : calls[index]? = some call) :
    unsettled attempts calls answers =
      (call.isStart || unsettled attempts (calls.eraseIdx index) answers) := by
  simp only [unsettled, any_found HelperCall.isStart found]
  grind

/-- An answer that is taken takes its part. -/
theorem unsettled_of_answer {index : Nat} {answer : Reply}
    (found : answers[index]? = some answer) :
    unsettled attempts calls answers =
      (answer.reports.isSome || unsettled attempts calls (answers.eraseIdx index)) := by
  simp only [unsettled, any_found (fun answer : Reply => answer.reports.isSome) found]
  grind

end Unsettled

namespace World

/-! ## Every informed step keeps the world tracked -/

/-- A signal with the helper's own state settles the matter. -/
theorem tracked_of_reports {world : World} (queue : List Message) (message : Message)
    (ends : world.queue = queue ++ [message])
    (current : message.reports = some world.helper.svc.state) : world.Tracked := by
  refine .inl ?_
  rw [ends, shown_snoc, current]
  rfl

/-- A step of the helper keeps the account. -/
theorem Tracked.helperStep {world : World} {event : HelperEvent} {after : Helper}
    {signals : List StateChanged} (tracked : world.Tracked)
    (informed : world.KeepsInformed (.helper event))
    (taken : Helper.Step world.helper event after signals) :
    (world.withHelper (after, signals)).Tracked := by
  rcases taken.bearing with
    due | ⟨same, rfl, still⟩ | ⟨errorMsg, rfl⟩ | ⟨attempt, value, state, rfl, found, isLate⟩
  · exact .inr (.inl (unsettled_of_due due))
  · have unchanged : unsettled after.attempts world.calls world.answers =
        unsettled world.helper.attempts world.calls world.answers := by
      simp only [unsettled, still]
    simpa only [Tracked, withHelper, List.map_nil, List.append_nil, same, unchanged] using tracked
  · exact tracked_of_reports _ _ rfl rfl
  · obtain ⟨same, ⟨errorMsg, rfl⟩, rest⟩ := taken.late found isLate
    rcases informed value found state isLate with current | others
    · refine tracked_of_reports _ _ rfl ?_
      rw [← current, ← same]
      rfl
    · refine .inr (.inl ?_)
      rw [← others]
      simp only [unsettled, withHelper, rest]

/-- Calls the user makes through the bridge. -/
theorem Tracked.userStart {world : World} {url token : String} (tracked : world.Tracked) :
    Tracked { world with
      bridge := (world.bridge.start url token).1
      calls := world.calls ++ (world.bridge.start url token).2.2 } := by
  unfold VpnBridge.start
  split
  · simpa using tracked
  · exact .inr (.inl (by simp [unsettled_snoc_call, HelperCall.isStart]))

/-- A stop of the user keeps the account. -/
theorem Tracked.userStop {world : World} (tracked : world.Tracked) :
    Tracked { world with
      bridge := world.bridge.stop.1
      calls := world.calls ++ world.bridge.stop.2.2 } := by
  unfold VpnBridge.stop
  split
  · simpa using tracked
  · rename_i active
    rcases tracked with shows | busy | ⟨up, -, silent⟩
    · rcases silent_or_speaks world.queue with silent | speaks
      · refine .inr (.inr ⟨fun down => active (.inl ?_), by simp, silent⟩)
        rw [← shown_of_silent silent, shows, down]
      · exact .inl ((shown_of_reports _ _ speaks).trans shows)
    · exact .inr (.inl (by simp [unsettled_snoc_call, busy]))
    · exact .inr (.inr ⟨up, by simp, silent⟩)

/-- Losing a call other than `Start` matters only if nothing else is tracked. -/
theorem Tracked.eraseCall {world : World} {index : Nat} {call : HelperCall}
    (tracked : world.Tracked) (answer : Reply) (found : world.calls[index]? = some call)
    (notStart : call.isStart = false)
    (covered : world.helper.svc.state = .disconnected ∨
      world.bridge.state = .reported world.helper.svc.state ∨
      world.calls.eraseIdx index ≠ [] ∨
      (∃ message ∈ world.queue, message.reports ≠ none) ∨
      unsettled world.helper.attempts [] world.answers = true) :
    Tracked { world with
      calls := world.calls.eraseIdx index
      answers := world.answers ++ [answer] } := by
  rcases tracked with shows | busy | ⟨up, -, silent⟩
  · exact .inl shows
  · refine .inr (.inl ?_)
    rw [unsettled_of_call found, notStart] at busy
    simpa [unsettled_snoc_answer] using .inr busy
  · rcases covered with down | same | more | ⟨message, member, speaks⟩ | busy
    · exact absurd down up
    · exact .inl ((shown_of_silent silent).trans same)
    · exact .inr (.inr ⟨up, more, silent⟩)
    · exact absurd (silent message member) speaks
    · refine .inr (.inl ?_)
      simp only [unsettled, List.any_append, List.any_nil, Bool.or_false] at busy ⊢
      grind

/-- The execution of a call keeps the account. -/
theorem Tracked.execute {world after : World} {index : Nat} {call : HelperCall} {reply : Reply}
    (tracked : world.Tracked) (found : world.calls[index]? = some call)
    (done : World.execute { world with calls := world.calls.eraseIdx index } call =
      some (after, reply)) :
    Tracked { after with answers := after.answers ++ [reply] } := by
  cases call with
  | getStatus =>
      obtain ⟨rfl, rfl⟩ : _ ∧ _ := by simpa [World.execute] using done
      exact .inr (.inl (by simp [unsettled_snoc_answer, Reply.reports]))
  | stop =>
      simp only [World.execute, Option.map_eq_some_iff] at done
      obtain ⟨⟨helper, signals⟩, taken, same⟩ := done
      obtain ⟨rfl, rfl⟩ := Prod.mk.inj same
      obtain ⟨⟩ | _ := Helper.step_eq_some_iff.mp taken
      by_cases down : world.helper.svc.state = .disconnected
      · have kept := tracked.eraseCall .stopped found rfl (.inl down)
        simpa [withHelper, HelperService.shutdown, down] using kept
      · refine tracked_of_reports world.queue (.stateChanged ⟨.disconnected, ""⟩) ?_ ?_
        · simp [withHelper, HelperService.shutdown, down]
        · simp [withHelper, HelperService.shutdown, down, Message.reports]
  | start url token =>
      simp only [World.execute] at done
      split at done
      · simp only [Option.map_eq_some_iff] at done
        obtain ⟨⟨helper, signals⟩, taken, same⟩ := done
        obtain ⟨rfl, rfl⟩ := Prod.mk.inj same
        cases Helper.step_eq_some_iff.mp taken
        exact .inr (.inl (unsettled_of_due (by simp [withHelper, Phase.settled])))
      · obtain ⟨rfl, rfl⟩ : _ ∧ _ := by simpa using done
        exact .inr (.inl (by simp [unsettled_snoc_answer, Reply.reports]))

/-- An answer keeps the account, if it keeps the bridge informed. -/
theorem Tracked.sendReply {world : World} {index : Nat} {reply : Reply}
    (tracked : world.Tracked) (found : world.answers[index]? = some reply)
    (informed : world.KeepsInformed (.sendReply index)) :
    Tracked { world with
      answers := world.answers.eraseIdx index
      queue := world.queue ++ [.reply reply] } := by
  cases reports : reply.reports with
  | some state =>
      rcases informed reply found state reports with current | others
      · exact tracked_of_reports _ _ rfl (by rw [current]; exact reports)
      · exact .inr (.inl others)
  | none =>
      rcases tracked with shows | busy | ⟨up, pending, silent⟩
      · refine .inl ?_
        rw [shown_snoc, Message.reports, reports]
        exact shows
      · rw [unsettled_of_answer found, reports] at busy
        exact .inr (.inl busy)
      · refine .inr (.inr ⟨up, pending, fun message member => ?_⟩)
        rcases List.mem_append.mp member with member | member
        · exact silent message member
        · rw [List.mem_singleton.mp member]
          exact reports

/-- Every event that keeps the bridge informed keeps the account. -/
theorem Tracked.step {world after : World} {event : WorldEvent} (tracked : world.Tracked)
    (informed : world.KeepsInformed event) (taken : world.next event = some after) :
    after.Tracked := by
  cases event with
  | userStart url token =>
      obtain rfl := Option.some.inj taken
      exact tracked.userStart
  | userStop =>
      obtain rfl := Option.some.inj taken
      exact tracked.userStop
  | helper event =>
      obtain ⟨⟨helper, signals⟩, step, rfl⟩ := Option.map_eq_some_iff.mp taken
      exact tracked.helperStep informed (Helper.step_eq_some_iff.mp step)
  | execute index =>
      simp only [next, Option.bind_eq_bind, Option.bind_eq_some_iff, Option.pure_def,
        Option.some.injEq] at taken
      obtain ⟨call, found, ⟨executed, reply⟩, done, rfl⟩ := taken
      exact tracked.execute found done
  | refuse index err =>
      obtain ⟨call, found, rfl⟩ := next_refuse.mp taken
      cases isStart : call.isStart with
      | false =>
          refine tracked.eraseCall _ found isStart ((informed call found).resolve_left ?_)
          simp [isStart]
      | true =>
          cases call with
          | start url token =>
              refine .inr (.inl ?_)
              simp [unsettled_snoc_answer, HelperCall.refused, Reply.reports]
          | _ => cases isStart
  | sendReply index =>
      obtain ⟨reply, found, -, rfl⟩ := next_sendReply.mp taken
      exact tracked.sendReply found informed
  | deliver =>
      obtain ⟨message, rest, queue, rfl⟩ := next_deliver.mp taken
      unfold Tracked at tracked ⊢
      rw [queue] at tracked
      refine tracked.imp id (Or.imp id fun waiting => ⟨waiting.1, waiting.2.1, ?_⟩)
      exact fun other member => waiting.2.2 other (List.mem_cons_of_mem _ member)

/-- A bridge just constructed is accounted for. -/
theorem Tracked.construct (helper : Helper) : (construct helper).Tracked := by
  by_cases down : helper.svc.state = .disconnected
  · exact .inl (by simp [World.construct, shown, VpnBridge.new, down])
  · exact .inr (.inr ⟨down, by simp [World.construct], by simp [World.construct]⟩)

/-- A tracked world in which nothing is under way agrees. -/
theorem Tracked.agrees {world : World} (tracked : world.Tracked) (quiet : world.Quiet) :
    world.Agrees := by
  have same : world.bridge.state = .reported world.helper.svc.state := by
    rcases tracked with shows | busy | ⟨-, pending, -⟩
    · rwa [quiet.queue] at shows
    · simp [unsettled, quiet.calls, quiet.answers] at busy
      obtain ⟨current, member, due⟩ := busy
      simp [quiet.running current member] at due
    · exact absurd quiet.calls pending
  refine ⟨same, fun url token => ?_⟩
  by_cases down : world.bridge.state = .reported .disconnected
  · simp [VpnBridge.start, down]
  · refine .inr ?_
    have idle : world.bridge.state ≠ .disconnecting := by simp [same]
    simp [VpnBridge.stop, down, idle]

/-! ## A step that misinforms can last -/

/-- Whatever is queued can be delivered, by induction on the queue. -/
theorem delivers (helper : Helper) (bridge : VpnBridge) (queue : List Message) :
    ∃ events final, Runs next ⟨helper, bridge, [], [], queue⟩ events final ∧
      final.helper = helper ∧ final.calls = [] ∧ final.answers = [] ∧ final.queue = [] ∧
      final.bridge.state = shown bridge queue := by
  induction queue generalizing bridge with
  | nil => exact ⟨[], _, .refl, rfl, rfl, rfl, rfl, rfl⟩
  | cons message queue inductionHypothesis =>
      obtain ⟨events, final, run, rest⟩ := inductionHypothesis (bridge.receive message).1
      have received : World.next ⟨helper, bridge, [], [], message :: queue⟩ .deliver = some _ :=
        next_deliver.mpr ⟨message, queue, rfl, rfl⟩
      exact ⟨_, final, .cons received run, rest⟩

/-- Replies that report nothing can be sent, and leave what the bridge shows. -/
theorem sends (helper : Helper) (bridge : VpnBridge) (answers : List Reply)
    (queue : List Message) (silent : ∀ answer ∈ answers, answer.reports = none)
    (maySend : ∀ answer ∈ answers, mayReply helper answer) :
    ∃ events final, Runs next ⟨helper, bridge, [], answers, queue⟩ events final ∧
      final.helper = helper ∧ final.calls = [] ∧ final.answers = [] ∧ final.queue = [] ∧
      final.bridge.state = shown bridge queue := by
  induction answers generalizing queue with
  | nil => exact delivers helper bridge queue
  | cons answer answers inductionHypothesis =>
      obtain ⟨events, final, run, same, calls, sent, received, shows⟩ :=
        inductionHypothesis (queue ++ [.reply answer])
          (fun other member => silent other (List.mem_cons_of_mem _ member))
          (fun other member => maySend other (List.mem_cons_of_mem _ member))
      have first : World.next ⟨helper, bridge, [], answer :: answers, queue⟩ (.sendReply 0) =
          some _ := next_sendReply.mpr ⟨answer, rfl, maySend answer List.mem_cons_self, rfl⟩
      refine ⟨_, final, .cons first run, same, calls, sent, received, ?_⟩
      rw [shows, shown_snoc, Message.reports, silent answer List.mem_cons_self]
      rfl

/-- An idle helper may answer anything. -/
theorem mayReply_of_idle {helper : Helper}
    (idle : ∀ current ∈ helper.attempts, current.phase.settled = true) (answer : Reply) :
    mayReply helper answer := by
  cases answer with
  | started attempt =>
      cases found : helper.attempts[attempt]? with
      | none => simp [mayReply, found]
      | some current =>
          have due := idle current (List.mem_of_getElem? found)
          simp only [mayReply, found, Option.all_some, decide_eq_true_eq]
          rintro announcing
          simp [announcing, Phase.settled] at due
  | _ => rfl

/-- Nothing more is going to report a state: the remaining calls can fail, the
remaining replies are sent, and everything is delivered. -/
theorem settles {world : World}
    (settled : unsettled world.helper.attempts world.calls world.answers = false) :
    ∃ events final, Runs next world events final ∧ final.Quiet ∧
      final.helper = world.helper ∧
      final.bridge.state = shown world.bridge world.queue := by
  obtain ⟨helper, bridge, calls, answers, queue⟩ := world
  induction calls generalizing answers with
  | nil =>
      simp only [unsettled, List.any_nil, Bool.or_false, Bool.or_eq_false_iff,
        List.any_eq_false] at settled
      have idle : ∀ current ∈ helper.attempts, current.phase.settled = true := by
        simpa using settled.1
      obtain ⟨events, final, run, same, called, sent, received, shows⟩ :=
        sends helper bridge answers queue (by simpa using settled.2)
          fun answer _ => mayReply_of_idle idle answer
      exact ⟨events, final, run, ⟨called, sent, received, by rwa [same]⟩, same, shows⟩
  | cons call calls inductionHypothesis =>
      have first : (call :: calls)[0]? = some call := rfl
      rw [unsettled_of_call first, Bool.or_eq_false_iff] at settled
      have silent : (call.refused ⟨"org.freedesktop.DBus.Error.Failed", ""⟩).reports = none := by
        cases call with
        | start url token => cases settled.1
        | stop | getStatus => rfl
      have refused : World.next ⟨helper, bridge, call :: calls, answers, queue⟩
          (.refuse 0 ⟨"org.freedesktop.DBus.Error.Failed", ""⟩) = some _ :=
        next_refuse.mpr ⟨call, first, rfl⟩
      obtain ⟨events, final, run, rest⟩ :=
        inductionHypothesis (answers ++ [call.refused _])
          (by rw [unsettled_snoc_answer, silent]; exact settled.2)
      exact ⟨_, final, .cons refused run, rest⟩

/-- After a step that does not keep the bridge informed nothing is going to
correct what the bridge shows. -/
theorem misled {world after : World} {event : WorldEvent} (taken : world.next event = some after)
    (uninformed : ¬ world.KeepsInformed event) :
    unsettled after.helper.attempts after.calls after.answers = false ∧
      shown after.bridge after.queue ≠ .reported after.helper.svc.state := by
  cases event with
  | userStart _ _ | userStop | execute _ | deliver => exact absurd trivial uninformed
  | helper event =>
      obtain ⟨⟨helper, signals⟩, step, rfl⟩ := Option.map_eq_some_iff.mp taken
      obtain ⟨attempt, rfl⟩ : ∃ attempt, event = .advance attempt none := by
        cases event with
        | advance attempt failure =>
            cases failure with
            | none => exact ⟨attempt, rfl⟩
            | some err => exact absurd trivial uninformed
        | _ => exact absurd trivial uninformed
      simp only [KeepsInformed, Option.mem_def, not_forall, not_or] at uninformed
      obtain ⟨value, found, state, isLate, outdated, settled⟩ := uninformed
      obtain ⟨same, ⟨errorMsg, rfl⟩, rest⟩ :=
        (Helper.step_eq_some_iff.mp step).late found isLate
      constructor
      · simpa [unsettled, withHelper, rest] using settled
      · simpa [withHelper, shown_snoc, Message.reports, same] using Ne.symm outdated
  | refuse index err =>
      obtain ⟨call, found, rfl⟩ := next_refuse.mp taken
      simp only [KeepsInformed, Option.mem_def, not_forall, not_or, not_not] at uninformed
      obtain ⟨_, isFound, notStart, -, differs, last, silent, settled⟩ := uninformed
      obtain rfl := Option.some.inj (found.symm.trans isFound)
      have mute : (call.refused err).reports = none := by
        cases call with
        | start url token => exact absurd rfl notStart
        | stop | getStatus => rfl
      constructor
      · rw [last, unsettled_snoc_answer, mute]
        simpa using settled
      · rw [shown_of_silent (by simpa using silent)]
        exact differs
  | sendReply index =>
      obtain ⟨reply, found, -, rfl⟩ := next_sendReply.mp taken
      simp only [KeepsInformed, Option.mem_def, not_forall, not_or] at uninformed
      obtain ⟨_, isFound, state, reports, outdated, settled⟩ := uninformed
      obtain rfl := Option.some.inj (found.symm.trans isFound)
      constructor
      · simpa using settled
      · rw [shown_snoc, Message.reports, reports]
        simpa using Ne.symm outdated

end World

/-! ## Results -/

/-- In runs that keep the bridge informed every quiet world agrees; any other
step can be continued to a quiet world that does not. -/
theorem agrees_iff_keepsInformed (helper : Helper) :
    (∀ events, Conforms World.next World.KeepsInformed (.construct helper) events →
      ∀ world, Visits World.next (.construct helper) events world → world.Quiet →
        world.Agrees) ∧
      ∀ events world event after, Runs World.next (.construct helper) events world →
        world.next event = some after → ¬ world.KeepsInformed event →
        ∃ later final, Runs World.next (.construct helper) (events ++ event :: later) final ∧
          final.Quiet ∧ ¬ final.Agrees := by
  constructor
  · rintro events conforms world ⟨before, later, rfl, run⟩ quiet
    refine World.Tracked.agrees ?_ quiet
    refine run.induct (fun _ world => world.Tracked) (.construct helper) ?_ conforms.ofAppend
    exact fun _ world event after _ tracked informed taken => tracked.step informed taken
  · intro events world event after run taken uninformed
    obtain ⟨settled, wrong⟩ := World.misled taken uninformed
    obtain ⟨later, final, rest, quiet, same, shows⟩ := World.settles settled
    refine ⟨later, final, run.trans (.cons taken rest), quiet, fun agrees => wrong ?_⟩
    rw [← shows, ← same]
    exact agrees.same

/-- The bridge starts the tunnel, the setup succeeds, and everything is delivered. -/
def connects : List WorldEvent :=
  [.execute 0, .sendReply 0, .deliver, .userStart "https://dev.coder.com" "token", .execute 0] ++
    List.replicate 11 (.helper (.advance 0 none)) ++ [.sendReply 0, .deliver, .deliver, .deliver]

/-- A run that keeps the bridge informed: the tunnel comes up and is stopped. -/
theorem agrees_connects_stop :
    ∀ world, Visits World.next (.construct .new)
        (connects ++ [.userStop, .execute 0, .sendReply 0, .deliver, .deliver]) world →
      world.Quiet → world.Agrees :=
  (agrees_iff_keepsInformed .new).1 _ (by decide)

/-- The tunnel comes up and polkit refuses the `Stop`. -/
def refusedStop : List WorldEvent :=
  connects ++
    [.userStop, .refuse 0 ⟨"org.freedesktop.DBus.Error.AccessDenied",
        "Polkit authorization denied for action: com.coder.Desktop.Helper.manage-vpn"⟩,
      .sendReply 0, .deliver]

/-- The bridge is left "disconnecting" next to a connected helper; neither `start`
nor `stop` would do anything. -/
theorem refusedStop_sticks :
    ¬ ∀ world, Visits World.next (.construct .new) refusedStop world → world.Quiet →
      world.Agrees := by
  refine not_visits_of_replay (fun world => world.bridge.state = .disconnecting ∧
    world.calls = [] ∧ world.answers = [] ∧ world.queue = [] ∧
    world.helper.svc.state = .connected ∧
    ∀ current ∈ world.helper.attempts, current.phase.settled = true) (by decide) ?_
  intro world reached agrees
  obtain ⟨stuck, calls, answers, queue, -, idle⟩ := of_decide_eq_true reached
  have same := (agrees ⟨calls, answers, queue, idle⟩).same
  rw [stuck] at same
  cases same

end CoderDesktop.Vpn
