import CoderDesktop.Vpn.Helper

/-!
# The latest command of the helper

`LatestCommandWins` says that a stop lasts until the next accepted `Start`, and
that an attempt older than the last command no longer touches the service. The
saves and error sections of `startTunnel` do not compare the attempt with the
service, so this holds when no command is accepted while an attempt is still
being set up, and every command that does overlap a setup can be undone by it.
-/

namespace CoderDesktop.Vpn

open Semantics

/-- An accepted `Start`, or a `Stop` or `Shutdown`. -/
def HelperEvent.isCommand : HelperEvent → Bool
  | .start _ | .shutdown => true
  | .startRejected _ | .advance _ _ => false

/-- The event is an accepted `Start`. -/
def HelperEvent.isStart : HelperEvent → Bool
  | .start _ => true
  | _ => false

/-- How many `Start` calls were accepted; the next one gets this attempt id. -/
def acceptedStarts (events : List HelperEvent) : Nat :=
  events.countP HelperEvent.isStart

/-- The last command is a stop. -/
def Stopped (events : List HelperEvent) : Prop :=
  ∃ before after, events = before ++ .shutdown :: after ∧ ∀ coderURL, .start coderURL ∉ after

/-- A command came after the `Start` of the attempt. -/
def Superseded (events : List HelperEvent) (attempt : Nat) : Prop :=
  ∃ before command after, events = before ++ command :: after ∧
    command.isCommand ∧ attempt < acceptedStarts before

/-- Every prefix of the run obeys its latest command. -/
structure LatestCommandWins (events : List HelperEvent) : Prop where
  /-- After a stop, and until the next accepted `Start`, the service is disconnected. -/
  staysDisconnected : ∀ before after helper, events = before ++ after →
    Runs Helper.next .new before helper → Stopped before → helper.svc.state = .disconnected
  /-- No step of an attempt or its monitor changes the service after a later command. -/
  supersededInert : ∀ before attempt failure after helper helper',
    events = before ++ .advance attempt failure :: after →
    Runs Helper.next .new before helper →
    helper.next (.advance attempt failure) = some helper' →
    Superseded before attempt → helper'.svc = helper.svc

/-- Commands are accepted only when no attempt is between its `Start` and the
end of its save or `setError`. -/
def CommandsWait (helper : Helper) : HelperEvent → Prop
  | .start _ | .shutdown => ∀ current ∈ helper.attempts, current.phase.inSetup = false
  | .startRejected _ | .advance _ _ => True

instance (helper : Helper) : (event : HelperEvent) → Decidable (CommandsWait helper event)
  | .start _ | .shutdown =>
      inferInstanceAs (Decidable (∀ current ∈ helper.attempts, current.phase.inSetup = false))
  | .startRejected _ | .advance _ _ => .isTrue trivial

/-! ## Histories -/

@[simp] theorem acceptedStarts_snoc (events : List HelperEvent) (event : HelperEvent) :
    acceptedStarts (events ++ [event]) =
      acceptedStarts events + if event.isStart then 1 else 0 := by
  simp [acceptedStarts, List.countP_append, List.countP_singleton]

/-- A later command supersedes the attempts before it. -/
theorem superseded_snoc {events : List HelperEvent} {event : HelperEvent} {attempt : Nat} :
    Superseded (events ++ [event]) attempt ↔
      Superseded events attempt ∨ (event.isCommand ∧ attempt < acceptedStarts events) := by
  constructor
  · rintro ⟨before, command, after, split, isCommand, earlier⟩
    rcases snoc_eq_split.mp split with ⟨rfl, rfl, rfl⟩ | ⟨rest, rfl, rfl⟩
    · exact .inr ⟨isCommand, earlier⟩
    · exact .inl ⟨before, command, rest, rfl, isCommand, earlier⟩
  · rintro (⟨before, command, after, rfl, isCommand, earlier⟩ | ⟨isCommand, earlier⟩)
    · exact ⟨before, command, after ++ [event], by simp, isCommand, earlier⟩
    · exact ⟨events, event, [], rfl, isCommand, earlier⟩

/-- A superseded attempt was started. -/
theorem Superseded.lt {events : List HelperEvent} {attempt : Nat}
    (superseded : Superseded events attempt) : attempt < acceptedStarts events := by
  obtain ⟨before, command, after, rfl, -, earlier⟩ := superseded
  calc attempt < acceptedStarts before := earlier
    _ ≤ acceptedStarts (before ++ command :: after) := by
      unfold acceptedStarts
      rw [List.countP_append]
      exact Nat.le_add_right _ _

/-- A shutdown stops, an accepted start ends that. -/
theorem stopped_snoc {events : List HelperEvent} {event : HelperEvent} :
    Stopped (events ++ [event]) ↔
      event = .shutdown ∨ (event.isStart = false ∧ Stopped events) := by
  constructor
  · rintro ⟨before, after, split, noStart⟩
    rcases snoc_eq_split.mp split with ⟨rfl, rfl, rfl⟩ | ⟨rest, rfl, rfl⟩
    · exact .inl rfl
    · refine .inr ⟨?_, before, rest, rfl, fun coderURL => ?_⟩
      · cases event with
        | start coderURL => exact absurd (by simp) (noStart coderURL)
        | startRejected _ | shutdown | advance _ _ => rfl
      · exact fun member => noStart coderURL (List.mem_append_left _ member)
  · rintro (rfl | ⟨notStart, before, after, rfl, noStart⟩)
    · exact ⟨events, [], rfl, by simp⟩
    · refine ⟨before, after ++ [event], by simp, fun coderURL member => ?_⟩
      rcases List.mem_append.mp member with member | member
      · exact noStart coderURL member
      · obtain rfl : HelperEvent.start coderURL = event := by simpa using member
        cases notStart

/-- Only commands supersede attempts or move the last stop. -/
theorem history_snoc_of_not_command (events : List HelperEvent) (event : HelperEvent)
    (notCommand : event.isCommand = false) :
    (∀ attempt, Superseded (events ++ [event]) attempt ↔ Superseded events attempt) ∧
      (Stopped (events ++ [event]) ↔ Stopped events) := by
  cases event with
  | start _ | shutdown => cases notCommand
  | startRejected _ | advance _ _ =>
      simp [superseded_snoc, stopped_snoc, HelperEvent.isCommand, HelperEvent.isStart]

/-! ## What a step of an attempt does to the service -/

/-- A step of an attempt rewrites the attempt, never puts it back into setup, and
changes the service in one of three critical sections or not at all. -/
theorem Helper.Step.advance_effect {helper after : Helper} {attempt : Nat}
    {failure : Option String} {signals : List StateChanged}
    (taken : Helper.Step helper (.advance attempt failure) after signals) :
    ∃ current current', helper.attempts[attempt]? = some current ∧
      after.attempts = helper.attempts.set attempt current' ∧
      (current'.phase.inSetup → current.phase.inSetup) ∧
      (after.svc = helper.svc ∨
        (current.phase.inSetup ∧
          (after.svc = helper.svc.save attempt ∨ after.svc = helper.svc.setError)) ∨
        (helper.svc.controller = some attempt ∧ helper.svc.state = .connected ∧
          after.svc = helper.svc.setError)) := by
  cases taken with
  | announce running => exact ⟨_, _, running, rfl, fun _ => rfl, .inl rfl⟩
  | succeed running => exact ⟨_, _, running, rfl, fun _ => rfl, .inl rfl⟩
  | fail running => exact ⟨_, _, running, rfl, fun _ => rfl, .inl rfl⟩
  | release running => exact ⟨_, _, running, rfl, fun _ => rfl, .inl rfl⟩
  | emitConnected running => exact ⟨_, _, running, rfl, nofun, .inl rfl⟩
  | emitError running => exact ⟨_, _, running, rfl, nofun, .inl rfl⟩
  | save running => exact ⟨_, _, running, rfl, nofun, .inr (.inl ⟨rfl, .inl rfl⟩)⟩
  | setError running => exact ⟨_, _, running, rfl, nofun, .inr (.inl ⟨rfl, .inr rfl⟩)⟩
  | controllerClosed running =>
      refine ⟨_, _, running, rfl, nofun, ?_⟩
      by_cases active : helper.svc.controller = some attempt ∧ helper.svc.state = .connected
      · exact .inr (.inr ⟨active.1, active.2, by
          simp [HelperService.controllerClosed, active, HelperService.setError]⟩)
      · exact .inl (by simp [HelperService.controllerClosed, active])

@[simp] theorem HelperService.shutdown_state (svc : HelperService) :
    svc.shutdown.1.state = .disconnected := by
  unfold HelperService.shutdown
  split <;> simp_all

/-- An accepted start is connecting. -/
theorem HelperService.start_state {svc svc' : HelperService} {coderURL : String}
    (accepted : svc.start coderURL = .ok svc') : svc'.state = .connecting := by
  unfold HelperService.start at accepted
  split at accepted
  · cases accepted
  · cases accepted
    rfl

/-- The attempts that commands create: a `Start` appends one in setup. -/
theorem Helper.Step.command_effect {helper after : Helper} {command : HelperEvent}
    {signals : List StateChanged} (taken : Helper.Step helper command after signals)
    (isCommand : command.isCommand) :
    (after.svc.state = .connecting ∧ command.isStart = true ∧
        ∃ coderURL, after.attempts = helper.attempts ++ [⟨coderURL, .announce, []⟩]) ∨
      (after.svc.state = .disconnected ∧ command = .shutdown ∧
        after.attempts = helper.attempts) := by
  cases taken with
  | start accepted => exact .inl ⟨HelperService.start_state accepted, rfl, _, rfl⟩
  | shutdown => exact .inr ⟨by simp, rfl, rfl⟩
  | _ => cases isCommand

/-! ## Runs without overlap -/

/-- The attempt ids in use are those of the accepted `Start` calls. -/
theorem attempts_counted {events : List HelperEvent} {helper : Helper}
    (run : Runs Helper.next .new events helper) :
    helper.attempts.length = acceptedStarts events := by
  refine run.induct (fun events helper => helper.attempts.length = acceptedStarts events)
    rfl (fun events helper event after _ counted _ taken => ?_) (conforms_true events)
  obtain ⟨signals, taken⟩ := Helper.next_eq_some_iff.mp taken
  cases taken <;>
    simp_all [HelperEvent.isStart, Helper.setAttempt]

/-- What holds after every run whose commands wait for the setups. -/
structure NoOverlap (events : List HelperEvent) (helper : Helper) : Prop where
  /-- An attempt in setup belongs to the last command. -/
  current : ∀ (attempt : Nat) (value : Attempt),
    helper.attempts[attempt]? = some value → value.phase.inSetup →
    ¬ Superseded events attempt ∧ ¬ Stopped events
  disconnected : Stopped events → helper.svc.state = .disconnected
  /-- The tunnel reported as connected belongs to the last command. -/
  connected : ∀ attempt, helper.svc.state = .connected →
    helper.svc.controller = some attempt → ¬ Superseded events attempt

/-- There is no attempt at first. -/
theorem NoOverlap.new : NoOverlap [] .new where
  current := by simp [Helper.new]
  disconnected := by simp [Helper.new, HelperService.new]
  connected := by simp [Helper.new, HelperService.new]

/-- A command that finds no attempt in setup starts afresh. -/
theorem NoOverlap.command {events : List HelperEvent} {helper after : Helper}
    {command : HelperEvent} {signals : List StateChanged}
    (counted : helper.attempts.length = acceptedStarts events)
    (wait : ∀ current ∈ helper.attempts, current.phase.inSetup = false)
    (taken : Helper.Step helper command after signals) (isCommand : command.isCommand) :
    NoOverlap (events ++ [command]) after := by
  have idle : ∀ (attempt : Nat) (value : Attempt),
      helper.attempts[attempt]? = some value → value.phase.inSetup = false :=
    fun attempt value found => wait value (List.mem_of_getElem? found)
  rcases taken.command_effect isCommand with
    ⟨connecting, isStart, coderURL, attempts⟩ | ⟨disconnected, rfl, attempts⟩
  · have notStopped : ¬ Stopped (events ++ [command]) := by
      rw [stopped_snoc]
      rintro (rfl | ⟨notStart, -⟩)
      · cases isStart
      · simp [isStart] at notStart
    refine ⟨fun attempt value found inSetup => ⟨?_, notStopped⟩,
      fun stopped => absurd stopped notStopped, fun attempt connected => ?_⟩
    · rw [attempts, List.getElem?_append] at found
      split at found
      · simp [idle attempt value found] at inSetup
      · rw [superseded_snoc]
        rintro (older | ⟨-, older⟩)
        · have := older.lt
          omega
        · omega
    · rw [connecting] at connected
      cases connected
  · refine ⟨fun attempt value found inSetup => ?_, fun _ => disconnected,
      fun attempt connected => ?_⟩
    · rw [attempts] at found
      simp [idle attempt value found] at inSetup
    · rw [disconnected] at connected
      cases connected

/-- A step of an attempt starts no command, so only its critical sections count. -/
theorem NoOverlap.advance {events : List HelperEvent} {helper after : Helper}
    {attempt : Nat} {failure : Option String} {signals : List StateChanged}
    (holds : NoOverlap events helper)
    (taken : Helper.Step helper (.advance attempt failure) after signals) :
    NoOverlap (events ++ [.advance attempt failure]) after := by
  obtain ⟨superseded, stopped⟩ :=
    history_snoc_of_not_command events (.advance attempt failure) rfl
  obtain ⟨value, value', found, attempts, keeps, service⟩ := taken.advance_effect
  refine ⟨fun other next foundNext inSetup => ?_, fun isStopped => ?_, fun other => ?_⟩
  · rw [superseded, stopped]
    rw [attempts] at foundNext
    by_cases same : attempt = other
    · subst same
      obtain rfl : value' = next := by
        have bounded := (List.getElem?_eq_some_iff.mp found).1
        simpa [List.getElem?_set_self bounded] using foundNext
      exact holds.current attempt value found (keeps inSetup)
    · rw [List.getElem?_set_ne same] at foundNext
      exact holds.current other next foundNext inSetup
  · rw [stopped] at isStopped
    rcases service with same | ⟨inSetup, -⟩ | ⟨-, connected, -⟩
    · rw [same]
      exact holds.disconnected isStopped
    · exact absurd isStopped (holds.current attempt value found inSetup).2
    · rw [holds.disconnected isStopped] at connected
      cases connected
  · rw [superseded]
    rcases service with same | ⟨inSetup, saved | failed⟩ | ⟨-, -, failed⟩
    · rw [same]
      exact holds.connected other
    · rintro - owner
      obtain rfl : attempt = other := by simpa [saved, HelperService.save] using owner
      exact (holds.current attempt value found inSetup).1
    · simp [failed, HelperService.setError]
    · simp [failed, HelperService.setError]

/-- Runs whose commands wait keep `NoOverlap`. -/
theorem noOverlap_of_conforms {events : List HelperEvent} {helper : Helper}
    (run : Runs Helper.next .new events helper)
    (conforms : Conforms Helper.next CommandsWait .new events) : NoOverlap events helper := by
  refine run.induct NoOverlap .new (fun events helper event after prior holds wait taken => ?_)
    conforms
  obtain ⟨signals, taken⟩ := Helper.next_eq_some_iff.mp taken
  cases event with
  | start coderURL => exact .command (attempts_counted prior) wait taken rfl
  | shutdown => exact .command (attempts_counted prior) wait taken rfl
  | advance attempt failure => exact holds.advance taken
  | startRejected coderURL =>
      obtain ⟨superseded, stopped⟩ :=
        history_snoc_of_not_command events (.startRejected coderURL) rfl
      cases taken
      refine ⟨fun attempt value found inSetup => ?_, fun isStopped => ?_, fun attempt => ?_⟩
      · rw [superseded, stopped]
        exact holds.current attempt value found inSetup
      · exact holds.disconnected (stopped.mp isStopped)
      · rw [superseded]
        exact holds.connected attempt

/-! ## A command during a setup can be undone -/

/-- An attempt that moves on is there. -/
theorem Helper.setAttempt_found {helper : Helper} {attempt : AttemptId} {value : Attempt}
    (found : helper.attempts[attempt]? = some value) (value' : Attempt) :
    (helper.setAttempt attempt value').attempts[attempt]? = some value' :=
  List.getElem?_set_self (List.getElem?_eq_some_iff.mp found).1

/-- The attempt can run until, with the service untouched so far, its next step
puts the service into the error or the connected state. -/
def CanStrike (helper : Helper) (attempt : AttemptId) : Prop :=
  ∃ events middle final, Runs Helper.next helper events middle ∧ middle.svc = helper.svc ∧
    middle.next (.advance attempt none) = some final ∧
    (final.svc.state = .error ∨ final.svc.state = .connected)

/-- An attempt that can strike after a step that leaves the service could before. -/
theorem CanStrike.of_step {helper after : Helper} {attempt : AttemptId}
    {event : HelperEvent} {signals : List StateChanged}
    (taken : Helper.Step helper event after signals) (same : after.svc = helper.svc)
    (strikes : CanStrike after attempt) : CanStrike helper attempt := by
  obtain ⟨events, middle, final, run, untouched, strike⟩ := strikes
  have first : helper.next event = some after := Helper.next_eq_some_iff.mpr ⟨_, taken⟩
  exact ⟨event :: events, middle, final, .cons first run, untouched.trans same, strike⟩

/-- An attempt that unwinds can strike. -/
theorem canStrike_of_unwind (todo : List ResourceKind) {helper : Helper} {attempt : AttemptId}
    {coderURL msg : String} {locals : List ResourceKind}
    (found : helper.attempts[attempt]? = some ⟨coderURL, .unwind todo msg, locals⟩) :
    CanStrike helper attempt := by
  induction todo generalizing helper locals with
  | nil =>
      refine ⟨[], helper, _, .refl, rfl, Helper.next_eq_some_iff.mpr ⟨_, .setError found⟩, ?_⟩
      exact .inl rfl
  | cons kind todo inductionHypothesis =>
      exact .of_step (.release found) rfl
        (inductionHypothesis (Helper.setAttempt_found found _))

/-- An attempt in its setup can strike. -/
theorem canStrike_of_setup {helper : Helper} {attempt : AttemptId} {step : SetupStep}
    {coderURL : String} {locals : List ResourceKind}
    (found : helper.attempts[attempt]? = some ⟨coderURL, .setup step, locals⟩) :
    CanStrike helper attempt := by
  have failed : Helper.Step helper (.advance attempt (some "failed")) _ [] := .fail found
  exact .of_step failed rfl
    (canStrike_of_unwind step.cleanup (Helper.setAttempt_found found _))

/-- Every attempt still in setup can strike: its next call may fail, or it is
already about to save or to record its error. -/
theorem canStrike_of_inSetup {helper : Helper} {attempt : AttemptId} {value : Attempt}
    (found : helper.attempts[attempt]? = some value) (inSetup : value.phase.inSetup) :
    CanStrike helper attempt := by
  obtain ⟨coderURL, phase, locals⟩ := value
  cases phase with
  | announce =>
      exact .of_step (.announce found) rfl
        (canStrike_of_setup (Helper.setAttempt_found found _))
  | setup step => exact canStrike_of_setup found
  | unwind todo msg => exact canStrike_of_unwind todo found
  | save =>
      refine ⟨[], helper, _, .refl, rfl, Helper.next_eq_some_iff.mpr ⟨_, .save found⟩, ?_⟩
      exact .inr rfl
  | _ => cases inSetup

/-- Whenever a command is taken during a setup, the run can go on so that the
command does not win. -/
theorem command_during_setup_loses {events : List HelperEvent} {helper after : Helper}
    {command : HelperEvent} (run : Runs Helper.next .new events helper)
    (isCommand : command.isCommand) (taken : helper.next command = some after)
    (overlaps : ¬ CommandsWait helper command) :
    ∃ later, ¬ LatestCommandWins (events ++ command :: later) := by
  obtain ⟨value, member, inSetup⟩ :
      ∃ value ∈ helper.attempts, value.phase.inSetup = true := by
    cases command with
    | start _ | shutdown => simpa [CommandsWait] using overlaps
    | _ => cases isCommand
  obtain ⟨attempt, found⟩ := List.getElem?_of_mem member
  obtain ⟨signals, step⟩ := Helper.next_eq_some_iff.mp taken
  have older : attempt < acceptedStarts events := by
    rw [← attempts_counted run]
    exact (List.getElem?_eq_some_iff.mp found).1
  -- The command leaves the attempt in place and the service connecting or disconnected.
  have kept : after.attempts[attempt]? = some value ∧
      after.svc.state ≠ .error ∧ after.svc.state ≠ .connected := by
    rcases step.command_effect isCommand with
      ⟨connecting, -, coderURL, attempts⟩ | ⟨disconnected, -, attempts⟩
    · rw [attempts, connecting]
      exact ⟨List.getElem?_append_left (List.getElem?_eq_some_iff.mp found).1 ▸ found,
        nofun, nofun⟩
    · rw [attempts, disconnected]
      exact ⟨found, nofun, nofun⟩
  obtain ⟨later, middle, final, rest, untouched, strike, outcome⟩ :=
    canStrike_of_inSetup kept.1 inSetup
  refine ⟨later ++ [.advance attempt none], fun wins => ?_⟩
  have superseded : Superseded (events ++ command :: later) attempt :=
    ⟨events, command, later, rfl, isCommand, older⟩
  have reached : Runs Helper.next .new (events ++ command :: later) middle :=
    run.trans (.cons taken rest)
  have same := wins.supersededInert (events ++ command :: later) attempt none [] middle final
    (by simp) reached strike superseded
  rw [same, untouched] at outcome
  exact outcome.elim kept.2.1 kept.2.2

/-! ## Results -/

/-- Latest command wins in every run whose commands wait for the setups to end;
a command that does not wait can always be undone by the setup it overlaps. -/
theorem latestCommandWins_iff_commandsWait (events : List HelperEvent) :
    (Conforms Helper.next CommandsWait .new events → LatestCommandWins events) ∧
      ∀ helper command after, Runs Helper.next .new events helper →
        command.isCommand → helper.next command = some after → ¬ CommandsWait helper command →
        ∃ later, ¬ LatestCommandWins (events ++ command :: later) := by
  refine ⟨fun conforms => ⟨?_, ?_⟩, ?_⟩
  · rintro before after helper rfl run stopped
    exact (noOverlap_of_conforms run conforms.ofAppend).disconnected stopped
  · rintro before attempt failure after helper helper' rfl run taken superseded
    have holds := noOverlap_of_conforms run conforms.ofAppend
    obtain ⟨signals, taken⟩ := Helper.next_eq_some_iff.mp taken
    obtain ⟨value, value', found, -, -, service⟩ := taken.advance_effect
    rcases service with same | ⟨inSetup, -⟩ | ⟨owner, connected, -⟩
    · exact same
    · exact absurd superseded (holds.current attempt value found inSetup).1
    · exact absurd superseded (holds.connected attempt connected owner)
  · intro helper command after run isCommand taken overlaps
    exact command_during_setup_loses run isCommand taken overlaps

/-- An attempt runs up to its save, every call succeeding. -/
def setupEvents (attempt : AttemptId) : List HelperEvent :=
  List.replicate 9 (.advance attempt none)

/-- `Stop` arrives while the tunnel is being set up; the save then reports it as
connected. -/
theorem stop_during_setup_is_undone :
    ¬ LatestCommandWins
      (.start "https://dev.coder.com" :: setupEvents 0 ++ [.shutdown, .advance 0 none]) := by
  intro wins
  have run : Runs Helper.next .new
      (.start "https://dev.coder.com" :: setupEvents 0 ++ [.shutdown, .advance 0 none])
      ⟨HelperService.new.save 0 |> fun svc => { svc with coderURL := "https://dev.coder.com" },
        [⟨"https://dev.coder.com", .emitConnected, []⟩],
        [⟨0, .cancel⟩, ⟨0, .tunDev⟩, ⟨0, .dnsManager⟩, ⟨0, .tailnetCon⟩], []⟩ :=
    runs_iff_replay.mpr (by decide)
  have down := wins.staysDisconnected _ [] _ (by simp) run
    ⟨.start "https://dev.coder.com" :: setupEvents 0, [.advance 0 none], rfl, by simp⟩
  cases down

/-- A conforming run: the tunnel is connected, stopped, and started again. -/
theorem latestCommandWins_start_stop_start :
    LatestCommandWins (.start "https://dev.coder.com" :: setupEvents 0 ++
      [.advance 0 none, .shutdown, .start "https://prod.coder.com"]) :=
  (latestCommandWins_iff_commandsWait _).1 (by decide)

end CoderDesktop.Vpn
