import CoderDesktop.FileSync.EngineState
import Mathlib.Data.List.Perm.Basic

/-!
# Polling the sessions

`refreshSessions` raises a flag that only the callback of its process lowers. At most one
poll is under way, and only while the flag is up. The flag is up without a poll once the
process of a poll has failed to start: its callback is not called then, and no later
refresh polls again.
-/

namespace CoderDesktop.FileSync

open Semantics Settings

/-! ## The flag and the polls under way -/

/-- The process lists the sessions. -/
def MutagenProcess.polls (process : MutagenProcess) : Bool := process.command = .list

/-- The poll flag and the polls that run. -/
structure Polling where
  inFlight : Bool
  /-- Processes of polls whose end was not yet reported. -/
  outstanding : Nat
deriving DecidableEq, Repr

namespace Polling

/-- What a refresh does while the daemon runs. -/
def refresh (polling : Polling) : Polling :=
  if polling.inFlight then polling else ⟨true, polling.outstanding + 1⟩

/-- At most one poll is under way, and only while the flag is up. -/
def AtMostOne (polling : Polling) : Prop := polling.outstanding ≤ polling.inFlight.toNat

/-- While the flag is up a poll is under way. -/
def Alive (polling : Polling) : Prop := polling.inFlight = true → 0 < polling.outstanding

variable {polling : Polling}

/-- A refresh does not poll while a poll runs. -/
theorem AtMostOne.refresh (atMostOne : polling.AtMostOne) : polling.refresh.AtMostOne := by
  unfold AtMostOne Polling.refresh at *
  cases flag : polling.inFlight with
  | true => simpa [flag] using atMostOne
  | false =>
      rw [flag, Bool.toNat_false] at atMostOne
      simp only [Bool.false_eq_true, if_false, Bool.toNat_true]
      omega

/-- A refresh sets the flag only with a poll. -/
theorem Alive.refresh (alive : polling.Alive) : polling.refresh.Alive := by
  unfold Polling.refresh
  split
  · exact alive
  · exact fun _ => Nat.succ_pos _

end Polling

/-- A poll ends without its callback. -/
def Polling.lost (polling : Polling) : Polling :=
  { polling with outstanding := polling.outstanding - 1 }

/-- What a step does to the polls otherwise. -/
inductive PollStep (polling : Polling) : Polling → Prop where
  | same : PollStep polling polling
  | refreshed : PollStep polling polling.refresh
  /-- The callback of a poll was called. -/
  | settled : PollStep polling ⟨false, polling.outstanding - 1⟩
  | forgotten : PollStep polling ⟨false, 0⟩

namespace Polling

variable {polling after : Polling}

/-- Every step leaves one poll at most. -/
theorem AtMostOne.step (atMostOne : polling.AtMostOne) (taken : PollStep polling after) :
    after.AtMostOne := by
  cases taken with
  | same => exact atMostOne
  | refreshed => exact atMostOne.refresh
  | settled =>
      have bound := Bool.toNat_le polling.inFlight
      unfold AtMostOne at *
      simp only [Bool.toNat_false]
      omega
  | forgotten => exact Nat.le_refl 0

/-- A poll whose end is never reported leaves one poll at most. -/
theorem AtMostOne.lost (atMostOne : polling.AtMostOne) : polling.lost.AtMostOne :=
  Nat.le_trans (Nat.sub_le _ _) atMostOne

/-- Every step keeps the flag with a poll. -/
theorem Alive.step (alive : polling.Alive) (taken : PollStep polling after) : after.Alive := by
  cases taken with
  | same => exact alive
  | refreshed => exact alive.refresh
  | settled => exact fun raised => absurd raised Bool.false_ne_true
  | forgotten => exact fun raised => absurd raised Bool.false_ne_true

/-- While a poll runs the flag is set. -/
theorem AtMostOne.inFlight (atMostOne : polling.AtMostOne) (underway : 0 < polling.outstanding) :
    polling.inFlight = true := by
  cases flag : polling.inFlight with
  | true => rfl
  | false =>
      unfold AtMostOne at atMostOne
      rw [flag, Bool.toNat_false] at atMostOne
      omega

/-- The flag stays up and nothing is left to lower it. -/
theorem not_alive_lost (atMostOne : polling.AtMostOne) (underway : 0 < polling.outstanding) :
    ¬ polling.lost.Alive := by
  intro alive
  have left : 0 < polling.outstanding - 1 := alive (atMostOne.inFlight underway)
  have one : polling.outstanding ≤ 1 := Nat.le_trans atMostOne (Bool.toNat_le _)
  omega

end Polling

/-- A daemon runs only if its binary was found. -/
def MutagenDaemon.Runnable (daemon : MutagenDaemon) : Prop :=
  daemon.isRunning = true → daemon.binaryPath ≠ ""

namespace MutagenDaemon

variable {daemon : MutagenDaemon}

/-- Starting leaves the daemon runnable. -/
theorem Runnable.start (runnable : daemon.Runnable) (started : Bool) :
    (daemon.start started).1.Runnable := by
  unfold MutagenDaemon.start
  split
  · exact runnable
  · split
    · exact runnable
    · next found =>
        split
        · exact fun _ => found
        · exact runnable

/-- Stopping leaves the daemon runnable. -/
theorem Runnable.stop (daemon : MutagenDaemon) : daemon.stop.Runnable := by
  intro running
  rw [isRunning_stop] at running
  cases running

end MutagenDaemon

namespace FileSyncManager

variable (manager : FileSyncManager)

/-- The manager as far as polling goes. -/
def polling (manager : FileSyncManager) : Polling :=
  ⟨manager.pollInFlight, manager.processes.countP MutagenProcess.polls⟩

@[simp] theorem polling_emit (signal : SyncSignal) :
    (manager.emit signal).polling = manager.polling := rfl

@[simp] theorem polling_applySettings (event : SettingsEvent) :
    (manager.applySettings event).polling = manager.polling := by
  simp only [applySettings]
  split <;> rfl

/-- Commands other than a poll leave the polls alone. -/
theorem polling_runMutagenAsync {command : SyncCommand} (noPoll : command ≠ .list) :
    (manager.runMutagenAsync command).polling = manager.polling := by
  unfold runMutagenAsync
  split
  · rfl
  · simp [polling, MutagenProcess.polls, noPoll]

/-- A refresh polls unless a poll is under way. -/
theorem polling_refreshSessions (runnable : manager.daemon.Runnable) :
    manager.refreshSessions.polling =
      if manager.daemon.isRunning then manager.polling.refresh else manager.polling := by
  unfold refreshSessions
  cases running : manager.daemon.isRunning with
  | false => rfl
  | true =>
      cases flag : manager.pollInFlight with
      | true => simp [polling, Polling.refresh, flag]
      | false =>
          have found := runnable running
          simp [runMutagenAsync, found, polling, Polling.refresh, flag, MutagenProcess.polls]

@[simp] theorem polling_updateModel (newSessions : List FileSyncSession) :
    (manager.updateModel newSessions).polling = manager.polling := by
  unfold updateModel
  dsimp only
  split <;> split <;> rfl

/-- Starting the daemon is otherwise only reported. -/
theorem startDaemon_frame (started : Bool) :
    ∃ emitted,
      manager.startDaemon started =
        ({ manager with daemon := (manager.daemon.start started).1, emitted },
          (manager.daemon.start started).2) := by
  simp only [startDaemon]
  split
  · exact ⟨_, rfl⟩
  · exact ⟨_, rfl⟩

@[simp] theorem polling_startDaemon (started : Bool) :
    (manager.startDaemon started).1.polling = manager.polling := by
  obtain ⟨emitted, same⟩ := manager.startDaemon_frame started
  rw [same]
  rfl

@[simp] theorem polling_stopDaemon : manager.stopDaemon.polling = manager.polling := by
  unfold stopDaemon
  split <;> rfl

@[simp] theorem polling_runCreate (localPath workspace remotePath : String) :
    (manager.runCreate localPath workspace remotePath).polling = manager.polling := by
  unfold runCreate
  dsimp only
  rw [polling_runMutagenAsync _ SyncCommand.noConfusion]
  split <;> rfl

@[simp] theorem polling_createSession (localPath workspace remotePath : String)
    (daemonStarted : Bool) :
    (manager.createSession localPath workspace remotePath daemonStarted).polling =
      manager.polling := by
  unfold createSession
  have started := manager.polling_startDaemon daemonStarted
  split
  · rfl
  · split
    · split
      · next result => rw [result] at started; rw [polling_runCreate, started]
      · next result => rw [result] at started; exact started
    · exact polling_runCreate _ _ _ _

/-- Apart from the timers and the daemon a change of the VPN is only reported. -/
theorem setVpnConnected_frame (connected daemonStarted : Bool) :
    ∃ daemon pollTimer delayedRefreshes emitted,
      manager.setVpnConnected connected daemonStarted =
        { manager with
          vpnConnected := connected, daemon, pollTimer, delayedRefreshes, emitted } ∧
      (daemon = manager.daemon ∨ daemon = (manager.daemon.start daemonStarted).1 ∨
        daemon = manager.daemon.stop) := by
  unfold setVpnConnected
  split
  · next same => exact ⟨_, _, _, _, by rw [← same], .inl rfl⟩
  · cases connected with
    | false =>
        simp only [Bool.false_eq_true, if_false, stopDaemon]
        split
        · exact ⟨_, _, _, _, rfl, .inr (.inr rfl)⟩
        · exact ⟨_, _, _, _, rfl, .inl rfl⟩
    | true =>
        cases running : manager.daemon.isRunning with
        | true =>
            simp only [if_true, emit, running]
            exact ⟨_, _, _, _, rfl, .inl rfl⟩
        | false =>
            simp only [if_true, emit, running, Bool.false_eq_true, if_false]
            obtain ⟨emitted, same⟩ := startDaemon_frame
              { manager with
                vpnConnected := true, emitted := manager.emitted ++ [.availableChanged] }
              daemonStarted
            rw [same]
            cases (manager.daemon.start daemonStarted).2 with
            | true => exact ⟨_, _, _, _, rfl, .inr (.inl rfl)⟩
            | false => exact ⟨_, _, _, _, rfl, .inr (.inl rfl)⟩

@[simp] theorem polling_setVpnConnected (connected daemonStarted : Bool) :
    (manager.setVpnConnected connected daemonStarted).polling = manager.polling := by
  obtain ⟨daemon, pollTimer, delayedRefreshes, emitted, same, -⟩ :=
    manager.setVpnConnected_frame connected daemonStarted
  rw [same]
  rfl

/-! ## The end of a process -/

/-- A process ends, and with it the poll it may be. -/
theorem polling_erase {index : Nat} {process : MutagenProcess}
    (found : manager.processes[index]? = some process) :
    { manager with processes := manager.processes.eraseIdx index }.polling =
      ⟨manager.pollInFlight,
        manager.polling.outstanding - if process.polls then 1 else 0⟩ := by
  obtain ⟨bound, same⟩ := List.getElem?_eq_some_iff.mp found
  have counted := (List.getElem_cons_eraseIdx_perm bound).countP_eq MutagenProcess.polls
  rw [same, List.countP_cons] at counted
  simp only [polling, Polling.mk.injEq, true_and]
  omega

/-- Polls among the processes are under way. -/
theorem outstanding_pos {index : Nat} {process : MutagenProcess}
    (found : manager.processes[index]? = some process) (polls : process.polls = true) :
    0 < manager.polling.outstanding :=
  List.countP_pos_iff.mpr ⟨process, List.mem_of_getElem? found, polls⟩

/-- The failure of a poll is the only one without a message. -/
theorem polls_eq_isNone (process : MutagenProcess) :
    process.polls = (failureMessage process.command).isNone := by
  obtain ⟨command, applied⟩ := process
  cases command <;> rfl

/-- Mutagen carries a command out; the process stays what it is. -/
theorem polling_applied {index : Nat} {command : SyncCommand} {applied : Bool}
    (found : manager.processes[index]? = some ⟨command, applied⟩) :
    { manager with processes := manager.processes.set index ⟨command, true⟩ }.polling =
      manager.polling := by
  obtain ⟨bound, same⟩ := List.getElem?_eq_some_iff.mp found
  have counted := (List.set_perm_cons_eraseIdx bound ⟨command, true⟩).countP_eq
    MutagenProcess.polls
  have before := (List.getElem_cons_eraseIdx_perm bound).countP_eq MutagenProcess.polls
  rw [List.countP_cons] at counted before
  rw [same] at before
  exact congrArg (Polling.mk manager.pollInFlight) (counted.trans before)

/-- A refresh is a step of the polling. -/
theorem pollStep_refreshSessions (runnable : manager.daemon.Runnable) :
    PollStep manager.polling manager.refreshSessions.polling := by
  rw [polling_refreshSessions _ runnable]
  split
  · exact .refreshed
  · exact .same

/-- The callback of a poll lowers the flag, those of other commands refresh. -/
theorem pollStep_onFinished (runnable : manager.daemon.Runnable) {index : Nat}
    {process : MutagenProcess} (found : manager.processes[index]? = some process)
    (exitCode : Int) (output : Json) :
    PollStep manager.polling
      ({ manager with processes := manager.processes.eraseIdx index }.onFinished
        process.command exitCode output).polling := by
  have erased := manager.polling_erase found
  unfold onFinished
  cases command : failureMessage process.command with
  | some message =>
      rw [polls_eq_isNone, command] at erased
      have same : ({ manager with
          processes := manager.processes.eraseIdx index }).polling = manager.polling := erased
      dsimp only
      rw [← same]
      split
      · exact pollStep_refreshSessions
          (emit { manager with processes := manager.processes.eraseIdx index } _) runnable
      · exact pollStep_refreshSessions _ runnable
  | none =>
      rw [polls_eq_isNone, command] at erased
      have left := congrArg Polling.outstanding erased
      have settled : ({ manager with
          processes := manager.processes.eraseIdx index, pollInFlight := false }).polling =
          ⟨false, manager.polling.outstanding - 1⟩ := congrArg (Polling.mk false) left
      dsimp only
      split
      · rw [settled]
        exact .settled
      · rw [polling_updateModel, settled]
        exact .settled

/-- The end of a poll clears the flag. -/
theorem pollInFlight_onFinished_list (exitCode : Int) (output : Json) :
    (manager.onFinished .list exitCode output).pollInFlight = false := by
  simp only [onFinished, failureMessage]
  split
  · rfl
  · exact congrArg Polling.inFlight (polling_updateModel _ _)

/-! ## The daemon keeps its binary -/

/-- Only the engine matters. -/
theorem runnable_of_engine {after : FileSyncManager} (engine : after.engine = manager.engine)
    (runnable : manager.daemon.Runnable) : after.daemon.Runnable := by
  have daemon : after.daemon = manager.daemon := congrArg Engine.daemon engine
  exact daemon ▸ runnable

/-- The VPN flag leaves the daemon runnable. -/
theorem runnable_setVpnConnected (runnable : manager.daemon.Runnable)
    (connected daemonStarted : Bool) :
    (manager.setVpnConnected connected daemonStarted).daemon.Runnable := by
  obtain ⟨daemon, pollTimer, delayedRefreshes, emitted, same, which⟩ :=
    manager.setVpnConnected_frame connected daemonStarted
  rw [same]
  obtain rfl | rfl | rfl := which
  · exact runnable
  · exact runnable.start daemonStarted
  · exact MutagenDaemon.Runnable.stop _

/-- A new session leaves the daemon runnable. -/
theorem runnable_createSession (runnable : manager.daemon.Runnable)
    (localPath workspace remotePath : String) (daemonStarted : Bool) :
    (manager.createSession localPath workspace remotePath daemonStarted).daemon.Runnable := by
  have engine := manager.engine_createSession localPath workspace remotePath daemonStarted
  split at engine
  · next creates =>
      have daemon := congrArg Engine.daemon engine
      intro _
      rw [show (manager.createSession localPath workspace remotePath daemonStarted).daemon = _
        from daemon]
      rcases Bool.or_eq_true_iff.mp (Bool.and_eq_true_iff.mp creates).2 with running | comesUp
      · exact runnable running
      · exact (of_decide_eq_true comesUp).1
  · exact manager.runnable_of_engine engine runnable

end FileSyncManager

/-! ## Runs -/

namespace SyncWorld

variable {world : SyncWorld}

/-- The world as far as polling goes. -/
def polling (world : SyncWorld) : Polling := world.manager.polling

/-- A process that fails to start is not a poll. -/
def PollsStart (world : SyncWorld) : SyncEvent → Prop
  | .failedToStart index _ =>
      ∀ process ∈ world.manager.processes[index]?, process.command ≠ .list
  | .settings _ | .createSession _ _ _ _ | .pauseSession _ | .resumeSession _ | .resetSession _
  | .terminateSession _ | .setVpnConnected _ _ | .pollTimeout | .delayedRefresh
  | .takesEffect _ _ _ | .finished _ _ _ | .daemonExited | .restart _ _ => True

/-- The process whose end an event reports. -/
def endOf : SyncEvent → Option Nat
  | .finished index _ _ | .failedToStart index _ => some index
  | .settings _ | .createSession _ _ _ _ | .pauseSession _ | .resumeSession _ | .resetSession _
  | .terminateSession _ | .setVpnConnected _ _ | .pollTimeout | .delayedRefresh
  | .takesEffect _ _ _ | .daemonExited | .restart _ _ => none

/-- When a poll ends, in whatever way, the flag is lowered. -/
def Settles (world : SyncWorld) (event : SyncEvent) : Prop :=
  ∀ index ∈ endOf event, ∀ process ∈ world.manager.processes[index]?, process.command = .list →
    ∀ after ∈ world.next event, after.manager.pollInFlight = false

/-- The poll flag is set only while a poll runs, and an idle manager can poll again. -/
structure NeverWedged (world : SyncWorld) : Prop where
  outstanding : world.manager.pollInFlight = true →
    ∃ process ∈ world.manager.processes, process.command = .list
  /-- Once all processes have ended a refresh polls. -/
  refreshes : world.manager.processes = [] → world.manager.daemon.isRunning = true →
    world.manager.refreshSessions.processes = [⟨.list, false⟩] ∧
      world.manager.refreshSessions.pollInFlight = true

/-- What holds of every run, whatever becomes of the processes. -/
structure Guarded (world : SyncWorld) : Prop where
  runnable : world.manager.daemon.Runnable
  atMostOne : world.polling.AtMostOne

/-- Every event leaves the daemon runnable. -/
theorem runnable_next {event : SyncEvent} {after : SyncWorld}
    (runnable : world.manager.daemon.Runnable) (taken : world.next event = some after) :
    after.manager.daemon.Runnable := by
  cases event with
  | createSession localPath workspace remotePath daemonStarted =>
      obtain rfl := Option.some.inj taken
      exact world.manager.runnable_createSession runnable _ _ _ _
  | setVpnConnected connected daemonStarted =>
      obtain rfl := Option.some.inj taken
      exact world.manager.runnable_setVpnConnected runnable _ _
  | daemonExited =>
      obtain ⟨-, rfl⟩ := of_guarded taken
      exact fun running => absurd running Bool.false_ne_true
  | restart settings binaryPath =>
      obtain rfl := Option.some.inj taken
      exact fun running => absurd running Bool.false_ne_true
  | _ => exact world.manager.runnable_of_engine (engine_next rfl taken) runnable

/-- What becomes of the polls in a step, a poll that fails to start apart. -/
theorem pollStep_next {event : SyncEvent} {after : SyncWorld}
    (runnable : world.manager.daemon.Runnable) (starts : world.PollsStart event)
    (taken : world.next event = some after) : PollStep world.polling after.polling := by
  have stays (same : after.polling = world.polling) : PollStep world.polling after.polling :=
    same ▸ .same
  cases event with
  | createSession localPath workspace remotePath daemonStarted =>
      obtain rfl := Option.some.inj taken
      exact stays (world.manager.polling_createSession _ _ _ _)
  | setVpnConnected connected daemonStarted =>
      obtain rfl := Option.some.inj taken
      exact stays (world.manager.polling_setVpnConnected _ _)
  | settings event =>
      obtain rfl := Option.some.inj taken
      exact stays (world.manager.polling_applySettings _)
  | pauseSession sessionId | resumeSession sessionId | resetSession sessionId
  | terminateSession sessionId =>
      obtain rfl := Option.some.inj taken
      exact stays (world.manager.polling_runMutagenAsync SyncCommand.noConfusion)
  | pollTimeout =>
      obtain ⟨-, rfl⟩ := of_guarded taken
      exact world.manager.pollStep_refreshSessions runnable
  | delayedRefresh =>
      obtain ⟨-, rfl⟩ := of_guarded taken
      exact FileSyncManager.pollStep_refreshSessions
        { world.manager with delayedRefreshes := world.manager.delayedRefreshes - 1 } runnable
  | takesEffect index identifier selected =>
      simp only [next] at taken
      split at taken
      · next found =>
          obtain rfl := Option.some.inj taken
          exact stays (world.manager.polling_applied found)
      · cases taken
      · cases taken
  | finished index exitCode output =>
      simp only [next] at taken
      split at taken
      · next found =>
          obtain rfl := Option.some.inj taken
          exact world.manager.pollStep_onFinished runnable found _ _
      · cases taken
  | failedToStart index errorString =>
      simp only [next] at taken
      split at taken
      · next command found =>
          obtain rfl := Option.some.inj taken
          have noPoll : MutagenProcess.polls ⟨command, false⟩ = false :=
            decide_eq_false (starts _ found)
          have erased := world.manager.polling_erase found
          rw [noPoll] at erased
          exact stays erased
      · cases taken
      · cases taken
  | daemonExited =>
      obtain ⟨-, rfl⟩ := of_guarded taken
      exact .same
  | restart settings binaryPath =>
      obtain rfl := Option.some.inj taken
      exact .forgotten

/-- A poll that fails to start is lost. -/
theorem polling_of_failed_poll {event : SyncEvent} {after : SyncWorld}
    (fails : ¬ world.PollsStart event) (taken : world.next event = some after) :
    after.polling = world.polling.lost ∧ 0 < world.polling.outstanding := by
  cases event with
  | failedToStart index errorString =>
      simp only [next] at taken
      split at taken
      · next command found =>
          obtain rfl := Option.some.inj taken
          have isPoll : MutagenProcess.polls ⟨command, false⟩ = true := by
            by_contra noPoll
            refine fails fun process same => ?_
            obtain rfl := Option.some.inj (found.symm.trans same)
            exact fun isList => noPoll (decide_eq_true isList)
          have erased := world.manager.polling_erase found
          rw [isPoll] at erased
          exact ⟨erased, world.manager.outstanding_pos found isPoll⟩
      · cases taken
      · cases taken
  | _ => exact absurd trivial fails

/-- Every event keeps the poll flag guarding. -/
theorem Guarded.next {event : SyncEvent} {after : SyncWorld} (guarded : world.Guarded)
    (taken : world.next event = some after) : after.Guarded := by
  refine ⟨runnable_next guarded.runnable taken, ?_⟩
  by_cases starts : world.PollsStart event
  · exact guarded.atMostOne.step (pollStep_next guarded.runnable starts taken)
  · rw [(polling_of_failed_poll starts taken).1]
    exact guarded.atMostOne.lost

/-- Only a poll that fails to start leaves the flag up with no poll under way. -/
theorem alive_next {event : SyncEvent} {after : SyncWorld} (guarded : world.Guarded)
    (alive : world.polling.Alive) (taken : world.next event = some after) :
    after.polling.Alive ↔ world.PollsStart event := by
  by_cases starts : world.PollsStart event
  · exact iff_of_true (alive.step (pollStep_next guarded.runnable starts taken)) starts
  · obtain ⟨lost, underway⟩ := polling_of_failed_poll starts taken
    rw [lost]
    exact iff_of_false (Polling.not_alive_lost guarded.atMostOne underway) starts

/-- The end of a poll lowers the flag exactly when it is not a failed start. -/
theorem settles_iff {event : SyncEvent} {after : SyncWorld} (guarded : world.Guarded)
    (taken : world.next event = some after) : world.Settles event ↔ world.PollsStart event := by
  constructor
  · intro settles
    by_contra fails
    obtain ⟨lost, underway⟩ := polling_of_failed_poll fails taken
    have raised : after.manager.pollInFlight = true :=
      (congrArg Polling.inFlight lost).trans (guarded.atMostOne.inFlight underway)
    cases event with
    | failedToStart index errorString =>
        refine fails fun process found isList => ?_
        have lowered := settles index rfl process found isList after taken
        exact Bool.false_ne_true (lowered.symm.trans raised)
    | _ => exact fails trivial
  · intro starts index ends process found isList other same
    obtain rfl := Option.some.inj (taken.symm.trans same)
    cases event with
    | finished index exitCode output =>
        obtain rfl := Option.some.inj ends
        simp only [next, Option.mem_def.mp found] at taken
        obtain rfl := Option.some.inj taken
        rw [isList]
        exact FileSyncManager.pollInFlight_onFinished_list _ _ _
    | failedToStart index errorString =>
        obtain rfl := Option.some.inj ends
        exact absurd isList (starts process found)
    | _ => cases ends

/-- A flag that goes with a poll never wedges. -/
theorem neverWedged_of_alive (guarded : world.Guarded) (alive : world.polling.Alive) :
    world.NeverWedged := by
  constructor
  · intro raised
    obtain ⟨process, found, polls⟩ := List.countP_pos_iff.mp (alive raised)
    exact ⟨process, found, of_decide_eq_true polls⟩
  · intro ended running
    have lowered : world.manager.pollInFlight = false := by
      by_contra raised
      have underway := alive (Bool.not_eq_false _ ▸ raised)
      unfold SyncWorld.polling FileSyncManager.polling at underway
      rw [ended] at underway
      exact absurd underway (Nat.lt_irrefl 0)
    have found := guarded.runnable running
    simp [FileSyncManager.refreshSessions, FileSyncManager.runMutagenAsync, running, lowered,
      found, ended]

/-- The polling never wedges exactly when its flag goes with a poll. -/
theorem neverWedged_iff_alive (guarded : world.Guarded) :
    world.NeverWedged ↔ world.polling.Alive := by
  refine ⟨fun wedged raised => ?_, neverWedged_of_alive guarded⟩
  obtain ⟨process, found, isList⟩ := wedged.outstanding raised
  exact List.countP_pos_iff.mpr ⟨process, found, decide_eq_true isList⟩

/-- At startup nothing is polled. -/
theorem guarded_startup (settings : SettingsManager) (binaryPath : String) :
    (startup settings binaryPath).Guarded :=
  ⟨fun running => absurd running Bool.false_ne_true, Nat.le_refl 0⟩

/-- While the flag is up a poll is under way whose end lowers it, and a refresh polls again
once all processes have ended, exactly if no poll fails to start. -/
theorem neverWedged_iff (settings : SettingsManager) (binaryPath : String)
    (events : List SyncEvent) :
    ((∀ world, Visits next (startup settings binaryPath) events world → world.NeverWedged) ∧
        Conforms next Settles (startup settings binaryPath) events) ↔
      Conforms next PollsStart (startup settings binaryPath) events := by
  have guarded := guarded_startup settings binaryPath
  have guardedStep (world : SyncWorld) (event : SyncEvent) (after : SyncWorld)
      (guarded : world.Guarded) (taken : world.next event = some after) : after.Guarded :=
    guarded.next taken
  have settles := conforms_congr Guarded guardedStep
    (fun _ _ _ guarded taken => settles_iff guarded taken) guarded events
  have outstanding := visits_iff_conforms Guarded NeverWedged guardedStep
    (fun world event after guarded wedged taken =>
      (neverWedged_iff_alive (guarded.next taken)).trans
        (alive_next guarded ((neverWedged_iff_alive guarded).mp wedged) taken))
    guarded (neverWedged_of_alive guarded fun raised => absurd raised Bool.false_ne_true) events
  rw [settles, outstanding]
  exact and_self_iff

/-- After one poll that failed to start no refresh polls any more. -/
theorem not_neverWedged :
    ¬ (∀ settings binaryPath events,
      (∀ world, Visits next (startup settings binaryPath) events world → world.NeverWedged) ∧
        Conforms next Settles (startup settings binaryPath) events) := by
  intro always
  refine not_visits_of_replay
    (fun world => world.manager.processes.isEmpty && world.manager.daemon.isRunning &&
      world.manager.refreshSessions.processes.isEmpty) ?_ ?_
    (always ⟨.disabled, fun _ => none⟩ "mutagen"
      [.setVpnConnected true true, .delayedRefresh,
        .failedToStart 0 "Resource temporarily unavailable"]).1
  · decide +kernel
  · intro world wedged never
    simp only [Bool.and_eq_true, List.isEmpty_iff] at wedged
    obtain ⟨⟨ended, running⟩, idle⟩ := wedged
    have polled := (never.refreshes ended running).1
    exact List.cons_ne_nil _ _ (polled.symm.trans idle)

end SyncWorld
end CoderDesktop.FileSync
