import CoderDesktop.FileSync.FileSyncManager
import CoderDesktop.Semantics.Run

/-!
# The sync engine and the VPN

The poll timer and the daemon are to run only while the VPN is connected. They are
stopped when it goes down, and started when it comes up and when a session is created.
The latter does not look at the VPN, so `StartsUnderVpn` is a condition on its callers.
-/

namespace CoderDesktop.FileSync

open Semantics Settings

/-- What the rest of the manager's operations leave alone. -/
structure Engine where
  vpnConnected : Bool
  pollTimer : Bool
  daemon : MutagenDaemon
deriving DecidableEq, Repr

/-- Without the VPN nothing polls and no daemon runs. -/
def Engine.FollowsVpn (engine : Engine) : Prop :=
  engine.vpnConnected = false → engine.pollTimer = false ∧ engine.daemon.isRunning = false

/-- A process that is started for the daemon comes up. -/
def MutagenDaemon.comesUp (daemon : MutagenDaemon) (started : Bool) : Bool :=
  daemon.binaryPath ≠ "" ∧ started

namespace FileSyncManager

/-- What the manager's engine consists of. -/
def engine (manager : FileSyncManager) : Engine :=
  ⟨manager.vpnConnected, manager.pollTimer, manager.daemon⟩

/-- `createSession` gets past its guards. -/
def creates (manager : FileSyncManager) (daemonStarted : Bool) : Bool :=
  (manager.uploadAllowed || manager.downloadAllowed) &&
    (manager.daemon.isRunning || manager.daemon.comesUp daemonStarted)

end FileSyncManager

/-- The events that can start or stop the timer or the daemon. -/
def SyncEvent.movesEngine : SyncEvent → Bool
  | .createSession _ _ _ _ | .setVpnConnected _ _ | .daemonExited | .restart _ _ => true
  | .settings _ | .pauseSession _ | .resumeSession _ | .resetSession _ | .terminateSession _
  | .pollTimeout | .delayedRefresh | .takesEffect _ _ _ | .finished _ _ _
  | .failedToStart _ _ => false

namespace SyncWorld

/-- The engine follows the VPN flag of the manager. -/
def EngineFollowsVpn (world : SyncWorld) : Prop := world.manager.engine.FollowsVpn

/-- A session is created only under the VPN, or the call gives up before it starts anything. -/
def StartsUnderVpn (world : SyncWorld) : SyncEvent → Prop
  | .createSession _ _ _ daemonStarted =>
      world.manager.vpnConnected = true ∨ world.manager.creates daemonStarted = false
  | .settings _ | .pauseSession _ | .resumeSession _ | .resetSession _ | .terminateSession _
  | .setVpnConnected _ _ | .pollTimeout | .delayedRefresh | .takesEffect _ _ _
  | .finished _ _ _ | .failedToStart _ _ | .daemonExited | .restart _ _ => True

end SyncWorld

/-! ## The engine after an operation -/

namespace MutagenDaemon

variable (daemon : MutagenDaemon)

@[simp] theorem isRunning_stop : daemon.stop.isRunning = false := by
  unfold stop
  cases running : daemon.running with
  | true => rfl
  | false => exact running

/-- Whether it comes up decides between a running daemon and the old one. -/
theorem start_of_stopped {daemon : MutagenDaemon} (stopped : daemon.isRunning = false)
    (started : Bool) :
    daemon.start started =
      if daemon.comesUp started then ({ daemon with running := true }, true)
      else (daemon, false) := by
  unfold isRunning at stopped
  by_cases found : daemon.binaryPath = ""
  · simp [start, comesUp, stopped, found]
  · simp [start, comesUp, stopped, found]

end MutagenDaemon

namespace FileSyncManager

variable (manager : FileSyncManager)

@[simp] theorem engine_emit (signal : SyncSignal) :
    (manager.emit signal).engine = manager.engine := rfl

@[simp] theorem engine_applySettings (event : SettingsEvent) :
    (manager.applySettings event).engine = manager.engine := by
  simp only [applySettings]
  split <;> rfl

@[simp] theorem engine_runMutagenAsync (command : SyncCommand) :
    (manager.runMutagenAsync command).engine = manager.engine := by
  unfold runMutagenAsync
  split <;> rfl

@[simp] theorem engine_refreshSessions : manager.refreshSessions.engine = manager.engine := by
  unfold refreshSessions
  split
  · rfl
  · split
    · rfl
    · exact engine_runMutagenAsync _ _

@[simp] theorem engine_onDelayedRefresh : manager.onDelayedRefresh.engine = manager.engine :=
  engine_refreshSessions _

@[simp] theorem engine_updateModel (newSessions : List FileSyncSession) :
    (manager.updateModel newSessions).engine = manager.engine := by
  unfold updateModel
  dsimp only
  split <;> split <;> rfl

@[simp] theorem engine_onFinished (command : SyncCommand) (exitCode : Int) (output : Json) :
    (manager.onFinished command exitCode output).engine = manager.engine := by
  unfold onFinished
  split
  · rw [engine_refreshSessions]
    split <;> rfl
  · dsimp only
    split
    · rfl
    · exact engine_updateModel _ _

/-- A daemon that does not run is started, or left as it is. -/
theorem startDaemon_of_stopped {manager : FileSyncManager}
    (stopped : manager.daemon.isRunning = false) (started : Bool) :
    manager.startDaemon started =
      if manager.daemon.comesUp started then
        ({ manager with daemon := { manager.daemon with running := true } }.emit
          .availableChanged, true)
      else (manager, false) := by
  have down : manager.daemon.running = false := stopped
  cases up : manager.daemon.comesUp started with
  | true => simp [startDaemon, MutagenDaemon.start_of_stopped stopped, up, down]
  | false => simp [startDaemon, MutagenDaemon.start_of_stopped stopped, up, down]

@[simp] theorem engine_stopDaemon :
    manager.stopDaemon.engine =
      if manager.daemon.isRunning then { manager.engine with daemon := manager.daemon.stop }
      else manager.engine := by
  unfold stopDaemon
  split <;> rfl

@[simp] theorem engine_runCreate (localPath workspace remotePath : String) :
    (manager.runCreate localPath workspace remotePath).engine =
      ⟨manager.vpnConnected, true, manager.daemon⟩ := by
  simp only [runCreate, engine_runMutagenAsync]
  cases polling : manager.pollTimer <;> simp [engine, polling]

/-- Past its guards `createSession` leaves the timer active and the daemon running, and
otherwise it changes neither. -/
theorem engine_createSession (localPath workspace remotePath : String) (daemonStarted : Bool) :
    (manager.createSession localPath workspace remotePath daemonStarted).engine =
      if manager.creates daemonStarted then
        ⟨manager.vpnConnected, true, { manager.daemon with running := true }⟩
      else manager.engine := by
  unfold createSession
  have denied : (!manager.uploadAllowed && !manager.downloadAllowed) =
      !(manager.uploadAllowed || manager.downloadAllowed) := (Bool.not_or _ _).symm
  rw [denied]
  cases allowed : manager.uploadAllowed || manager.downloadAllowed with
  | false => simp [creates, allowed]
  | true =>
      cases running : manager.daemon.isRunning with
      | true =>
          have same : { manager.daemon with running := true } = manager.daemon := by
            rw [← running]
            rfl
          simp [creates, allowed, running, same]
      | false =>
          rw [startDaemon_of_stopped running]
          cases up : manager.daemon.comesUp daemonStarted with
          | true => simp [creates, allowed, up, emit]
          | false => simp [creates, allowed, running, up]

/-- The flag is set. -/
theorem vpnConnected_setVpnConnected (connected daemonStarted : Bool) :
    (manager.setVpnConnected connected daemonStarted).engine.vpnConnected = connected := by
  unfold setVpnConnected
  split
  · assumption
  · cases connected with
    | false =>
        simp only [Bool.false_eq_true, if_false, engine_stopDaemon]
        split <;> rfl
    | true =>
        cases running : manager.daemon.isRunning with
        | true => simp [emit, running, engine]
        | false =>
            have stopped : ({ manager with vpnConnected := true }.emit
              .availableChanged).daemon.isRunning = false := running
            simp only [if_true, stopped, Bool.false_eq_true, if_false,
              startDaemon_of_stopped stopped]
            split
            · rename_i result
              split at result <;> cases result
              rfl
            · rename_i result
              split at result <;> cases result
              rfl

/-- Going down stops both, whatever state they are in. -/
theorem followsVpn_setVpnConnected (follows : manager.engine.FollowsVpn)
    (connected daemonStarted : Bool) :
    (manager.setVpnConnected connected daemonStarted).engine.FollowsVpn := by
  intro down
  have same := (vpnConnected_setVpnConnected manager connected daemonStarted).symm.trans down
  subst same
  unfold setVpnConnected
  split
  · rename_i same
    exact follows same
  · simp only [Bool.false_eq_true, if_false, engine_stopDaemon]
    split
    · exact ⟨rfl, MutagenDaemon.isRunning_stop _⟩
    · rename_i stopped
      exact ⟨rfl, Bool.eq_false_iff.mpr stopped⟩

end FileSyncManager

/-! ## Runs -/

namespace SyncWorld

variable {world : SyncWorld}

/-- Creating a session is the only step that can start the engine without the VPN. -/
theorem engineFollowsVpn_createSession (follows : world.EngineFollowsVpn)
    (localPath workspace remotePath : String) (daemonStarted : Bool) :
    (world.manager.createSession localPath workspace remotePath
        daemonStarted).engine.FollowsVpn ↔
      world.StartsUnderVpn (.createSession localPath workspace remotePath daemonStarted) := by
  rw [FileSyncManager.engine_createSession]
  cases creates : world.manager.creates daemonStarted with
  | false => exact iff_of_true follows (.inr creates)
  | true => simp [Engine.FollowsVpn, StartsUnderVpn, creates]

/-- A step that leaves the engine alone. -/
theorem engineFollowsVpn_congr {manager : FileSyncManager} {mutagen : List MutagenSession}
    (engine : manager.engine = world.manager.engine) (follows : world.EngineFollowsVpn) :
    EngineFollowsVpn ⟨manager, mutagen⟩ := by
  unfold EngineFollowsVpn
  rw [engine]
  exact follows

/-- The other events leave timer and daemon alone. -/
theorem engine_next {event : SyncEvent} {after : SyncWorld}
    (still : event.movesEngine = false) (taken : world.next event = some after) :
    after.manager.engine = world.manager.engine := by
  cases event with
  | createSession | setVpnConnected | daemonExited | restart => cases still
  | settings event =>
      obtain rfl := Option.some.inj taken
      exact FileSyncManager.engine_applySettings _ _
  | pauseSession sessionId | resumeSession sessionId | resetSession sessionId
  | terminateSession sessionId =>
      obtain rfl := Option.some.inj taken
      exact FileSyncManager.engine_runMutagenAsync _ _
  | pollTimeout =>
      obtain ⟨-, rfl⟩ := of_guarded taken
      exact FileSyncManager.engine_refreshSessions _
  | delayedRefresh =>
      obtain ⟨-, rfl⟩ := of_guarded taken
      exact FileSyncManager.engine_onDelayedRefresh _
  | takesEffect index identifier selected =>
      simp only [next] at taken
      split at taken
      · obtain rfl := Option.some.inj taken
        rfl
      · cases taken
      · cases taken
  | finished index exitCode output =>
      simp only [next] at taken
      split at taken
      · obtain rfl := Option.some.inj taken
        exact FileSyncManager.engine_onFinished _ _ _ _
      · cases taken
  | failedToStart index errorString =>
      simp only [next] at taken
      split at taken
      · obtain rfl := Option.some.inj taken
        rfl
      · cases taken
      · cases taken

/-- A step keeps the engine with the flag exactly under `StartsUnderVpn`. -/
theorem engineFollowsVpn_step {event : SyncEvent} {after : SyncWorld}
    (follows : world.EngineFollowsVpn) (taken : world.next event = some after) :
    after.EngineFollowsVpn ↔ world.StartsUnderVpn event := by
  cases event with
  | createSession localPath workspace remotePath daemonStarted =>
      obtain rfl := Option.some.inj taken
      exact engineFollowsVpn_createSession follows _ _ _ _
  | setVpnConnected connected daemonStarted =>
      obtain rfl := Option.some.inj taken
      exact iff_of_true (world.manager.followsVpn_setVpnConnected follows _ _) trivial
  | daemonExited =>
      obtain ⟨-, rfl⟩ := of_guarded taken
      exact iff_of_true (fun down => ⟨(follows down).1, rfl⟩) trivial
  | restart settings binaryPath =>
      obtain rfl := Option.some.inj taken
      exact iff_of_true (fun _ => ⟨rfl, rfl⟩) trivial
  | _ =>
      -- Nothing that the property speaks of changes.
      exact iff_of_true (engineFollowsVpn_congr (engine_next rfl taken) follows) trivial

/-- Timer and daemon run only while the VPN is connected exactly if sessions are created
only then, calls that give up first apart. -/
theorem engineFollowsVpn_iff (settings : SettingsManager) (binaryPath : String)
    (events : List SyncEvent) :
    (∀ world, Visits next (startup settings binaryPath) events world →
        world.EngineFollowsVpn) ↔
      Conforms next StartsUnderVpn (startup settings binaryPath) events :=
  visits_iff_conforms (fun _ => True) EngineFollowsVpn (fun _ _ _ _ _ => trivial)
    (fun _ _ _ _ follows taken => engineFollowsVpn_step follows taken) trivial
    (fun _ => ⟨rfl, rfl⟩) events

/-- A session that is created before the VPN was ever up starts timer and daemon. -/
theorem not_engineFollowsVpn :
    ¬ (∀ settings binaryPath events world,
      Visits next (startup settings binaryPath) events world → world.EngineFollowsVpn) := by
  intro always
  refine not_visits_of_replay
    (fun world => !world.manager.vpnConnected && world.manager.pollTimer) ?_ ?_
    (always ⟨.disabled, fun _ => none⟩ "mutagen" [.createSession "a" "w" "b" true])
  · decide +kernel
  · intro world started follows
    simp only [Bool.and_eq_true, Bool.not_eq_true'] at started
    have stopped := (follows started.1).1
    exact Bool.false_ne_true (stopped.symm.trans started.2)

end SyncWorld
end CoderDesktop.FileSync
