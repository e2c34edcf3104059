import CoderDesktop.FileSync.Endpoint
import CoderDesktop.FileSync.FileSyncSession
import CoderDesktop.FileSync.MutagenDaemon
import CoderDesktop.Settings.SettingsManager

/-!
# The file-sync manager

`FileSyncManager` with the `mutagen` processes it has started and not yet seen the end
of, next to the sessions Mutagen keeps. A process takes effect in Mutagen at some time
before it is reported finished, if it does at all; events resolve this, the ends of
processes and the timers.
-/

namespace CoderDesktop.FileSync

open Settings

/-- The `mutagen sync` commands the manager runs. -/
inductive SyncCommand where
  | create (alpha beta : Endpoint) (oneWayReplica : Bool)
  | pause (sessionId : String)
  | resume (sessionId : String)
  | reset (sessionId : String)
  | terminate (sessionId : String)
  | list
deriving DecidableEq, Repr

/-- The arguments of the process. -/
def SyncCommand.args : SyncCommand → List String
  | .create alpha beta oneWayReplica =>
      ["sync", "create", alpha.url, beta.url, "--ignore-vcs"] ++
        if oneWayReplica then ["--mode=one-way-replica"] else []
  | .pause sessionId => ["sync", "pause", sessionId]
  | .resume sessionId => ["sync", "resume", sessionId]
  | .reset sessionId => ["sync", "reset", sessionId]
  | .terminate sessionId => ["sync", "terminate", sessionId]
  | .list => ["sync", "list", "--template", "\x7b\x7bjson .\x7d\x7d"]

/-- A process that was started and whose end was not yet reported. -/
structure MutagenProcess where
  command : SyncCommand
  /-- Mutagen has carried the command out. -/
  applied : Bool
deriving DecidableEq, Repr

/-- The signals of the manager. -/
inductive SyncSignal where
  | availableChanged
  | policyChanged
  | sessionCountChanged
  | statusSummaryChanged
  | errorOccurred (message : String)
deriving DecidableEq, Repr

/-- `FileSyncManager`, with the processes it waits for. -/
structure FileSyncManager where
  settings : SettingsManager
  daemon : MutagenDaemon
  /-- The poll timer is active. -/
  pollTimer : Bool
  vpnConnected : Bool
  pollInFlight : Bool
  sessions : List FileSyncSession
  processes : List MutagenProcess
  /-- Single-shot timers that will call `refreshSessions`. -/
  delayedRefreshes : Nat
  emitted : List SyncSignal

namespace FileSyncManager

/-- The manager at startup. -/
def new (settings : SettingsManager) (binaryPath : String) : FileSyncManager where
  settings := settings
  daemon := .new binaryPath
  pollTimer := false
  vpnConnected := false
  pollInFlight := false
  sessions := []
  processes := []
  delayedRefreshes := 0
  emitted := []

/-- A signal is emitted. -/
def emit (manager : FileSyncManager) (signal : SyncSignal) : FileSyncManager :=
  { manager with emitted := manager.emitted ++ [signal] }

/-- The settings do not disable uploads. -/
def uploadAllowed (manager : FileSyncManager) : Bool := !manager.settings.disableFileUpload

/-- The settings do not disable downloads. -/
def downloadAllowed (manager : FileSyncManager) : Bool := !manager.settings.disableFileDownload

/-- The VPN is up and at least one direction is allowed. -/
def isAvailable (manager : FileSyncManager) : Bool :=
  manager.vpnConnected && (manager.uploadAllowed || manager.downloadAllowed)

/-- The mode the settings leave: both directions unless exactly one is disabled. -/
def effectiveSyncMode (manager : FileSyncManager) : FileSyncMode :=
  let noUpload := manager.settings.disableFileUpload
  let noDownload := manager.settings.disableFileDownload
  if noUpload && !noDownload then .oneWayRemoteToLocal
  else if noDownload && !noUpload then .oneWayLocalToRemote
  else .twoWay

/-- The handler of `settingsChanged`. -/
def onSettingsChanged (manager : FileSyncManager) : FileSyncManager :=
  (manager.emit .policyChanged).emit .availableChanged

/-- The settings are shared: they change, and the handler runs if they emit the signal. -/
def applySettings (manager : FileSyncManager) (event : SettingsEvent) : FileSyncManager :=
  let changed := { manager with settings := (manager.settings.apply event).1 }
  if (manager.settings.apply event).2 then changed.onSettingsChanged else changed

/-- A `runningChanged` signal of the daemon is passed on as `availableChanged`. -/
def startDaemon (manager : FileSyncManager) (started : Bool) : FileSyncManager × Bool :=
  let (daemon, result) := manager.daemon.start started
  let after := { manager with daemon }
  (if daemon.running && !manager.daemon.running then after.emit .availableChanged else after,
    result)

/-- A daemon that runs is stopped, and the availability announced. -/
def stopDaemon (manager : FileSyncManager) : FileSyncManager :=
  if manager.daemon.isRunning then
    { manager with daemon := manager.daemon.stop }.emit .availableChanged
  else manager

/-- What follows the end of the process depends on its command: `onFinished`. -/
def runMutagenAsync (manager : FileSyncManager) (command : SyncCommand) : FileSyncManager :=
  if manager.daemon.binaryPath = "" then
    manager.emit (.errorOccurred "Mutagen binary not found")
  else { manager with processes := manager.processes ++ [⟨command, false⟩] }

/-- `refreshSessions`: at most one poll at a time. -/
def refreshSessions (manager : FileSyncManager) : FileSyncManager :=
  if !manager.daemon.isRunning then manager
  else if manager.pollInFlight then manager
  else { manager with pollInFlight := true }.runMutagenAsync .list

/-- A single-shot timer fires. -/
def onDelayedRefresh (manager : FileSyncManager) : FileSyncManager :=
  { manager with delayedRefreshes := manager.delayedRefreshes - 1 }.refreshSessions

/-- The sessions are replaced; a changed count and a changed summary are announced. -/
def updateModel (manager : FileSyncManager) (newSessions : List FileSyncSession) :
    FileSyncManager :=
  let after := { manager with sessions := newSessions }
  let after :=
    if manager.sessions.length ≠ newSessions.length then after.emit .sessionCountChanged
    else after
  if statusSummary newSessions ≠ statusSummary manager.sessions then
    after.emit .statusSummaryChanged
  else after

/-- `createSession` adds the mode flag. -/
def oneWayReplica (manager : FileSyncManager) : Bool :=
  let mode := manager.effectiveSyncMode
  mode = .oneWayRemoteToLocal ∨ mode = .oneWayLocalToRemote

/-- The part of `createSession` after the guards. -/
def runCreate (manager : FileSyncManager) (localPath workspace remotePath : String) :
    FileSyncManager :=
  let polling := if !manager.pollTimer then { manager with pollTimer := true } else manager
  polling.runMutagenAsync
    (.create (.localPath localPath) (.remotePath workspace remotePath) manager.oneWayReplica)

/-- `createSession`: a daemon that does not run is started first. -/
def createSession (manager : FileSyncManager) (localPath workspace remotePath : String)
    (daemonStarted : Bool) : FileSyncManager :=
  if !manager.uploadAllowed && !manager.downloadAllowed then
    manager.emit (.errorOccurred "File sync is disabled by policy")
  else if !manager.daemon.isRunning then
    match manager.startDaemon daemonStarted with
    | (started, true) => started.runCreate localPath workspace remotePath
    | (failed, false) => failed.emit (.errorOccurred "Failed to start Mutagen daemon")
  else manager.runCreate localPath workspace remotePath

/-- Mutagen is told to pause a session. -/
def pauseSession (manager : FileSyncManager) (sessionId : String) : FileSyncManager :=
  manager.runMutagenAsync (.pause sessionId)

/-- Mutagen is told to resume a session. -/
def resumeSession (manager : FileSyncManager) (sessionId : String) : FileSyncManager :=
  manager.runMutagenAsync (.resume sessionId)

/-- Mutagen is told to reset a session. -/
def resetSession (manager : FileSyncManager) (sessionId : String) : FileSyncManager :=
  manager.runMutagenAsync (.reset sessionId)

/-- Mutagen is told to terminate a session. -/
def terminateSession (manager : FileSyncManager) (sessionId : String) : FileSyncManager :=
  manager.runMutagenAsync (.terminate sessionId)

/-- The message shown when a command exits with a code other than zero; the failure of
a poll is only logged. -/
def failureMessage : SyncCommand → Option String
  | .create _ _ _ => some "Failed to create sync session (see logs)"
  | .pause _ => some "Failed to pause session"
  | .resume _ => some "Failed to resume session"
  | .reset _ => some "Failed to reset session"
  | .terminate _ => some "Failed to terminate session"
  | .list => none

/-- The callback of a command, when its process has finished. -/
def onFinished (manager : FileSyncManager) (command : SyncCommand) (exitCode : Int)
    (output : Json) : FileSyncManager :=
  match failureMessage command with
  | some message =>
      let reported :=
        if exitCode ≠ 0 then manager.emit (.errorOccurred message) else manager
      reported.refreshSessions
  | none =>
      let settled := { manager with pollInFlight := false }
      if exitCode ≠ 0 then settled else settled.updateModel (parseSessionList output)

/-- The handler of `FailedToStart`; the callback is not called. -/
def onFailedToStart (manager : FileSyncManager) (errorString : String) : FileSyncManager :=
  manager.emit (.errorOccurred ("Failed to start mutagen: " ++ errorString))

/-- `setVpnConnected`: the daemon and the poll timer follow the flag when it changes. -/
def setVpnConnected (manager : FileSyncManager) (connected daemonStarted : Bool) :
    FileSyncManager :=
  if manager.vpnConnected = connected then manager
  else
    let changed := { manager with vpnConnected := connected }.emit .availableChanged
    if connected then
      match if changed.daemon.isRunning then (changed, true)
        else changed.startDaemon daemonStarted with
      | (running, true) =>
          { running with pollTimer := true, delayedRefreshes := running.delayedRefreshes + 1 }
      | (failed, false) => failed
    else { changed with pollTimer := false }.stopDaemon

end FileSyncManager

/-! ## The system -/

/-- A session as Mutagen keeps it. -/
structure MutagenSession where
  identifier : String
  alpha : Endpoint
  beta : Endpoint
  oneWayReplica : Bool
  paused : Bool
deriving DecidableEq, Repr

/-- What a command does to Mutagen's sessions. `identifier` is the one a new session
gets, `selected` are the sessions the command's argument stands for. A reset keeps a
session paused or running as it was. -/
def SyncCommand.effect (identifier : String) (selected : MutagenSession → Bool)
    (sessions : List MutagenSession) : SyncCommand → List MutagenSession
  | .create alpha beta oneWayReplica =>
      sessions ++ [⟨identifier, alpha, beta, oneWayReplica, false⟩]
  | .pause _ =>
      sessions.map fun session =>
        if selected session then { session with paused := true } else session
  | .resume _ =>
      sessions.map fun session =>
        if selected session then { session with paused := false } else session
  | .reset _ => sessions
  | .terminate _ => sessions.filter fun session => !selected session
  | .list => sessions

/-- The manager and the sessions Mutagen keeps. -/
structure SyncWorld where
  manager : FileSyncManager
  /-- Mutagen keeps its sessions on disk. -/
  mutagen : List MutagenSession

/-- Calls on the manager, its timers, and the ends of its processes. -/
inductive SyncEvent where
  | settings (event : SettingsEvent)
  | createSession (localPath workspace remotePath : String) (daemonStarted : Bool)
  | pauseSession (sessionId : String)
  | resumeSession (sessionId : String)
  | resetSession (sessionId : String)
  | terminateSession (sessionId : String)
  | setVpnConnected (connected daemonStarted : Bool)
  | pollTimeout
  | delayedRefresh
  /-- Mutagen carries out the command of a process. -/
  | takesEffect (index : Nat) (identifier : String) (selected : MutagenSession → Bool)
  | finished (index : Nat) (exitCode : Int) (output : Json)
  | failedToStart (index : Nat) (errorString : String)
  | daemonExited
  /-- The application is closed and started again. -/
  | restart (settings : SettingsManager) (binaryPath : String)

namespace SyncWorld

/-- The first start of the application. -/
def startup (settings : SettingsManager) (binaryPath : String) : SyncWorld :=
  ⟨.new settings binaryPath, []⟩

/-- The settings the manager reads. -/
def settings (world : SyncWorld) : SettingsManager := world.manager.settings

/-- The step of an operation of the manager. -/
def call (world : SyncWorld) (operation : FileSyncManager → FileSyncManager) : SyncWorld :=
  { world with manager := operation world.manager }

/-- The end of a process: it is no longer there when the handler runs. -/
def ended (world : SyncWorld) (index : Nat) (handler : FileSyncManager → FileSyncManager) :
    SyncWorld :=
  world.call fun manager =>
    handler { manager with processes := manager.processes.eraseIdx index }

/-- One event, where it can happen. -/
def next (world : SyncWorld) : SyncEvent → Option SyncWorld
  | .settings event => some (world.call (·.applySettings event))
  | .createSession localPath workspace remotePath daemonStarted =>
      some (world.call (·.createSession localPath workspace remotePath daemonStarted))
  | .pauseSession sessionId => some (world.call (·.pauseSession sessionId))
  | .resumeSession sessionId => some (world.call (·.resumeSession sessionId))
  | .resetSession sessionId => some (world.call (·.resetSession sessionId))
  | .terminateSession sessionId => some (world.call (·.terminateSession sessionId))
  | .setVpnConnected connected daemonStarted =>
      some (world.call (·.setVpnConnected connected daemonStarted))
  | .pollTimeout =>
      if world.manager.pollTimer then some (world.call (·.refreshSessions)) else none
  | .delayedRefresh =>
      if 0 < world.manager.delayedRefreshes then
        some (world.call (·.onDelayedRefresh))
      else none
  | .takesEffect index identifier selected =>
      match world.manager.processes[index]? with
      | some ⟨command, false⟩ =>
          some
            { manager :=
                { world.manager with
                  processes := world.manager.processes.set index ⟨command, true⟩ }
              mutagen := command.effect identifier selected world.mutagen }
      | some ⟨_, true⟩ => none
      | none => none
  | .finished index exitCode output =>
      match world.manager.processes[index]? with
      | some process => some (world.ended index (·.onFinished process.command exitCode output))
      | none => none
  | .failedToStart index errorString =>
      match world.manager.processes[index]? with
      | some ⟨_, false⟩ => some (world.ended index (·.onFailedToStart errorString))
      | some ⟨_, true⟩ => none
      | none => none
  | .daemonExited =>
      if world.manager.daemon.isRunning then
        some (world.call fun manager =>
          { manager with daemon := manager.daemon.onProcessFinished }.emit .availableChanged)
      else none
  | .restart settings binaryPath => some { world with manager := .new settings binaryPath }

end SyncWorld
end CoderDesktop.FileSync
