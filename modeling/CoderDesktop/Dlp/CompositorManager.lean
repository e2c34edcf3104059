import CoderDesktop.Dlp.SandboxLauncher
import CoderDesktop.Settings.SettingsManager

/-!
# The manager of sandboxed applications

`DlpCompositorManager` with the list shown by the UI, and the handler `main` connects
to `settingsChanged`. Every application owns a compositor; of its state the policy
and the watermark identity are kept here. Results of system calls are inputs.
-/

namespace CoderDesktop.Dlp

open Settings

/-- `coder_dlp_policy`. -/
structure CoderDlpPolicy where
  clipboardBlockOutgoing : Bool
  clipboardBlockIncoming : Bool
  screenshotBlock : Bool
  fileSandbox : Bool
  networkSandbox : Bool
  watermarkEnabled : Bool
deriving DecidableEq, Repr

/-- An entry of the manager, with what its compositor was given. -/
structure RunningApp where
  pid : Int
  appName : String
  command : String
  /-- The policy of the application's compositor. -/
  policy : CoderDlpPolicy
  /-- The watermark identity of the application's compositor, once set. -/
  identity : Option String
  bwrapExited : Bool
deriving DecidableEq, Repr

/-- A row of `RunningAppModel`. -/
structure RunningAppEntry where
  pid : Int
  appName : String
  command : String
deriving DecidableEq, Repr

/-- `RunningAppModel::removeApp`: the first row with the pid. -/
def removeRow (rows : List RunningAppEntry) (pid : Int) : List RunningAppEntry :=
  rows.eraseP fun row => row.pid = pid

/-- The arguments of `launchApp`. -/
structure LaunchRequest where
  command : String
  appName : String
  workspacePath : String
  isolatePid : Bool
  isolateIpc : Bool
  isolateNetwork : Bool
  isolateFilesystem : Bool
  bindHomeRw : Bool
  extraBindPaths : List String
  filterDbus : Bool
deriving DecidableEq, Repr

/-- The sandbox configuration `launchApp` builds. -/
def LaunchRequest.sandbox (request : LaunchRequest) : SandboxConfig where
  workspacePath := if request.workspacePath = "" then none else some request.workspacePath
  networkNamespace := if request.isolateNetwork then some "dlp_net" else none
  isolatePid := request.isolatePid
  isolateIpc := request.isolateIpc
  isolateFilesystem := request.isolateFilesystem
  bindHomeRw := request.bindHomeRw
  extraBindPaths :=
    if request.extraBindPaths = [] then none else some (request.extraBindPaths.map some)
  filterDbus := request.filterDbus

/-- How the calls of `launchApp` end. -/
structure LaunchOutcome where
  available : Bool
  created : Bool
  /-- The result of `coder_dlp_launch_app`. -/
  pid : Int
deriving DecidableEq, Repr

/-- An application runs after the call. -/
def LaunchOutcome.succeeds (outcome : LaunchOutcome) : Bool :=
  outcome.available ∧ outcome.created ∧ 0 ≤ outcome.pid

/-- The fields of the manager, with the model it shows. -/
structure DlpCompositorManager where
  apps : List RunningApp
  runningAppModel : List RunningAppEntry
  currentPolicy : CoderDlpPolicy
  watermarkIdentity : String
deriving DecidableEq, Repr

namespace DlpCompositorManager

/-- The manager as constructed; `m_currentPolicy` is value-initialised. -/
def new : DlpCompositorManager where
  apps := []
  runningAppModel := []
  currentPolicy := ⟨false, false, false, false, false, false⟩
  watermarkIdentity := ""

/-- There is an application. -/
def isRunning (manager : DlpCompositorManager) : Bool :=
  manager.apps ≠ []

/-- The manager afterwards and the returned pid. -/
def launchApp (manager : DlpCompositorManager) (request : LaunchRequest)
    (outcome : LaunchOutcome) : DlpCompositorManager × Int :=
  if ¬ outcome.available then (manager, -1)
  else if ¬ outcome.created then (manager, -1)
  else if outcome.pid < 0 then (manager, -1)
  else
    let appName := if request.appName = "" then request.command else request.appName
    let app : RunningApp :=
      { pid := outcome.pid
        appName := appName
        command := request.command
        policy := manager.currentPolicy
        identity :=
          if manager.watermarkIdentity = "" then none else some manager.watermarkIdentity
        bwrapExited := false }
    ({ manager with
        apps := manager.apps ++ [app]
        runningAppModel :=
          manager.runningAppModel ++ [⟨outcome.pid, appName, request.command⟩] }, outcome.pid)

/-- `removeApp`; an index out of range is ignored. -/
def removeApp (manager : DlpCompositorManager) (index : Nat) : DlpCompositorManager :=
  match manager.apps[index]? with
  | none => manager
  | some app =>
      { manager with
        apps := manager.apps.eraseIdx index
        runningAppModel := removeRow manager.runningAppModel app.pid }

/-- The manager afterwards and the pids that were sent SIGTERM. -/
def stopApp (manager : DlpCompositorManager) (pid : Int) : DlpCompositorManager × List Int :=
  match manager.apps.findIdx? fun app => app.pid = pid with
  | some index => (manager.removeApp index, [pid])
  | none => (manager, [])

/-- All entries go; the processes are sent a signal. -/
def stopAll (manager : DlpCompositorManager) : DlpCompositorManager × List Int :=
  ({ manager with apps := [], runningAppModel := [] },
    (manager.apps.map (·.pid)).filter (0 < ·))

/-- The policy is kept, and given to every compositor. -/
def updatePolicy (manager : DlpCompositorManager) (clipboardBlockOutgoing clipboardBlockIncoming
    screenshotBlock fileSandbox networkSandbox watermarkEnabled : Bool) : DlpCompositorManager :=
  let policy : CoderDlpPolicy :=
    ⟨clipboardBlockOutgoing, clipboardBlockIncoming, screenshotBlock, fileSandbox,
      networkSandbox, watermarkEnabled⟩
  { manager with
    currentPolicy := policy
    apps := manager.apps.map fun app => { app with policy := policy } }

/-- The identity is kept, and given to every compositor. -/
def setWatermarkIdentity (manager : DlpCompositorManager) (identity : String) :
    DlpCompositorManager :=
  { manager with
    watermarkIdentity := identity
    apps := manager.apps.map fun app => { app with identity := some identity } }

/-- One round of the loop of `checkChildProcesses`: `exited` is whether `waitpid`
returned the child, `clients` the number of connected clients. -/
def checkChild (manager : DlpCompositorManager) (index : Nat) (exited : Bool) (clients : Nat) :
    DlpCompositorManager :=
  match manager.apps[index]? with
  | none => manager
  | some app =>
      let polled :=
        { manager with
          apps := manager.apps.set index { app with bwrapExited := app.bwrapExited || exited } }
      if (app.bwrapExited || exited) ∧ clients = 0 then polled.removeApp index else polled

/-- The indices are visited from the last to the first. -/
def checkChildProcesses (manager : DlpCompositorManager) (exited : Nat → Bool)
    (clients : Nat → Nat) : DlpCompositorManager :=
  (List.range manager.apps.length).reverse.foldl
    (fun current index => current.checkChild index (exited index) (clients index)) manager

end DlpCompositorManager

/-- The handler of `settingsChanged` in `main`. -/
def onSettingsChanged (settings : SettingsManager) (manager : DlpCompositorManager) :
    DlpCompositorManager :=
  if manager.isRunning then
    manager.updatePolicy settings.dlpClipboardBlock settings.dlpClipboardBlock true
      settings.dlpFileSandbox settings.dlpNetworkSandbox settings.dlpWatermark
  else
    manager

/-! ## What the operations do to the applications -/

namespace DlpCompositorManager

variable {manager : DlpCompositorManager}

/-- A launch that fails changes nothing. -/
theorem launchApp_of_failed {request : LaunchRequest} {outcome : LaunchOutcome}
    (failed : outcome.succeeds = false) : manager.launchApp request outcome = (manager, -1) := by
  unfold launchApp
  split
  · rfl
  split
  · rfl
  split
  · rfl
  · simp_all [LaunchOutcome.succeeds]

/-- A launch that succeeds adds one application, under the manager's current policy. -/
theorem launchApp_of_succeeds (request : LaunchRequest) {outcome : LaunchOutcome}
    (succeeds : outcome.succeeds = true) :
    ∃ app, (manager.launchApp request outcome).1.apps = manager.apps ++ [app] ∧
      (manager.launchApp request outcome).1.currentPolicy = manager.currentPolicy ∧
      app.policy = manager.currentPolicy := by
  simp only [LaunchOutcome.succeeds, decide_eq_true_eq] at succeeds
  obtain ⟨available, created, started⟩ := succeeds
  have launched : ¬ outcome.pid < 0 := by omega
  simp [launchApp, available, created, launched]

/-- A removal drops an app at most. -/
theorem removeApp_sublist (index : Nat) :
    (manager.removeApp index).apps.Sublist manager.apps ∧
      (manager.removeApp index).currentPolicy = manager.currentPolicy := by
  unfold removeApp
  split
  · exact ⟨List.Sublist.refl _, rfl⟩
  · exact ⟨List.eraseIdx_sublist _ _, rfl⟩

end DlpCompositorManager
end CoderDesktop.Dlp
