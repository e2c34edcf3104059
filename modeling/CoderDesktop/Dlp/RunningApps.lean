import CoderDesktop.Dlp.CompositorManager
import Mathlib.Data.List.InsertIdx

/-!
# Running applications and their compositors

`DlpCompositorManager` with what `CompositorManager` leaves out: the compositor each
entry points to, the calls made on it, and the signals. Compositors are numbered as they
are created. Each operation does to applications, rows and policies what the operation
of that module does.
-/

namespace CoderDesktop.Dlp

/-- The functions of the compositor library that take a compositor. -/
inductive CompositorFunction where
  | setLogCallback
  | setPolicy
  | setWatermarkIdentity
  | setOutputTitle
  | getFd
  | launchApp
  | dispatch
  | getClientCount
  | destroy
deriving DecidableEq, Repr

/-- A call of a compositor function on one compositor. -/
structure CompositorCall where
  function : CompositorFunction
  compositor : Nat
deriving DecidableEq, Repr

/-- The call is `dlp_compositor_destroy`. -/
def CompositorCall.destroys (call : CompositorCall) : Bool := call.function = .destroy

/-- The signals of the manager. -/
inductive ManagerSignal where
  | runningChanged
  | appCountChanged
  | errorOccurred (message : String)
deriving DecidableEq, Repr

/-- An entry of `m_apps`. -/
structure ManagedApp where
  app : RunningApp
  /-- The compositor it owns, or null. -/
  compositor : Option Nat
deriving DecidableEq, Repr

/-- The manager with what it has done to its compositors. -/
structure AppSession where
  apps : List ManagedApp
  runningAppModel : List RunningAppEntry
  currentPolicy : CoderDlpPolicy
  watermarkIdentity : String
  /-- History: the compositors created, the calls on them, and the signals. -/
  created : Nat
  calls : List CompositorCall
  emitted : List ManagerSignal
deriving DecidableEq, Repr

namespace AppSession

/-- No app was launched yet, and the policy is off. -/
def new : AppSession where
  apps := []
  runningAppModel := []
  currentPolicy := ⟨false, false, false, false, false, false⟩
  watermarkIdentity := ""
  created := 0
  calls := []
  emitted := []

variable (session : AppSession)

/-- A signal is emitted. -/
def emit (signal : ManagerSignal) : AppSession :=
  { session with emitted := session.emitted ++ [signal] }

/-- A compositor function is called. -/
def call (function : CompositorFunction) (compositor : Nat) : AppSession :=
  { session with calls := session.calls ++ [⟨function, compositor⟩] }

/-- A call on the compositor of an entry, if it has one. -/
def callOf (function : CompositorFunction) (app : ManagedApp) : AppSession :=
  { session with calls := session.calls ++ app.compositor.toList.map (⟨function, ·⟩) }

/-- A call for each entry, in their order. -/
def callAll (function : CompositorFunction) : AppSession :=
  { session with
    calls := session.calls ++
      session.apps.flatMap fun app => app.compositor.toList.map (⟨function, ·⟩) }

/-- The functions called on a new compositor, up to `coder_dlp_launch_app`. -/
def setupFunctions : List CompositorFunction :=
  [CompositorFunction.setLogCallback, .setPolicy] ++
    (if session.watermarkIdentity = "" then [] else [CompositorFunction.setWatermarkIdentity]) ++
      [CompositorFunction.setOutputTitle, .getFd, .launchApp]

/-- A compositor is created and set up. -/
def openCompositor : AppSession :=
  { session with
    created := session.created + 1
    calls := session.calls ++ session.setupFunctions.map (⟨·, session.created⟩) }

/-- `DlpCompositorManager::launchApp`, with the pid it returns. -/
def launchApp (request : LaunchRequest) (outcome : LaunchOutcome) : AppSession × Int :=
  if ¬ outcome.available then
    (session.emit (.errorOccurred "DLP compositor requires a Wayland or X11 session"), -1)
  else if ¬ outcome.created then
    (session.emit (.errorOccurred
      s!"Failed to create DLP compositor for: {request.command}"), -1)
  else
    let opened := session.openCompositor
    if outcome.pid < 0 then
      ((opened.emit (.errorOccurred s!"Failed to launch app: {request.command}")).call .destroy
        session.created, -1)
    else
      let appName := if request.appName = "" then request.command else request.appName
      let app : RunningApp :=
        { pid := outcome.pid
          appName := appName
          command := request.command
          policy := session.currentPolicy
          identity :=
            if session.watermarkIdentity = "" then none else some session.watermarkIdentity
          bwrapExited := false }
      let stored : AppSession := { opened with
        apps := session.apps ++ [⟨app, some session.created⟩]
        runningAppModel :=
          session.runningAppModel ++ [⟨outcome.pid, appName, request.command⟩] }
      let counted := stored.emit .appCountChanged
      (if session.apps = [] then counted.emit .runningChanged else counted, outcome.pid)

/-- The app at an index is destroyed, leaves both lists, and the signals follow. -/
def removeApp (index : Nat) : AppSession :=
  match session.apps[index]? with
  | none => session
  | some app =>
      let destroyed := session.callOf .destroy app
      let erased := { destroyed with
        apps := session.apps.eraseIdx index
        runningAppModel := removeRow session.runningAppModel app.app.pid }
      let counted := erased.emit .appCountChanged
      if counted.apps = [] then counted.emit .runningChanged else counted

/-- The session afterwards and the pids that were sent SIGTERM. -/
def stopApp (pid : Int) : AppSession × List Int :=
  match session.apps.findIdx? fun app => app.app.pid = pid with
  | some index => (session.removeApp index, [pid])
  | none => (session, [])

/-- `DlpCompositorManager::stopAll`, with the pids it sends a signal to. -/
def stopAll : AppSession × List Int :=
  let cleared := { session.callAll .destroy with apps := [], runningAppModel := [] }
  (if session.apps ≠ [] then (cleared.emit .appCountChanged).emit .runningChanged else cleared,
    (session.apps.map (·.app.pid)).filter (0 < ·))

/-- The clients are counted only if the process has exited. -/
def checkChild (index : Nat) (exited : Bool) (clients : Nat) : AppSession :=
  match session.apps[index]? with
  | none => session
  | some app =>
      let polled :=
        { session with
          apps := session.apps.set index
            { app with app := { app.app with bwrapExited := app.app.bwrapExited || exited } } }
      if app.app.bwrapExited || exited then
        let counted := polled.callOf .getClientCount app
        if clients = 0 then counted.removeApp index else counted
      else polled

/-- `DlpCompositorManager::checkChildProcesses`, from the last app to the first. -/
def checkChildProcesses (exited : Nat → Bool) (clients : Nat → Nat) : AppSession :=
  (List.range session.apps.length).reverse.foldl
    (fun current index => current.checkChild index (exited index) (clients index)) session

/-- The notifier of an entry lives as long as the entry. -/
def dispatch (index : Nat) : AppSession :=
  match session.apps[index]? with
  | none => session
  | some app => session.callOf .dispatch app

/-- The policy is built from the six settings and set on every compositor. -/
def updatePolicy (clipboardBlockOutgoing clipboardBlockIncoming screenshotBlock fileSandbox
    networkSandbox watermarkEnabled : Bool) : AppSession :=
  let policy : CoderDlpPolicy :=
    ⟨clipboardBlockOutgoing, clipboardBlockIncoming, screenshotBlock, fileSandbox,
      networkSandbox, watermarkEnabled⟩
  { session.callAll .setPolicy with
    currentPolicy := policy
    apps := session.apps.map fun app => { app with app := { app.app with policy := policy } } }

/-- The identity is kept and set on every compositor. -/
def setWatermarkIdentity (identity : String) : AppSession :=
  { session.callAll .setWatermarkIdentity with
    watermarkIdentity := identity
    apps := session.apps.map fun app =>
      { app with app := { app.app with identity := some identity } } }

/-- What `CompositorManager` keeps. -/
def manager : DlpCompositorManager where
  apps := session.apps.map ManagedApp.app
  runningAppModel := session.runningAppModel
  currentPolicy := session.currentPolicy
  watermarkIdentity := session.watermarkIdentity

variable {session}

@[simp] theorem emit_apps (signal : ManagerSignal) : (session.emit signal).apps = session.apps :=
  rfl

/-! ## The operations of the manager -/

/-- The manager of a launch is launched. -/
theorem manager_launchApp (request : LaunchRequest) (outcome : LaunchOutcome) :
    ((session.launchApp request outcome).1.manager, (session.launchApp request outcome).2) =
      session.manager.launchApp request outcome := by
  unfold launchApp DlpCompositorManager.launchApp
  by_cases available : outcome.available = true
  · by_cases created : outcome.created = true
    · by_cases failed : outcome.pid < 0
      · simp only [available, created, failed, not_true_eq_false, if_false, if_true]
        rfl
      · simp only [available, created, failed, not_true_eq_false, if_false]
        split <;> simp only [manager, emit, openCompositor, List.map_append] <;> rfl
    · simp only [available, created, not_true_eq_false, if_false]
      rfl
  · simp only [available]
    rfl

/-- The manager's apps are those of the session. -/
theorem getElem?_manager (index : Nat) :
    session.manager.apps[index]? = session.apps[index]?.map ManagedApp.app := by
  simp [manager]

/-- A removal in the session is one in the manager. -/
theorem manager_removeApp (index : Nat) :
    (session.removeApp index).manager = session.manager.removeApp index := by
  unfold removeApp DlpCompositorManager.removeApp
  rw [getElem?_manager]
  cases session.apps[index]? with
  | none => rfl
  | some app =>
      simp only [Option.map_some]
      split <;> simp only [manager, emit, callOf, List.eraseIdx_map]

/-- Stopping an app of the session stops it in the manager. -/
theorem manager_stopApp (pid : Int) :
    ((session.stopApp pid).1.manager, (session.stopApp pid).2) = session.manager.stopApp pid := by
  have search : session.manager.apps.findIdx? (fun app => app.pid = pid) =
      session.apps.findIdx? fun app => app.app.pid = pid := by
    simp [manager, List.findIdx?_map, Function.comp_def]
  unfold stopApp DlpCompositorManager.stopApp
  rw [search]
  cases session.apps.findIdx? fun app => app.app.pid = pid with
  | none => rfl
  | some index => simp only [manager_removeApp]

/-- Stopping all apps of the session stops all in the manager. -/
theorem manager_stopAll :
    (session.stopAll.1.manager, session.stopAll.2) = session.manager.stopAll := by
  unfold stopAll DlpCompositorManager.stopAll
  dsimp only
  split <;> simp [manager, emit, callAll, Function.comp_def]

/-- Checking a child of the session checks it in the manager. -/
theorem manager_checkChild (index : Nat) (exited : Bool) (clients : Nat) :
    (session.checkChild index exited clients).manager =
      session.manager.checkChild index exited clients := by
  unfold checkChild DlpCompositorManager.checkChild
  rw [getElem?_manager]
  cases session.apps[index]? with
  | none => rfl
  | some app =>
      simp only [Option.map_some]
      by_cases done : (app.app.bwrapExited || exited) = true
      · by_cases alone : clients = 0
        · simp only [done, alone, and_self, if_true, manager_removeApp]
          simp [manager, callOf, List.map_set]
        · simp [done, alone, manager, callOf, List.map_set]
      · simp [done, manager, List.map_set]

/-- Checking all children of the session checks all in the manager. -/
theorem manager_checkChildProcesses (exited : Nat → Bool) (clients : Nat → Nat) :
    (session.checkChildProcesses exited clients).manager =
      session.manager.checkChildProcesses exited clients := by
  have rounds : session.manager.apps.length = session.apps.length := List.length_map _
  unfold checkChildProcesses DlpCompositorManager.checkChildProcesses
  rw [rounds]
  refine (List.foldl_hom manager fun current index => ?_).symm
  exact (manager_checkChild index (exited index) (clients index)).symm

/-- A policy of the session is the manager's. -/
theorem manager_updatePolicy (clipboardBlockOutgoing clipboardBlockIncoming screenshotBlock
    fileSandbox networkSandbox watermarkEnabled : Bool) :
    (session.updatePolicy clipboardBlockOutgoing clipboardBlockIncoming screenshotBlock
        fileSandbox networkSandbox watermarkEnabled).manager =
      session.manager.updatePolicy clipboardBlockOutgoing clipboardBlockIncoming screenshotBlock
        fileSandbox networkSandbox watermarkEnabled := by
  simp [manager, updatePolicy, DlpCompositorManager.updatePolicy, callAll, Function.comp_def]

/-- An identity of the session is the manager's. -/
theorem manager_setWatermarkIdentity (identity : String) :
    (session.setWatermarkIdentity identity).manager =
      session.manager.setWatermarkIdentity identity := by
  simp [manager, setWatermarkIdentity, DlpCompositorManager.setWatermarkIdentity, callAll,
    Function.comp_def]

end AppSession

end CoderDesktop.Dlp
