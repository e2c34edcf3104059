import CoderDesktop.Api.PollingController
import CoderDesktop.Data.CredentialFlow
import CoderDesktop.FileSync.SessionPolling
import CoderDesktop.Vpn.GhostPeers

/-!
# The wiring of the application

`main` connects the VPN bridge, the session, the polling controller, the file sync and the
tray icon by signals. A component that follows the state of another one reads it when it is
told of a change, so it is right as long as no change goes without its signal. The settings
of the polling controller and of the file sync change by events of their own.
-/

namespace CoderDesktop.Application

open Semantics Settings Api Data FileSync
open Vpn hiding Resource

/-- The values of `m_state` as `VpnBridge::state` returns them. -/
def stateText : BridgeState → String
  | .reported .disconnected => "disconnected"
  | .reported .connecting => "connecting"
  | .reported .connected => "connected"
  | .reported .error => "error"
  | .disconnecting => "disconnecting"

/-- The bridge says that the tunnel is up. -/
def isRunning (bridge : VpnBridge) : Bool := bridge.state = .reported .connected

/-! ## The tray icon -/

/-- What the tray shows. -/
structure SystemTrayIcon where
  /-- "Connect VPN" is visible. -/
  connectAction : Bool
  disconnectAction : Bool
  toolTip : String
deriving DecidableEq, Repr

namespace SystemTrayIcon

/-- The tray before the bridge has told anything. -/
def new : SystemTrayIcon := ⟨true, false, "Coder Desktop"⟩

/-- The text of the tooltip: the tunnel, and the sync sessions if there are any. -/
def tip (state : BridgeState) (sessions : List FileSyncSession) : String :=
  "Coder Desktop — VPN " ++ stateText state ++
    if 0 < sessions.length then "\nFile Sync: " ++ statusSummary sessions else ""

/-- The tooltip is made anew from bridge and sessions. -/
def updateTooltip (tray : SystemTrayIcon) (bridge : VpnBridge) (fileSync : FileSyncManager) :
    SystemTrayIcon :=
  { tray with toolTip := tip bridge.state fileSync.sessions }

/-- One of the two actions is visible, and the tooltip is new. -/
def onVpnStateChanged (tray : SystemTrayIcon) (bridge : VpnBridge) (fileSync : FileSyncManager) :
    SystemTrayIcon :=
  { tray with
    connectAction := !isRunning bridge
    disconnectAction := isRunning bridge }.updateTooltip bridge fileSync

end SystemTrayIcon

/-- The signals of the file sync that the tray icon listens to. -/
def movesTooltip : SyncSignal → Bool
  | .sessionCountChanged | .statusSummaryChanged => true
  | .availableChanged | .policyChanged | .errorOccurred _ => false

/-! ## The application -/

/-- The objects `main` creates and connects. -/
structure Desktop where
  /-- The bridge, its helper and the peers. -/
  vpn : PeerWorld
  sync : SyncWorld
  session : SessionManager
  polling : PollingController
  tray : SystemTrayIcon

/-- What the application finds when it is started. -/
structure Launch where
  helper : Helper
  settings : SettingsManager
  mutagenBinary : String
  /-- The sync sessions Mutagen kept. -/
  mutagen : List MutagenSession
  storage : SecureStorage
  saved : List Deployment
  lookup : LookupOutcome
  pollingSettings : PollingSettings
  cache : String → Resource → Option (List Json)
  opens : Resource → Bool

/-- What the user does, and the steps of the parts by themselves. -/
inductive DesktopEvent where
  /-- A step of the bridge, the helper or a message between them. -/
  | vpn (event : PeerEvent) (daemonStarted : Bool)
  | connectClicked (lookup : LookupOutcome) (daemonStarted : Bool)
  | disconnectClicked (daemonStarted : Bool)
  | sync (event : SyncEvent)
  /-- A step of the session, and which cache files can be opened. -/
  | session (event : SessionEvent) (opens : Resource → Bool)
  | tokenExpired
  | polling (event : PollingEvent)

/-- The signals of the bridge in a step. -/
def bridgeSignals (vpn : PeerWorld) : PeerEvent → List BridgeSignal
  | .world event => vpn.world.signals event
  | .deliver =>
      match vpn.traffic with
      | .message :: _ => vpn.world.signals .deliver
      | .peer _ :: _ | [] => []
  | .controllerRun _ _ | .update _ _ | .act _ _ | .tick _ | .ping _ _ _ _ => []

/-- The steps of the file sync that are not made by others: the VPN is set by the wiring, and
this is one run of the application. -/
def ownSync : SyncEvent → Bool
  | .setVpnConnected _ _ | .restart _ _ => false
  | .settings _ | .createSession _ _ _ _ | .pauseSession _ | .resumeSession _ | .resetSession _
  | .terminateSession _ | .pollTimeout | .delayedRefresh | .takesEffect _ _ _
  | .finished _ _ _ | .failedToStart _ _ | .daemonExited => true

/-- Likewise for polling: it is started and stopped by the wiring, and the API client is the
session's. -/
def ownPolling : PollingEvent → Bool
  | .tick | .refreshNow | .replied _ _ _ | .settingsChanged _ _ => true
  | .start _ | .stop | .setBaseUrl _ | .setSessionToken _ | .restart _ => false

namespace Desktop

/-- The bridge of the tunnel. -/
def bridge (desktop : Desktop) : VpnBridge := desktop.vpn.world.bridge

/-- The session is restored, and polled at once if it has a token. -/
def startup (launch : Launch) : Desktop :=
  let session := SessionManager.new launch.storage launch.saved launch.lookup
  let polling :=
    { PollingController.new launch.pollingSettings launch.cache with client := session.client }
  { vpn := { PeerWorld.new with world := .construct launch.helper }
    sync := ⟨.new launch.settings launch.mutagenBinary, launch.mutagen⟩
    session := session
    polling := if session.client.isAuthenticated then polling.start launch.opens else polling
    tray := .new }

/-- The connections of `VpnBridge::stateChanged`. Those to the peers are part of the step. -/
def onStateChanged (desktop : Desktop) (daemonStarted : Bool) : Desktop :=
  let sync := desktop.sync.call (·.setVpnConnected (isRunning desktop.bridge) daemonStarted)
  { desktop with
    sync := sync
    tray := desktop.tray.onVpnStateChanged desktop.bridge sync.manager }

/-- A step of the tunnel, and the slots on `stateChanged`. -/
def applyVpn (desktop : Desktop) (event : PeerEvent) (daemonStarted : Bool) : Option Desktop :=
  (desktop.vpn.next event).map fun vpn =>
    let after := { desktop with vpn := vpn }
    if .stateChanged ∈ bridgeSignals desktop.vpn event then after.onStateChanged daemonStarted
    else after

/-- The connections of the file sync to the tray icon. -/
def withSync (desktop : Desktop) (sync : SyncWorld) : Desktop :=
  let signals := sync.manager.emitted.drop desktop.sync.manager.emitted.length
  { desktop with
    sync := sync
    tray :=
      if signals.any movesTooltip then desktop.tray.updateTooltip desktop.bridge sync.manager
      else desktop.tray }

/-- The connection of `authStateChanged` to the polling controller. -/
def onAuthStateChanged (session : SessionManager) (polling : PollingController)
    (opens : Resource → Bool) : PollingController :=
  if session.client.isAuthenticated then polling.start opens else { polling with polling := false }

/-- A step of the session, and the slot on `authStateChanged`. Polling shares its client. -/
def applySession (desktop : Desktop) (event : SessionEvent) (opens : Resource → Bool) :
    Option Desktop :=
  (desktop.session.step event).map fun result =>
    let polling := { desktop.polling with client := result.1.client }
    { desktop with
      session := result.1
      polling :=
        if .authStateChanged ∈ result.2 then onAuthStateChanged result.1 polling opens
        else polling }

/-- Without a token a click on "Connect VPN" only shows the window. -/
def onConnectClicked (desktop : Desktop) (lookup : LookupOutcome) (daemonStarted : Bool) :
    Option Desktop :=
  if desktop.session.client.isAuthenticated then
    desktop.applyVpn
      (.world (.userStart desktop.session.activeDeployment.url
        (desktop.session.sessionToken lookup))) daemonStarted
  else some desktop

/-- A step of the application; what is wired reacts within it. -/
def next (desktop : Desktop) : DesktopEvent → Option Desktop
  | .vpn event daemonStarted => desktop.applyVpn event daemonStarted
  | .connectClicked lookup daemonStarted => desktop.onConnectClicked lookup daemonStarted
  | .disconnectClicked daemonStarted => desktop.applyVpn (.world .userStop) daemonStarted
  | .sync event => if ownSync event then (desktop.sync.next event).map desktop.withSync else none
  | .session event opens => desktop.applySession event opens
  | .tokenExpired => some { desktop with polling := { desktop.polling with polling := false } }
  | .polling event =>
      if ownPolling event then
        (desktop.polling.step event).map fun result => { desktop with polling := result.1 }
      else none

/-! ## What is to hold in every state -/

/-- Tray icon and file sync tell the state of the bridge. Before the first signal the tooltip
is the application's name. -/
structure FollowsBridge (desktop : Desktop) : Prop where
  connectAction : desktop.tray.connectAction = !isRunning desktop.bridge
  disconnectAction : desktop.tray.disconnectAction = isRunning desktop.bridge
  vpnConnected : desktop.sync.manager.vpnConnected = isRunning desktop.bridge
  toolTip :
    desktop.tray.toolTip =
        SystemTrayIcon.tip desktop.bridge.state desktop.sync.manager.sessions ∨
      (desktop.tray.toolTip = "Coder Desktop" ∧
        desktop.bridge.state = .reported .disconnected ∧ desktop.sync.manager.sessions = [])

/-- What is polled is polled with the session's client, and the timer runs only while a
deployment is active. -/
structure PollsSession (desktop : Desktop) : Prop where
  client : desktop.polling.client = desktop.session.client
  active : desktop.polling.polling = true → desktop.session.activeDeployment.isActive = true

end Desktop

/-! ## No change without its signal -/

/-- A call of `start` announces what it changes. -/
theorem bridge_start (bridge : VpnBridge) (url token : String) :
    .stateChanged ∈ (bridge.start url token).2.1 ∨ (bridge.start url token).1 = bridge := by
  unfold VpnBridge.start
  split
  · exact .inr rfl
  · exact .inl List.mem_cons_self

/-- A call of `stop` announces what it changes. -/
theorem bridge_stop (bridge : VpnBridge) :
    .stateChanged ∈ bridge.stop.2.1 ∨ bridge.stop.1 = bridge := by
  unfold VpnBridge.stop
  split
  · exact .inr rfl
  · exact .inl List.mem_cons_self

/-- A message announces what it changes. -/
theorem bridge_receive (bridge : VpnBridge) (message : Message) :
    .stateChanged ∈ (bridge.receive message).2 ∨ (bridge.receive message).1 = bridge := by
  cases message with
  | stateChanged signal =>
      simp only [VpnBridge.receive, VpnBridge.onStateChanged]
      split
      · exact .inr rfl
      · exact .inl List.mem_cons_self
  | reply reply =>
      cases reply with
      | status state coderURL =>
          simp only [VpnBridge.receive, VpnBridge.onGetStatusFinished]
          split
          · exact .inl List.mem_cons_self
          · exact .inr rfl
      | startFailed err => exact .inl List.mem_cons_self
      | started attempt => exact .inr rfl
      | stopped => exact .inr rfl
      | stopFailed err => exact .inr rfl
      | statusFailed err => exact .inr rfl

/-- What the helper does with a call does not reach the bridge. -/
theorem bridge_execute {world after : World} {call : HelperCall} {reply : Reply}
    (executed : world.execute call = some (after, reply)) : after.bridge = world.bridge := by
  cases call with
  | start url token =>
      simp only [World.execute] at executed
      split at executed
      · obtain ⟨result, -, same⟩ := Option.map_eq_some_iff.mp executed
        obtain ⟨rfl, -⟩ := Prod.mk.inj same
        rfl
      · obtain ⟨rfl, -⟩ := Prod.mk.inj (Option.some.inj executed)
        rfl
  | stop =>
      simp only [World.execute] at executed
      obtain ⟨result, -, same⟩ := Option.map_eq_some_iff.mp executed
      obtain ⟨rfl, -⟩ := Prod.mk.inj same
      rfl
  | getStatus =>
      obtain ⟨rfl, -⟩ := Prod.mk.inj (Option.some.inj executed)
      rfl

/-- Every event of the bridge announces what it changes. -/
theorem bridge_next {world after : World} {event : WorldEvent}
    (taken : world.next event = some after) :
    .stateChanged ∈ world.signals event ∨ after.bridge = world.bridge := by
  cases event with
  | userStart url token =>
      obtain rfl := Option.some.inj taken
      exact bridge_start world.bridge url token
  | userStop =>
      obtain rfl := Option.some.inj taken
      exact bridge_stop world.bridge
  | helper event =>
      obtain ⟨result, -, rfl⟩ := Option.map_eq_some_iff.mp taken
      exact .inr rfl
  | execute index =>
      obtain ⟨call, -, taken⟩ := Option.bind_eq_some_iff.mp taken
      obtain ⟨⟨executing, reply⟩, executed, taken⟩ := Option.bind_eq_some_iff.mp taken
      obtain rfl := Option.some.inj taken
      have kept := bridge_execute executed
      exact .inr kept
  | refuse index err =>
      obtain ⟨call, -, rfl⟩ := World.next_refuse.mp taken
      exact .inr rfl
  | sendReply index =>
      obtain ⟨reply, -, -, rfl⟩ := World.next_sendReply.mp taken
      exact .inr rfl
  | deliver =>
      obtain ⟨message, rest, queue, rfl⟩ := World.next_deliver.mp taken
      simpa [World.signals, queue] using bridge_receive world.bridge message

@[simp] theorem world_emit (vpn : PeerWorld) (emission : Option Emission) :
    (vpn.emit emission).world = vpn.world := by
  cases emission with
  | none => rfl
  | some emission => rfl

/-- On the connection to the application nothing but a message of the helper moves the
bridge, and it tells so. -/
theorem bridge_vpn {vpn after : PeerWorld} {event : PeerEvent}
    (taken : vpn.next event = some after) :
    .stateChanged ∈ bridgeSignals vpn event ∨ after.world.bridge = vpn.world.bridge := by
  cases PeerWorld.step_of_next taken with
  | world own moved => exact bridge_next moved
  | controllerRun mayRun => exact .inr rfl
  | update found => exact .inr rfl
  | act found running => exact .inr (by rw [world_emit]; rfl)
  | tick found => exact .inr rfl
  | ping found running current pinged => exact .inr (by rw [world_emit]; rfl)
  | deliverMessage first moved =>
      simp only [bridgeSignals, first]
      exact bridge_next moved
  | deliverPeer first => exact .inr rfl

/-! ## The sessions the tooltip tells of -/

/-- Two lists the tooltip does not tell apart. -/
def ShowAlike (before after : List FileSyncSession) : Prop :=
  before.length = after.length ∧ statusSummary after = statusSummary before

/-- Sessions show like themselves. -/
theorem ShowAlike.refl (sessions : List FileSyncSession) : ShowAlike sessions sessions :=
  ⟨rfl, rfl⟩

/-- Sessions that show alike make the same tooltip. -/
theorem ShowAlike.tip {before after : List FileSyncSession} (alike : ShowAlike before after)
    (state : BridgeState) : SystemTrayIcon.tip state after = SystemTrayIcon.tip state before := by
  unfold SystemTrayIcon.tip
  rw [alike.1, alike.2]

section Sessions

variable (manager : FileSyncManager)

@[simp] theorem sessions_applySettings (event : SettingsEvent) :
    (manager.applySettings event).sessions = manager.sessions := by
  simp only [FileSyncManager.applySettings]
  split <;> rfl

@[simp] theorem sessions_runMutagenAsync (command : SyncCommand) :
    (manager.runMutagenAsync command).sessions = manager.sessions := by
  unfold FileSyncManager.runMutagenAsync
  split <;> rfl

@[simp] theorem sessions_refreshSessions :
    manager.refreshSessions.sessions = manager.sessions := by
  unfold FileSyncManager.refreshSessions
  split
  · rfl
  · split
    · rfl
    · exact sessions_runMutagenAsync _ _

@[simp] theorem sessions_runCreate (localPath workspace remotePath : String) :
    (manager.runCreate localPath workspace remotePath).sessions = manager.sessions := by
  unfold FileSyncManager.runCreate
  dsimp only
  rw [sessions_runMutagenAsync]
  split <;> rfl

@[simp] theorem sessions_createSession (localPath workspace remotePath : String)
    (daemonStarted : Bool) :
    (manager.createSession localPath workspace remotePath daemonStarted).sessions =
      manager.sessions := by
  obtain ⟨emitted, started⟩ := manager.startDaemon_frame daemonStarted
  unfold FileSyncManager.createSession
  rw [started]
  split
  · rfl
  · split
    · split
      · next result =>
          obtain ⟨rfl, -⟩ := Prod.mk.inj result
          exact sessions_runCreate _ _ _ _
      · next result =>
          obtain ⟨rfl, -⟩ := Prod.mk.inj result
          rfl
    · exact sessions_runCreate _ _ _ _

@[simp] theorem sessions_setVpnConnected (connected daemonStarted : Bool) :
    (manager.setVpnConnected connected daemonStarted).sessions = manager.sessions := by
  obtain ⟨_, _, _, _, same, -⟩ := manager.setVpnConnected_frame connected daemonStarted
  rw [same]

/-- A new list is announced by a signal unless it shows alike. -/
theorem sessions_updateModel (newSessions : List FileSyncSession) :
    ∃ signals, (manager.updateModel newSessions).emitted = manager.emitted ++ signals ∧
      (signals.any movesTooltip = true ∨ ShowAlike manager.sessions newSessions) := by
  unfold FileSyncManager.updateModel
  by_cases count : manager.sessions.length = newSessions.length
  · by_cases summary : statusSummary newSessions = statusSummary manager.sessions
    · exact ⟨[], by simp [count, summary], .inr ⟨count, summary⟩⟩
    · refine ⟨[.statusSummaryChanged], ?_, .inl (by decide)⟩
      simp [count, summary, FileSyncManager.emit]
  · by_cases summary : statusSummary newSessions = statusSummary manager.sessions
    · refine ⟨[.sessionCountChanged], ?_, .inl (by decide)⟩
      simp [count, summary, FileSyncManager.emit]
    · refine ⟨[.sessionCountChanged, .statusSummaryChanged], ?_, .inl (by decide)⟩
      simp [count, summary, FileSyncManager.emit]

end Sessions

/-- The end of a process: only a poll brings a new list. -/
theorem announced_onFinished (manager : FileSyncManager) (command : SyncCommand) (exitCode : Int)
    (output : Json) :
    let after := manager.onFinished command exitCode output
    (after.emitted.drop manager.emitted.length).any movesTooltip = true ∨
      ShowAlike manager.sessions after.sessions := by
  intro after
  cases failure : FileSyncManager.failureMessage command with
  | some message =>
      have same : after.sessions = manager.sessions := by
        simp only [after, FileSyncManager.onFinished, failure, sessions_refreshSessions]
        split <;> rfl
      exact .inr (same ▸ .refl _)
  | none =>
      by_cases failed : exitCode ≠ 0
      · have same : after.sessions = manager.sessions := by
          simp only [after, FileSyncManager.onFinished, failure, if_pos failed]
        exact .inr (same ▸ .refl _)
      · have polled : after = FileSyncManager.updateModel { manager with pollInFlight := false }
            (parseSessionList output) := by
          simp only [after, FileSyncManager.onFinished, failure, if_neg failed]
        obtain ⟨signals, emitted, announced⟩ :=
          sessions_updateModel { manager with pollInFlight := false } (parseSessionList output)
        rw [polled, emitted, List.drop_left]
        have shown : (FileSyncManager.updateModel { manager with pollInFlight := false }
            (parseSessionList output)).sessions = parseSessionList output := by
          unfold FileSyncManager.updateModel
          dsimp only
          split <;> split <;> rfl
        rw [shown]
        exact announced

/-- A changed tooltip is announced. -/
theorem announced_next {world after : SyncWorld} {event : SyncEvent} (own : ownSync event = true)
    (taken : world.next event = some after) :
    (after.manager.emitted.drop world.manager.emitted.length).any movesTooltip = true ∨
      ShowAlike world.manager.sessions after.manager.sessions := by
  have still (same : after.manager.sessions = world.manager.sessions) :
      (after.manager.emitted.drop world.manager.emitted.length).any movesTooltip = true ∨
        ShowAlike world.manager.sessions after.manager.sessions :=
    .inr (same ▸ .refl _)
  cases event with
  | setVpnConnected | restart => cases own
  | settings event =>
      obtain rfl := Option.some.inj taken
      exact still (sessions_applySettings _ _)
  | createSession localPath workspace remotePath daemonStarted =>
      obtain rfl := Option.some.inj taken
      exact still (sessions_createSession _ _ _ _ _)
  | pauseSession sessionId | resumeSession sessionId | resetSession sessionId
  | terminateSession sessionId =>
      obtain rfl := Option.some.inj taken
      exact still (sessions_runMutagenAsync _ _)
  | pollTimeout =>
      obtain ⟨-, rfl⟩ := of_guarded taken
      exact still (sessions_refreshSessions _)
  | delayedRefresh =>
      obtain ⟨-, rfl⟩ := of_guarded taken
      exact still (sessions_refreshSessions _)
  | takesEffect index identifier selected =>
      simp only [SyncWorld.next] at taken
      split at taken
      · obtain rfl := Option.some.inj taken
        exact still rfl
      · cases taken
      · cases taken
  | finished index exitCode output =>
      simp only [SyncWorld.next] at taken
      split at taken
      · obtain rfl := Option.some.inj taken
        exact announced_onFinished
          { world.manager with processes := world.manager.processes.eraseIdx index } _ _ _
      · cases taken
  | failedToStart index errorString =>
      simp only [SyncWorld.next] at taken
      split at taken
      · obtain rfl := Option.some.inj taken
        exact still rfl
      · cases taken
      · cases taken
  | daemonExited =>
      obtain ⟨-, rfl⟩ := of_guarded taken
      exact still rfl

/-- The VPN is the wiring's. -/
theorem vpnConnected_next {world after : SyncWorld} {event : SyncEvent}
    (own : ownSync event = true) (taken : world.next event = some after) :
    after.manager.vpnConnected = world.manager.vpnConnected := by
  cases moves : event.movesEngine with
  | false => exact congrArg Engine.vpnConnected (SyncWorld.engine_next moves taken)
  | true =>
      cases event with
      | createSession localPath workspace remotePath daemonStarted =>
          obtain rfl := Option.some.inj taken
          have engine := world.manager.engine_createSession localPath workspace remotePath
            daemonStarted
          have kept := congrArg Engine.vpnConnected engine
          split at kept
          · exact kept
          · exact kept
      | daemonExited =>
          obtain ⟨-, rfl⟩ := of_guarded taken
          rfl
      | setVpnConnected | restart => cases own
      | _ => cases moves

namespace Desktop

variable {desktop after : Desktop}

/-! ## Tray icon and file sync -/

/-- After `stateChanged` the rest follows the bridge. -/
theorem followsBridge_onStateChanged (desktop : Desktop) (daemonStarted : Bool) :
    (desktop.onStateChanged daemonStarted).FollowsBridge where
  connectAction := rfl
  disconnectAction := rfl
  vpnConnected := FileSyncManager.vpnConnected_setVpnConnected _ _ _
  toolTip := .inl rfl

/-- The VPN's events keep the rest with the bridge. -/
theorem FollowsBridge.applyVpn (follows : desktop.FollowsBridge) {event : PeerEvent}
    {daemonStarted : Bool} (taken : desktop.applyVpn event daemonStarted = some after) :
    after.FollowsBridge := by
  obtain ⟨vpn, moved, rfl⟩ := Option.map_eq_some_iff.mp taken
  by_cases told : .stateChanged ∈ bridgeSignals desktop.vpn event
  · rw [if_pos told]
    exact followsBridge_onStateChanged _ _
  · rw [if_neg told]
    have same := (bridge_vpn moved).resolve_left told
    constructor
    · rw [bridge, same]
      exact follows.connectAction
    · rw [bridge, same]
      exact follows.disconnectAction
    · rw [bridge, same]
      exact follows.vpnConnected
    · rw [bridge, same]
      exact follows.toolTip

/-- The events of file sync keep the rest with the bridge. -/
theorem FollowsBridge.withSync (follows : desktop.FollowsBridge) {event : SyncEvent}
    {sync : SyncWorld} (own : ownSync event = true) (taken : desktop.sync.next event = some sync) :
    (desktop.withSync sync).FollowsBridge := by
  have connected : sync.manager.vpnConnected = isRunning desktop.bridge :=
    (vpnConnected_next own taken).trans follows.vpnConnected
  by_cases told : (sync.manager.emitted.drop desktop.sync.manager.emitted.length).any
      movesTooltip = true
  · simp only [Desktop.withSync, told, if_true]
    exact ⟨follows.connectAction, follows.disconnectAction, connected, .inl rfl⟩
  · have alike := (announced_next own taken).resolve_left told
    simp only [Desktop.withSync, if_neg told]
    refine ⟨follows.connectAction, follows.disconnectAction, connected, ?_⟩
    refine follows.toolTip.imp (fun tip => ?_) fun initial => ?_
    · exact tip.trans (alike.tip _).symm
    · obtain ⟨name, down, none⟩ := initial
      refine ⟨name, down, List.eq_nil_of_length_eq_zero ?_⟩
      rw [← alike.1, none]
      rfl

/-- Every event keeps the rest with the bridge. -/
theorem FollowsBridge.next (follows : desktop.FollowsBridge) {event : DesktopEvent}
    (taken : desktop.next event = some after) : after.FollowsBridge := by
  cases event with
  | vpn event daemonStarted => exact follows.applyVpn taken
  | connectClicked lookup daemonStarted =>
      simp only [Desktop.next, onConnectClicked] at taken
      split at taken
      · exact follows.applyVpn taken
      · obtain rfl := Option.some.inj taken
        exact follows
  | disconnectClicked daemonStarted => exact follows.applyVpn taken
  | sync event =>
      obtain ⟨own, taken⟩ := Option.ite_none_right_eq_some.mp taken
      obtain ⟨sync, moved, rfl⟩ := Option.map_eq_some_iff.mp taken
      exact follows.withSync own moved
  | session event opens =>
      obtain ⟨result, -, rfl⟩ := Option.map_eq_some_iff.mp taken
      exact ⟨follows.1, follows.2, follows.3, follows.4⟩
  | tokenExpired =>
      obtain rfl := Option.some.inj taken
      exact ⟨follows.1, follows.2, follows.3, follows.4⟩
  | polling event =>
      obtain ⟨-, taken⟩ := Option.ite_none_right_eq_some.mp taken
      obtain ⟨result, -, rfl⟩ := Option.map_eq_some_iff.mp taken
      exact ⟨follows.1, follows.2, follows.3, follows.4⟩

/-- At startup the rest follows the bridge. -/
theorem followsBridge_startup (launch : Launch) : (startup launch).FollowsBridge :=
  ⟨rfl, rfl, rfl, .inr ⟨rfl, rfl, rfl⟩⟩

/-! ## Polling and the session -/

/-- Loading the cache leaves the client alone. -/
theorem client_loadCache (controller : PollingController) (opens : Resource → Bool) :
    (controller.loadCache opens).client = controller.client := by
  simp only [PollingController.loadCache]
  split <;> split <;> rfl

/-- Starting leaves the client alone. -/
theorem client_start (controller : PollingController) (opens : Resource → Bool) :
    (controller.start opens).client = controller.client :=
  client_loadCache _ opens

/-- A change of the session leaves the polling's client alone. -/
theorem client_onAuthStateChanged (session : SessionManager) (polling : PollingController)
    (opens : Resource → Bool) :
    (onAuthStateChanged session polling opens).client = polling.client := by
  unfold onAuthStateChanged
  split
  · exact client_start _ _
  · rfl

/-- Polling runs only for an authenticated client. -/
theorem polling_onAuthStateChanged {session : SessionManager} {polling : PollingController}
    {opens : Resource → Bool} (runs : (onAuthStateChanged session polling opens).polling = true) :
    session.client.isAuthenticated = true := by
  unfold onAuthStateChanged at runs
  split at runs
  · assumption
  · cases runs

/-- Only the credentials of an active deployment are restored. -/
theorem activeDeployment_new {storage : SecureStorage} {saved : List Deployment}
    {lookup : LookupOutcome}
    (authenticated : (SessionManager.new storage saved lookup).client.isAuthenticated = true) :
    (SessionManager.new storage saved lookup).activeDeployment.isActive = true := by
  have restored : (SessionManager.loadDeployments saved).url ≠ "" := by
    intro none
    simp [SessionManager.new, none, CoderApiClient.new, CoderApiClient.isAuthenticated]
      at authenticated
  simp only [SessionManager.new, SessionManager.loadDeployments] at restored ⊢
  cases last : (saved.filter (·.isActive)).getLast? with
  | none =>
      rw [List.getLastD_eq_getLast?, last] at restored
      exact absurd rfl restored
  | some active =>
      rw [List.getLastD_eq_getLast?, last]
      exact (List.mem_filter.mp (List.mem_of_getLast? last)).2

/-- A deployment is active whenever a change of the session leaves it with a token, and
changes that go without the signal keep the active deployment. -/
theorem activeDeployment_step {session after : SessionManager} {event : SessionEvent}
    {signals : List SessionSignal} (taken : session.step event = some (after, signals)) :
    if .authStateChanged ∈ signals then
      after.client.isAuthenticated = true → after.activeDeployment.isActive = true
    else after.activeDeployment = session.activeDeployment := by
  cases event with
  | login url token =>
      obtain ⟨rfl, rfl⟩ := Prod.mk.inj (Option.some.inj taken)
      rfl
  | loginFinished index reply storing now =>
      obtain ⟨login, -, taken⟩ := Option.map_eq_some_iff.mp taken
      cases reply with
      | error err =>
          obtain ⟨rfl, rfl⟩ := Prod.mk.inj taken
          rfl
      | ok body =>
          obtain ⟨rfl, rfl⟩ := Prod.mk.inj taken
          exact fun _ => rfl
  | logout removing =>
      obtain ⟨rfl, rfl⟩ := Prod.mk.inj (Option.some.inj taken)
      intro authenticated
      cases authenticated
  | switchDeployment url lookup =>
      have switched := Option.some.inj taken
      unfold SessionManager.switchDeployment at switched
      split at switched
      · obtain ⟨rfl, rfl⟩ := Prod.mk.inj switched
        rfl
      · next index found =>
          have bound := (List.findIdx?_eq_some_iff_getElem.mp found).1
          dsimp only at switched
          split at switched
          · obtain ⟨rfl, rfl⟩ := Prod.mk.inj switched
            rfl
          · obtain ⟨rfl, rfl⟩ := Prod.mk.inj switched
            intro _
            simp [SessionManager.saveDeployments, List.getElem?_eq_getElem bound,
              Deployment.activate]
  | removeDeployment url removing =>
      have removed := Option.some.inj taken
      unfold SessionManager.removeDeployment at removed
      dsimp only at removed
      split at removed
      · obtain ⟨rfl, rfl⟩ := Prod.mk.inj removed
        intro authenticated
        cases authenticated
      · obtain ⟨rfl, rfl⟩ := Prod.mk.inj removed
        rfl

/-- An own step neither starts the timer nor changes the client. -/
theorem client_polling_step {controller : PollingController} {event : PollingEvent}
    {result : PollingController × List Notification} (own : ownPolling event = true)
    (taken : controller.step event = some result) :
    result.1.client = controller.client ∧ result.1.polling = controller.polling := by
  cases event with
  | start | stop | setBaseUrl | setSessionToken | restart => cases own
  | tick =>
      obtain ⟨-, rfl⟩ := of_guarded taken
      exact ⟨rfl, rfl⟩
  | refreshNow =>
      obtain rfl := Option.some.inj taken
      exact ⟨rfl, rfl⟩
  | replied index reply saves =>
      obtain ⟨request, -, rfl⟩ := Option.map_eq_some_iff.mp taken
      unfold PollingController.handleReply
      split
      · unfold PollingController.requestFailed
        split <;> exact ⟨rfl, rfl⟩
      · simp only [PollingController.handleWorkspacesReceived, PollingController.saveCache]
        split <;> exact ⟨rfl, rfl⟩
      · simp only [PollingController.handleTasksReceived, PollingController.saveCache]
        split <;> exact ⟨rfl, rfl⟩
  | settingsChanged settings removes =>
      obtain rfl := Option.some.inj taken
      unfold PollingController.settingsChanged
      dsimp only
      split <;> exact ⟨rfl, rfl⟩

/-- The VPN touches neither session nor polling. -/
theorem session_applyVpn {event : PeerEvent} {daemonStarted : Bool}
    (taken : desktop.applyVpn event daemonStarted = some after) :
    after.session = desktop.session ∧ after.polling = desktop.polling := by
  obtain ⟨vpn, -, rfl⟩ := Option.map_eq_some_iff.mp taken
  dsimp only
  split <;> exact ⟨rfl, rfl⟩

/-- Only session and polling matter. -/
theorem PollsSession.congr (polls : desktop.PollsSession)
    (same : after.session = desktop.session ∧ after.polling = desktop.polling) :
    after.PollsSession where
  client := by
    rw [same.1, same.2]
    exact polls.client
  active := by
    rw [same.1, same.2]
    exact polls.active

/-- A session that changes takes the polling along. -/
theorem PollsSession.applySession (polls : desktop.PollsSession) {event : SessionEvent}
    {opens : Resource → Bool} (taken : desktop.applySession event opens = some after) :
    after.PollsSession := by
  obtain ⟨⟨session, signals⟩, stepped, rfl⟩ := Option.map_eq_some_iff.mp taken
  have active := activeDeployment_step stepped
  by_cases told : .authStateChanged ∈ signals
  · simp only [told, if_true] at active ⊢
    refine ⟨client_onAuthStateChanged _ _ _, fun runs => ?_⟩
    exact active (polling_onAuthStateChanged runs)
  · simp only [told, if_false] at active ⊢
    refine ⟨rfl, fun runs => ?_⟩
    rw [active]
    exact polls.active runs

/-- Every event keeps the polling with the session. -/
theorem PollsSession.next (polls : desktop.PollsSession) {event : DesktopEvent}
    (taken : desktop.next event = some after) : after.PollsSession := by
  cases event with
  | vpn event daemonStarted => exact polls.congr (session_applyVpn taken)
  | connectClicked lookup daemonStarted =>
      simp only [Desktop.next, onConnectClicked] at taken
      split at taken
      · exact polls.congr (session_applyVpn taken)
      · obtain rfl := Option.some.inj taken
        exact polls
  | disconnectClicked daemonStarted => exact polls.congr (session_applyVpn taken)
  | sync event =>
      obtain ⟨-, taken⟩ := Option.ite_none_right_eq_some.mp taken
      obtain ⟨sync, -, rfl⟩ := Option.map_eq_some_iff.mp taken
      exact polls.congr ⟨rfl, rfl⟩
  | session event opens => exact polls.applySession taken
  | tokenExpired =>
      obtain rfl := Option.some.inj taken
      exact ⟨polls.client, fun runs => nomatch runs⟩
  | polling event =>
      obtain ⟨own, taken⟩ := Option.ite_none_right_eq_some.mp taken
      obtain ⟨result, stepped, rfl⟩ := Option.map_eq_some_iff.mp taken
      obtain ⟨client, timer⟩ := client_polling_step own stepped
      exact ⟨client.trans polls.client, fun runs => polls.active (timer.symm.trans runs)⟩

/-- At startup polling runs only for a session that was restored. -/
theorem pollsSession_startup (launch : Launch) : (startup launch).PollsSession := by
  simp only [startup]
  by_cases authenticated : (SessionManager.new launch.storage launch.saved
      launch.lookup).client.isAuthenticated = true
  · rw [if_pos authenticated]
    exact ⟨client_start _ _, fun _ => activeDeployment_new authenticated⟩
  · rw [if_neg authenticated]
    exact ⟨rfl, fun runs => nomatch runs⟩

/-! ## The sync engine -/

/-- Poll timer and daemon of the file sync run only while the bridge shows "connected". -/
def EngineFollowsBridge (desktop : Desktop) : Prop :=
  isRunning desktop.bridge = false →
    desktop.sync.manager.pollTimer = false ∧ desktop.sync.manager.daemon.isRunning = false

/-- A session is created only while the bridge shows "connected", or the call gives up before
it starts anything. -/
def CreatesUnderBridge (desktop : Desktop) : DesktopEvent → Prop
  | .sync (.createSession _ _ _ daemonStarted) =>
      isRunning desktop.bridge = true ∨ desktop.sync.manager.creates daemonStarted = false
  | .sync _ | .vpn _ _ | .connectClicked _ _ | .disconnectClicked _ | .session _ _
  | .tokenExpired | .polling _ => True

/-- The engine follows the bridge exactly when it follows the manager's flag. -/
theorem FollowsBridge.engine_iff (follows : desktop.FollowsBridge) :
    desktop.EngineFollowsBridge ↔ desktop.sync.EngineFollowsVpn := by
  unfold EngineFollowsBridge SyncWorld.EngineFollowsVpn Engine.FollowsVpn
  rw [← follows.vpnConnected]
  exact Iff.rfl

/-- Both conditions on a new session agree. -/
theorem FollowsBridge.startsUnderVpn_iff (follows : desktop.FollowsBridge) (event : SyncEvent) :
    desktop.sync.StartsUnderVpn event ↔ desktop.CreatesUnderBridge (.sync event) := by
  cases event with
  | createSession localPath workspace remotePath daemonStarted =>
      simp only [SyncWorld.StartsUnderVpn, CreatesUnderBridge, follows.vpnConnected]
  | _ => exact Iff.rfl

/-- An event of file sync keeps the engine with the bridge exactly under `CreatesUnderBridge`. -/
theorem engine_withSync (follows : desktop.FollowsBridge) (engine : desktop.EngineFollowsBridge)
    {event : SyncEvent} {sync : SyncWorld} (own : ownSync event = true)
    (taken : desktop.sync.next event = some sync) :
    (desktop.withSync sync).EngineFollowsBridge ↔ desktop.CreatesUnderBridge (.sync event) := by
  rw [(follows.withSync own taken).engine_iff, ← follows.startsUnderVpn_iff]
  exact SyncWorld.engineFollowsVpn_step (follows.engine_iff.mp engine) taken

/-- The wiring stops the engine when it tells of a bridge that is not connected. -/
theorem engine_applyVpn (follows : desktop.FollowsBridge) (engine : desktop.EngineFollowsBridge)
    {event : PeerEvent} {daemonStarted : Bool}
    (taken : desktop.applyVpn event daemonStarted = some after) : after.EngineFollowsBridge := by
  rw [(follows.applyVpn taken).engine_iff]
  have before := follows.engine_iff.mp engine
  obtain ⟨vpn, -, rfl⟩ := Option.map_eq_some_iff.mp taken
  dsimp only
  split
  · exact desktop.sync.manager.followsVpn_setVpnConnected before _ _
  · exact before

/-- Any event keeps the engine with the bridge exactly under `CreatesUnderBridge`. -/
theorem engine_next (follows : desktop.FollowsBridge) (engine : desktop.EngineFollowsBridge)
    {event : DesktopEvent} (taken : desktop.next event = some after) :
    after.EngineFollowsBridge ↔ desktop.CreatesUnderBridge event := by
  cases event with
  | vpn event daemonStarted => exact iff_of_true (engine_applyVpn follows engine taken) trivial
  | connectClicked lookup daemonStarted =>
      simp only [Desktop.next, onConnectClicked] at taken
      split at taken
      · exact iff_of_true (engine_applyVpn follows engine taken) trivial
      · obtain rfl := Option.some.inj taken
        exact iff_of_true engine trivial
  | disconnectClicked daemonStarted =>
      exact iff_of_true (engine_applyVpn follows engine taken) trivial
  | sync event =>
      obtain ⟨own, taken⟩ := Option.ite_none_right_eq_some.mp taken
      obtain ⟨sync, moved, rfl⟩ := Option.map_eq_some_iff.mp taken
      exact engine_withSync follows engine own moved
  | session event opens =>
      obtain ⟨result, -, rfl⟩ := Option.map_eq_some_iff.mp taken
      exact iff_of_true engine trivial
  | tokenExpired =>
      obtain rfl := Option.some.inj taken
      exact iff_of_true engine trivial
  | polling event =>
      obtain ⟨-, taken⟩ := Option.ite_none_right_eq_some.mp taken
      obtain ⟨result, -, rfl⟩ := Option.map_eq_some_iff.mp taken
      exact iff_of_true engine trivial

/-! ## Runs of the application -/

/-- In every state of every run the tray icon offers what the bridge can do, its tooltip tells
the state of the bridge and of the sync sessions, and the file sync knows whether the VPN is
connected. -/
theorem tray_tells_bridge (launch : Launch) {events : List DesktopEvent} {desktop : Desktop}
    (run : Runs next (startup launch) events desktop) : desktop.FollowsBridge :=
  run.invariant (followsBridge_startup launch) fun _ _ _ follows taken => follows.next taken

/-- The poll timer runs only while a deployment is active, and polls with no other client than the
session's. -/
theorem polls_active_deployment (launch : Launch) {events : List DesktopEvent} {desktop : Desktop}
    (run : Runs next (startup launch) events desktop) : desktop.PollsSession :=
  run.invariant (pollsSession_startup launch) fun _ _ _ polls taken => polls.next taken

/-- The sync engine runs only while the bridge shows "connected", throughout a run, exactly if
sessions are created only then. -/
theorem engine_follows_bridge_iff (launch : Launch) (events : List DesktopEvent) :
    (∀ desktop, Visits next (startup launch) events desktop → desktop.EngineFollowsBridge) ↔
      Conforms next CreatesUnderBridge (startup launch) events :=
  visits_iff_conforms FollowsBridge EngineFollowsBridge
    (fun _ _ _ follows taken => follows.next taken)
    (fun _ _ _ follows engine taken => engine_next follows engine taken)
    (followsBridge_startup launch) (fun _ => ⟨rfl, rfl⟩) events

/-- The helper has a tunnel already; the tray says so, and how many sessions Mutagen kept. -/
def foundTunnel : Launch where
  helper := { Helper.new with svc := { HelperService.new with state := .connected } }
  settings := ⟨.disabled, fun _ => none⟩
  mutagenBinary := "mutagen"
  mutagen := []
  storage := .empty true
  saved := []
  lookup := ⟨true, true⟩
  pollingSettings := ⟨true, 10, false⟩
  cache := fun _ _ => none
  opens := fun _ => true

/-- The tunnel comes up, and a sync session is listed. -/
def showsSession : List DesktopEvent :=
  [.vpn (.world (.execute 0)) true, .vpn (.world (.sendReply 0)) true, .vpn .deliver true,
    .sync .delayedRefresh,
    .sync (.finished 0 0 (.array [.object [("status", .string "watching")]]))]

/-- A tunnel that is found at startup shows in the tray. -/
theorem tray_tells_bridge_foundTunnel :
    ∃ desktop : Desktop, Runs next (startup foundTunnel) showsSession desktop ∧
      desktop.FollowsBridge ∧ desktop.tray.connectAction = false ∧
      desktop.tray.toolTip = "Coder Desktop — VPN connected\nFile Sync: 1 session (synced)" := by
  have reached : (replay next (startup foundTunnel) showsSession).any (fun desktop =>
      decide (desktop.tray.connectAction = false ∧ desktop.tray.toolTip =
        "Coder Desktop — VPN connected\nFile Sync: 1 session (synced)")) = true := by
    decide +kernel
  obtain ⟨desktop, run, observed⟩ := runs_of_replay _ reached
  exact ⟨desktop, run, tray_tells_bridge foundTunnel run, of_decide_eq_true observed⟩

/-- A login starts the polling and a logout stops it. -/
def signsIn : List DesktopEvent :=
  [.session (.login "https://coder.example.com" "token") (fun _ => true),
    .session (.loginFinished 0 (.ok []) ⟨true, true, .written⟩ 0) (fun _ => true)]

/-- After a login both lists are polled. -/
theorem polls_active_deployment_signsIn :
    ∃ desktop : Desktop, Runs next (startup foundTunnel) signsIn desktop ∧
      desktop.PollsSession ∧ desktop.polling.polling = true ∧
      desktop.polling.requests.length = 2 := by
  have reached : (replay next (startup foundTunnel) signsIn).any (fun desktop =>
      decide (desktop.polling.polling = true ∧ desktop.polling.requests.length = 2)) = true := by
    decide +kernel
  obtain ⟨desktop, run, observed⟩ := runs_of_replay _ reached
  exact ⟨desktop, run, polls_active_deployment foundTunnel run, of_decide_eq_true observed⟩

end Desktop

end CoderDesktop.Application
