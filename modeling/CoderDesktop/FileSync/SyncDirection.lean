import CoderDesktop.FileSync.FileSyncManager
import CoderDesktop.Semantics.Run

/-!
# The direction of sync sessions

A session propagates from its first endpoint to its second and, unless it is a
one-way replica, back as well. The manager always names the local directory first, so
every session uploads; a one-way replica is upload-only whatever the policy asked for.
The policy is looked at when `createSession` is called and never again.
-/

namespace CoderDesktop.FileSync

open Semantics Settings

/-! ## Directions -/

/-- The pairs of endpoints an unpaused session propagates between. -/
def MutagenSession.flows (session : MutagenSession) : List (Endpoint × Endpoint) :=
  (session.alpha, session.beta) ::
    if session.oneWayReplica then [] else [(session.beta, session.alpha)]

/-- The session can propagate local content to the remote side. -/
def MutagenSession.uploads (session : MutagenSession) : Bool :=
  session.flows.any fun flow => flow.1.isLocal && !flow.2.isLocal

/-- The session can propagate remote content to the local side. -/
def MutagenSession.downloads (session : MutagenSession) : Bool :=
  session.flows.any fun flow => !flow.1.isLocal && flow.2.isLocal

/-- The session goes in no direction the settings disable. -/
def MutagenSession.Permitted (settings : SettingsManager) (session : MutagenSession) : Prop :=
  (settings.disableFileUpload = true → session.uploads = false) ∧
    (settings.disableFileDownload = true → session.downloads = false)

/-- Every active session is permitted by the settings in force. -/
def DirectionsFollowPolicy (world : SyncWorld) : Prop :=
  ∀ session ∈ world.mutagen, session.paused = false → session.Permitted world.settings

/-- The settings let content go from the local to the remote side, and back unless the
session is a one-way replica. -/
def OpenFor (settings : SettingsManager) (oneWayReplica : Bool) : Prop :=
  settings.disableFileUpload = false ∧
    (settings.disableFileDownload = true → oneWayReplica = true)

/-- No active session goes against settings that come into force. -/
def ActiveOpenFor (world : SyncWorld) (settings : SettingsManager) : Prop :=
  ∀ session ∈ world.mutagen, session.paused = false → OpenFor settings session.oneWayReplica

/-- The policy permits what becomes active in this step: created and resumed sessions
under the settings in force, active sessions under settings that change. -/
def ActivatesPermitted (world : SyncWorld) : SyncEvent → Prop
  | .settings event => ActiveOpenFor world (world.settings.apply event).1
  | .restart settings _ => ActiveOpenFor world settings
  | .takesEffect index _ selected =>
      ∀ process ∈ world.manager.processes[index]?,
        match process.command with
        | .create _ _ oneWayReplica => OpenFor world.settings oneWayReplica
        | .resume _ =>
            ∀ session ∈ world.mutagen, selected session →
              OpenFor world.settings session.oneWayReplica
        | .pause _ | .reset _ | .terminate _ | .list => True
  | .createSession _ _ _ _ | .pauseSession _ | .resumeSession _ | .resetSession _
  | .terminateSession _ | .setVpnConnected _ _ | .pollTimeout | .delayedRefresh
  | .finished _ _ _ | .failedToStart _ _ | .daemonExited => True

/-! ## Local directories come first -/

/-- A session that is created has this machine as alpha and a host as beta. -/
def SyncCommand.LocalFirst : SyncCommand → Prop
  | .create alpha beta _ => alpha.isLocal = true ∧ beta.isLocal = false
  | .pause _ | .resume _ | .reset _ | .terminate _ | .list => True

/-- Alpha is on this machine and beta on a host. -/
def MutagenSession.LocalFirst (session : MutagenSession) : Prop :=
  session.alpha.isLocal = true ∧ session.beta.isLocal = false

/-- Every session and every command that may still create one has the local directory
first. -/
structure LocalFirst (world : SyncWorld) : Prop where
  processes : ∀ process ∈ world.manager.processes, process.command.LocalFirst
  sessions : ∀ session ∈ world.mutagen, session.LocalFirst

/-- With the local directory first every session uploads, and only a one-way replica
does not download. -/
theorem MutagenSession.permitted_iff {session : MutagenSession}
    (localFirst : session.LocalFirst) (settings : SettingsManager) :
    session.Permitted settings ↔ OpenFor settings session.oneWayReplica := by
  obtain ⟨identifier, alpha, beta, oneWayReplica, paused⟩ := session
  obtain ⟨here, there⟩ := localFirst
  dsimp only at here there
  cases oneWayReplica with
  | true => simp [Permitted, OpenFor, uploads, downloads, flows, here, there]
  | false => simp [Permitted, OpenFor, uploads, downloads, flows, here, there]

/-! ## What operations of the manager leave alone -/

/-- The settings stay, and processes that are new are named local directory first. -/
structure Extends (manager after : FileSyncManager) : Prop where
  settings : after.settings = manager.settings
  processes : ∀ process ∈ after.processes,
    process ∈ manager.processes ∨ process.command.LocalFirst

namespace Extends

/-- Nothing was added. -/
theorem refl (manager : FileSyncManager) : Extends manager manager :=
  ⟨rfl, fun _ member => .inl member⟩

/-- What is added twice is added. -/
theorem trans {first second third : FileSyncManager} (left : Extends first second)
    (right : Extends second third) : Extends first third := by
  refine ⟨right.settings.trans left.settings, fun process member => ?_⟩
  rcases right.processes process member with old | localFirst
  · exact left.processes process old
  · exact .inr localFirst

/-- Only the settings and the processes matter. -/
theorem of_eq {manager after : FileSyncManager} (settings : after.settings = manager.settings)
    (processes : after.processes = manager.processes) : Extends manager after :=
  ⟨settings, fun _ member => .inl (processes ▸ member)⟩

/-- Changes of other fields before an operation do not matter. -/
theorem since {manager middle after : FileSyncManager} (rest : Extends middle after)
    (settings : middle.settings = manager.settings)
    (processes : middle.processes = manager.processes) : Extends manager after :=
  (of_eq settings processes).trans rest

/-- A command that puts the local side first may be run. -/
theorem runMutagenAsync (manager : FileSyncManager) {command : SyncCommand}
    (localFirst : command.LocalFirst) : Extends manager (manager.runMutagenAsync command) := by
  unfold FileSyncManager.runMutagenAsync
  split
  · exact of_eq rfl rfl
  · refine ⟨rfl, fun process member => ?_⟩
    rcases List.mem_append.mp member with old | new
    · exact .inl old
    · obtain rfl := List.mem_singleton.mp new
      exact .inr localFirst

/-- A refresh adds a listing at most. -/
theorem refreshSessions (manager : FileSyncManager) :
    Extends manager manager.refreshSessions := by
  unfold FileSyncManager.refreshSessions
  split
  · exact refl manager
  · split
    · exact refl manager
    · have poll : SyncCommand.list.LocalFirst := trivial
      exact (runMutagenAsync _ poll).since rfl rfl

/-- Starting the daemon adds no command. -/
theorem startDaemon (manager : FileSyncManager) (started : Bool) :
    Extends manager (manager.startDaemon started).1 := by
  unfold FileSyncManager.startDaemon
  dsimp only
  split
  · exact of_eq rfl rfl
  · exact of_eq rfl rfl

/-- Stopping the daemon adds no command. -/
theorem stopDaemon (manager : FileSyncManager) : Extends manager manager.stopDaemon := by
  unfold FileSyncManager.stopDaemon
  split
  · exact of_eq rfl rfl
  · exact refl manager

/-- A creation puts the local side first. -/
theorem runCreate (manager : FileSyncManager) (localPath workspace remotePath : String) :
    Extends manager (manager.runCreate localPath workspace remotePath) := by
  have polling : Extends manager
      (if !manager.pollTimer then { manager with pollTimer := true } else manager) := by
    split
    · exact of_eq rfl rfl
    · exact refl manager
  exact polling.trans (runMutagenAsync _ ⟨rfl, rfl⟩)

/-- A call of `createSession` puts the local side first. -/
theorem createSession (manager : FileSyncManager) (localPath workspace remotePath : String)
    (daemonStarted : Bool) :
    Extends manager (manager.createSession localPath workspace remotePath daemonStarted) := by
  unfold FileSyncManager.createSession
  have launched := startDaemon manager daemonStarted
  split
  · exact of_eq rfl rfl
  · split
    · split
      · rename_i started result
        rw [result] at launched
        exact launched.trans (runCreate started localPath workspace remotePath)
      · rename_i failed result
        rw [result] at launched
        exact launched.trans (of_eq rfl rfl)
    · exact runCreate manager localPath workspace remotePath

/-- The list of sessions adds no command. -/
theorem updateModel (manager : FileSyncManager) (newSessions : List FileSyncSession) :
    Extends manager (manager.updateModel newSessions) := by
  unfold FileSyncManager.updateModel
  dsimp only
  split <;> split <;> exact of_eq rfl rfl

/-- The end of a process adds a listing at most. -/
theorem onFinished (manager : FileSyncManager) (command : SyncCommand) (exitCode : Int)
    (output : Json) : Extends manager (manager.onFinished command exitCode output) := by
  unfold FileSyncManager.onFinished
  split
  · refine trans ?_ (refreshSessions _)
    split
    · exact of_eq rfl rfl
    · exact refl manager
  · dsimp only
    split
    · exact of_eq rfl rfl
    · exact (updateModel _ _).since rfl rfl

/-- The VPN flag adds no command. -/
theorem setVpnConnected (manager : FileSyncManager) (connected daemonStarted : Bool) :
    Extends manager (manager.setVpnConnected connected daemonStarted) := by
  unfold FileSyncManager.setVpnConnected
  split
  · exact refl manager
  · have changed : Extends manager
        ({ manager with vpnConnected := connected }.emit .availableChanged) := of_eq rfl rfl
    refine changed.trans ?_
    dsimp only
    split
    · have launched := startDaemon
        ({ manager with vpnConnected := connected }.emit .availableChanged) daemonStarted
      split
      · rename_i running result
        split at result
        · obtain rfl := (Prod.mk.inj result).1
          exact of_eq rfl rfl
        · rw [result] at launched
          exact launched.trans (of_eq rfl rfl)
      · rename_i failed result
        split at result
        · cases (Prod.mk.inj result).2
        · rw [result] at launched
          exact launched
    · exact (stopDaemon _).since rfl rfl

/-- A process that ends is dropped. -/
theorem erase (manager : FileSyncManager) (index : Nat) :
    Extends manager { manager with processes := manager.processes.eraseIdx index } :=
  ⟨rfl, fun _ member => .inl ((List.eraseIdx_sublist _ _).mem member)⟩

/-- What only adds such commands keeps the local side first. -/
theorem localFirst {manager after : FileSyncManager} (keeps : Extends manager after)
    {mutagen : List MutagenSession} (holds : LocalFirst ⟨manager, mutagen⟩) :
    LocalFirst ⟨after, mutagen⟩ := by
  refine ⟨fun process member => ?_, holds.sessions⟩
  rcases keeps.processes process member with old | localFirst
  · exact holds.processes process old
  · exact localFirst

/-- What only adds such commands keeps the directions as they were. -/
theorem directions_iff {manager after : FileSyncManager} (keeps : Extends manager after)
    (mutagen : List MutagenSession) :
    DirectionsFollowPolicy ⟨after, mutagen⟩ ↔ DirectionsFollowPolicy ⟨manager, mutagen⟩ := by
  simp [DirectionsFollowPolicy, SyncWorld.settings, keeps.settings]

end Extends

/-! ## Steps -/

namespace FileSyncManager

/-- The settings change as they do alone. -/
theorem applySettings_settings (manager : FileSyncManager) (event : SettingsEvent) :
    (manager.applySettings event).settings = (manager.settings.apply event).1 := by
  simp only [applySettings]
  split <;> rfl

/-- Changed settings leave the processes alone. -/
theorem applySettings_processes (manager : FileSyncManager) (event : SettingsEvent) :
    (manager.applySettings event).processes = manager.processes := by
  simp only [applySettings]
  split <;> rfl

end FileSyncManager

/-- What a step can do: run an operation of the manager, change the settings, start the
application anew, or carry out a command. -/
theorem next_cases {world after : SyncWorld} {event : SyncEvent}
    (taken : world.next event = some after) :
    (∃ manager, after = ⟨manager, world.mutagen⟩ ∧ Extends world.manager manager ∧
        ActivatesPermitted world event) ∨
      (∃ change manager, event = .settings change ∧ after = ⟨manager, world.mutagen⟩ ∧
        manager.settings = (world.settings.apply change).1 ∧
        manager.processes = world.manager.processes) ∨
      (∃ settings binaryPath, event = .restart settings binaryPath ∧
        after = ⟨.new settings binaryPath, world.mutagen⟩) ∨
      ∃ index identifier selected command, event = .takesEffect index identifier selected ∧
        world.manager.processes[index]? = some ⟨command, false⟩ ∧
        after =
          { manager :=
              { world.manager with
                processes := world.manager.processes.set index ⟨command, true⟩ }
            mutagen := command.effect identifier selected world.mutagen } := by
  have call : ∀ operation : FileSyncManager → FileSyncManager,
      Extends world.manager (operation world.manager) → ActivatesPermitted world event →
      world.call operation = after →
      ∃ manager, after = ⟨manager, world.mutagen⟩ ∧ Extends world.manager manager ∧
        ActivatesPermitted world event := by
    intro operation keeps permitted same
    exact ⟨operation world.manager, same.symm, keeps, permitted⟩
  cases event with
  | settings change =>
      obtain rfl := Option.some.inj taken
      exact .inr (.inl ⟨change, _, rfl, rfl, world.manager.applySettings_settings change,
        world.manager.applySettings_processes change⟩)
  | restart settings binaryPath =>
      obtain rfl := Option.some.inj taken
      exact .inr (.inr (.inl ⟨settings, binaryPath, rfl, rfl⟩))
  | takesEffect index identifier selected =>
      simp only [SyncWorld.next] at taken
      split at taken
      · rename_i command running
        exact .inr (.inr (.inr ⟨index, identifier, selected, command, rfl, running,
          (Option.some.inj taken).symm⟩))
      · cases taken
      · cases taken
  | createSession localPath workspace remotePath daemonStarted =>
      exact .inl (call _ (.createSession _ _ _ _ _) trivial (Option.some.inj taken))
  | pauseSession sessionId =>
      exact .inl (call (·.pauseSession sessionId) (.runMutagenAsync _ trivial) trivial
        (Option.some.inj taken))
  | resumeSession sessionId =>
      exact .inl (call (·.resumeSession sessionId) (.runMutagenAsync _ trivial) trivial
        (Option.some.inj taken))
  | resetSession sessionId =>
      exact .inl (call (·.resetSession sessionId) (.runMutagenAsync _ trivial) trivial
        (Option.some.inj taken))
  | terminateSession sessionId =>
      exact .inl (call (·.terminateSession sessionId) (.runMutagenAsync _ trivial) trivial
        (Option.some.inj taken))
  | setVpnConnected connected daemonStarted =>
      exact .inl (call _ (.setVpnConnected _ _ _) trivial (Option.some.inj taken))
  | pollTimeout =>
      obtain ⟨-, taken⟩ := Option.ite_none_right_eq_some.mp taken
      exact .inl (call _ (.refreshSessions _) trivial (Option.some.inj taken))
  | delayedRefresh =>
      obtain ⟨-, taken⟩ := Option.ite_none_right_eq_some.mp taken
      exact .inl (call (·.onDelayedRefresh) ((Extends.refreshSessions _).since rfl rfl) trivial
        (Option.some.inj taken))
  | finished index exitCode output =>
      simp only [SyncWorld.next] at taken
      split at taken
      · exact .inl (call _ ((Extends.erase _ index).trans (.onFinished _ _ _ _)) trivial
          (Option.some.inj taken))
      · cases taken
  | failedToStart index errorString =>
      simp only [SyncWorld.next] at taken
      split at taken
      · exact .inl (call _ ((Extends.erase _ index).trans (.of_eq rfl rfl)) trivial
          (Option.some.inj taken))
      · cases taken
      · cases taken
  | daemonExited =>
      obtain ⟨-, taken⟩ := Option.ite_none_right_eq_some.mp taken
      exact .inl (call _ (.of_eq rfl rfl) trivial (Option.some.inj taken))

/-- A command puts the local side first in the sessions it makes. -/
theorem effect_localFirst {command : SyncCommand} {sessions : List MutagenSession}
    (first : command.LocalFirst) (holds : ∀ session ∈ sessions, session.LocalFirst)
    (identifier : String) (selected : MutagenSession → Bool) :
    ∀ session ∈ command.effect identifier selected sessions, session.LocalFirst := by
  intro session member
  cases command with
  | create alpha beta oneWayReplica =>
      rcases List.mem_append.mp member with old | new
      · exact holds session old
      · obtain rfl := List.mem_singleton.mp new
        exact first
  | pause sessionId =>
      obtain ⟨old, oldMember, rfl⟩ := List.mem_map.mp member
      split <;> exact holds old oldMember
  | resume sessionId =>
      obtain ⟨old, oldMember, rfl⟩ := List.mem_map.mp member
      split <;> exact holds old oldMember
  | reset sessionId => exact holds session member
  | terminate sessionId => exact holds session (List.mem_of_mem_filter member)
  | list => exact holds session member

/-- Every event keeps the local side first. -/
theorem LocalFirst.step {world after : SyncWorld} {event : SyncEvent} (holds : LocalFirst world)
    (taken : world.next event = some after) : LocalFirst after := by
  rcases next_cases taken with
    ⟨manager, rfl, keeps, -⟩ | ⟨change, manager, rfl, rfl, -, same⟩ |
    ⟨settings, binaryPath, rfl, rfl⟩ | ⟨index, identifier, selected, command, rfl, running, rfl⟩
  · exact keeps.localFirst holds
  · exact ⟨fun process member => holds.processes process (same ▸ member), holds.sessions⟩
  · exact ⟨fun _ => List.not_mem_nil.elim, holds.sessions⟩
  · have first : command.LocalFirst := holds.processes _ (List.mem_of_getElem? running)
    refine ⟨fun process member => ?_, effect_localFirst first holds.sessions _ _⟩
    rcases List.mem_or_eq_of_mem_set member with old | rfl
    · exact holds.processes process old
    · exact first

/-- Under other settings the active sessions follow the policy when these are open for
them. -/
theorem directions_iff_activeOpenFor {world : SyncWorld} (holds : LocalFirst world)
    {manager : FileSyncManager} {settings : SettingsManager}
    (same : manager.settings = settings) :
    DirectionsFollowPolicy ⟨manager, world.mutagen⟩ ↔ ActiveOpenFor world settings := by
  subst same
  refine forall₂_congr fun session member => forall_congr' fun _ => ?_
  exact session.permitted_iff (holds.sessions session member) _

/-- Creating and resuming are what makes sessions active. -/
theorem directions_effect_iff {world : SyncWorld} {manager : FileSyncManager}
    (holds : LocalFirst world) (follow : DirectionsFollowPolicy world)
    (same : manager.settings = world.settings) {index : Nat} {command : SyncCommand}
    (running : world.manager.processes[index]? = some ⟨command, false⟩)
    (identifier : String) (selected : MutagenSession → Bool) :
    DirectionsFollowPolicy ⟨manager, command.effect identifier selected world.mutagen⟩ ↔
      ActivatesPermitted world (.takesEffect index identifier selected) := by
  have settings : ∀ mutagen, SyncWorld.settings ⟨manager, mutagen⟩ = world.settings :=
    fun _ => same
  simp only [DirectionsFollowPolicy, ActivatesPermitted, settings, running, Option.mem_def,
    Option.some.injEq, forall_eq']
  cases command with
  | create alpha beta oneWayReplica =>
      have first : (MutagenSession.mk identifier alpha beta oneWayReplica false).LocalFirst :=
        holds.processes _ (List.mem_of_getElem? running)
      refine Iff.trans ?_ (MutagenSession.permitted_iff first world.settings)
      constructor
      · intro next
        exact next _ (List.mem_append_right _ (List.mem_singleton_self _)) rfl
      · intro permitted session member active
        rcases List.mem_append.mp member with old | new
        · exact follow session old active
        · obtain rfl := List.mem_singleton.mp new
          exact permitted
  | resume sessionId =>
      constructor
      · intro next session member chosen
        refine (session.permitted_iff (holds.sessions session member) _).mp ?_
        have resumed := next { session with paused := false }
          (List.mem_map.mpr ⟨session, member, by rw [if_pos chosen]⟩) rfl
        exact resumed
      · intro open_ session member active
        obtain ⟨old, oldMember, rfl⟩ := List.mem_map.mp member
        by_cases chosen : selected old = true
        · rw [if_pos chosen]
          exact (old.permitted_iff (holds.sessions old oldMember) _).mpr
            (open_ old oldMember chosen)
        · rw [if_neg chosen] at active ⊢
          exact follow old oldMember active
  | pause sessionId =>
      refine iff_of_true (fun session member active => ?_) trivial
      obtain ⟨old, oldMember, rfl⟩ := List.mem_map.mp member
      by_cases chosen : selected old = true
      · rw [if_pos chosen] at active
        cases active
      · rw [if_neg chosen] at active ⊢
        exact follow old oldMember active
  | reset sessionId => exact iff_of_true follow trivial
  | terminate sessionId =>
      refine iff_of_true (fun session member active => ?_) trivial
      exact follow session (List.mem_of_mem_filter member) active
  | list => exact iff_of_true follow trivial

/-- An event keeps the directions exactly when it activates permitted ones. -/
theorem directions_step_iff {world after : SyncWorld} {event : SyncEvent}
    (holds : LocalFirst world) (follow : DirectionsFollowPolicy world)
    (taken : world.next event = some after) :
    DirectionsFollowPolicy after ↔ ActivatesPermitted world event := by
  rcases next_cases taken with
    ⟨manager, rfl, keeps, permitted⟩ | ⟨change, manager, rfl, rfl, settings, -⟩ |
    ⟨settings, binaryPath, rfl, rfl⟩ | ⟨index, identifier, selected, command, rfl, running, rfl⟩
  · exact iff_of_true ((keeps.directions_iff world.mutagen).mpr follow) permitted
  · exact directions_iff_activeOpenFor holds settings
  · exact directions_iff_activeOpenFor holds rfl
  · exact directions_effect_iff holds follow rfl running identifier selected

/-! ## Results -/

/-- Every active session follows the policy throughout a run exactly when the policy
permits whatever becomes active, at the time it does, and no permission is withdrawn
from an active session. -/
theorem directionsFollowPolicy_iff_activatesPermitted (settings : SettingsManager)
    (binaryPath : String) (events : List SyncEvent) :
    (∀ world, Visits SyncWorld.next (.startup settings binaryPath) events world →
        DirectionsFollowPolicy world) ↔
      Conforms SyncWorld.next ActivatesPermitted (.startup settings binaryPath) events := by
  refine visits_iff_conforms LocalFirst DirectionsFollowPolicy ?_ ?_ ?_ ?_ events
  · exact fun world event after holds taken => holds.step taken
  · exact fun world event after holds follow taken => directions_step_iff holds follow taken
  · exact ⟨fun _ => List.not_mem_nil.elim, fun _ => List.not_mem_nil.elim⟩
  · exact fun _ => List.not_mem_nil.elim

/-- The matrix of policies at creation: the session a call asks for follows the policy
the call was made under exactly when uploads are allowed. In download-only mode the
flag is set but the endpoints are not swapped. -/
theorem runCreate_openFor_iff {manager : FileSyncManager} (localPath workspace remotePath : String)
    (binary : manager.daemon.binaryPath ≠ "") :
    (manager.runCreate localPath workspace remotePath).processes = manager.processes ++
        [⟨.create (.localPath localPath) (.remotePath workspace remotePath) manager.oneWayReplica,
          false⟩] ∧
      (OpenFor manager.settings manager.oneWayReplica ↔ manager.uploadAllowed = true) := by
  constructor
  · unfold FileSyncManager.runCreate FileSyncManager.runMutagenAsync
    cases manager.pollTimer with
    | true => simp [binary]
    | false => simp [binary]
  · cases noUpload : manager.settings.disableFileUpload with
    | true => simp [OpenFor, FileSyncManager.uploadAllowed, noUpload]
    | false =>
        cases noDownload : manager.settings.disableFileDownload with
        | true =>
            simp [OpenFor, FileSyncManager.uploadAllowed, FileSyncManager.oneWayReplica,
              FileSyncManager.effectiveSyncMode, noUpload, noDownload]
        | false => simp [OpenFor, FileSyncManager.uploadAllowed, noUpload, noDownload]

/-- Settings without a policy document and without preferences. -/
def defaultSettings : SettingsManager where
  mdm := .parse none
  userSettings _ := none

/-- In download-only mode a new session uploads. -/
theorem downloadOnly_uploads :
    ¬ ∀ world, Visits SyncWorld.next (.startup defaultSettings "/usr/bin/mutagen")
        [.settings (.setUserPreference "disableFileUpload" (.bool true)),
          .createSession "/home/u/project" "dev.coder" "/home/coder/project" true,
          .takesEffect 0 "sync_1" fun _ => false] world → DirectionsFollowPolicy world := by
  refine not_visits_of_replay (fun world =>
    world.settings.disableFileUpload &&
      world.mutagen.any fun session => !session.paused && session.uploads) (by decide) ?_
  intro world uploads follow
  obtain ⟨noUpload, active⟩ := (Bool.and_eq_true _ _).mp uploads
  obtain ⟨session, member, uploads⟩ := List.any_eq_true.mp active
  obtain ⟨unpaused, uploads⟩ := (Bool.and_eq_true _ _).mp uploads
  have permitted := follow session member (by simpa using unpaused)
  exact Bool.false_ne_true ((permitted.1 noUpload).symm.trans uploads)

end CoderDesktop.FileSync
