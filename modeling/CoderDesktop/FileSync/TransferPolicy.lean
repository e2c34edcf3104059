import CoderDesktop.FileSync.FileTransferManager
import CoderDesktop.Semantics.Run
import CoderDesktop.Settings.SettingsManager

/-!
# File transfers and the policy

`TransferWorld` runs the settings next to the transfer manager and keeps, for every
`scp` process that was started, the settings in force at that moment. The manager has
no access to the settings: whether a transfer is permitted is up to its callers.
-/

namespace CoderDesktop.FileSync

open Semantics Settings

/-! ## The system -/

/-- The settings, the transfers, and the scp processes that were started. -/
structure TransferWorld where
  settings : SettingsManager
  manager : FileTransferManager
  /-- History, not a field of the source. -/
  started : List (ScpProcess × SettingsManager)

/-- The settings change, calls on the manager, its timers, and what its processes do. -/
inductive TransferEvent where
  | settings (event : SettingsEvent)
  | download (agentHostname remotePath localPath : String) (failsAtOnce : Bool)
  | upload (agentHostname localPath remotePath : String) (fileSize : Option Int)
      (failsAtOnce : Bool)
  | cancelTransfer (id : Nat) (waited : List ProcessEvent)
  | process (id : Nat) (event : ProcessEvent)
  | removalTimer (id : Nat)
  | cleanupTimeout

namespace TransferWorld

/-- No transfer was started. -/
def startup (settings : SettingsManager) : TransferWorld := ⟨settings, .new, []⟩

/-- The step of a call that may have started a process. -/
def called (world : TransferWorld) (result : FileTransferManager × Option ScpProcess) :
    TransferWorld :=
  { world with
    manager := result.1
    started := world.started ++ result.2.toList.map fun process => (process, world.settings) }

/-- One event, where it can happen. -/
def next (world : TransferWorld) : TransferEvent → Option TransferWorld
  | .settings event => some { world with settings := (world.settings.apply event).1 }
  | .download agentHostname remotePath localPath failsAtOnce =>
      some (world.called
        (world.manager.download agentHostname remotePath localPath failsAtOnce))
  | .upload agentHostname localPath remotePath fileSize failsAtOnce =>
      some (world.called
        (world.manager.upload agentHostname localPath remotePath fileSize failsAtOnce))
  | .cancelTransfer id waited =>
      some { world with manager := world.manager.cancelTransfer id waited }
  | .process id event =>
      if world.manager.processRunning id then
        some { world with manager := world.manager.onProcessEvent id event }
      else none
  | .removalTimer id =>
      if id ∈ world.manager.removals then
        some { world with
          manager :=
            { world.manager with removals := world.manager.removals.erase id }.removeTransfer id }
      else none
  | .cleanupTimeout =>
      some { world with manager := world.manager.purgeOldFinishedTransfers }

end TransferWorld

/-! ## Directions -/

namespace ScpProcess

/-- The process copies local to remote. The tags of the operands are how `scp` reads them for host
names without a slash and local paths without a colon before their first slash. -/
def uploads (process : ScpProcess) : Bool :=
  process.source.isLocal && !process.destination.isLocal

/-- The process copies remote to local, with the same reading of the tags. -/
def downloads (process : ScpProcess) : Bool :=
  !process.source.isLocal && process.destination.isLocal

/-- The settings permit the direction of the process. -/
def Permitted (process : ScpProcess) (settings : SettingsManager) : Prop :=
  (process.uploads = true → settings.disableFileUpload = false) ∧
    (process.downloads = true → settings.disableFileDownload = false)

end ScpProcess

/-- Every process was permitted when it was started. -/
def TransfersFollowPolicy (world : TransferWorld) : Prop :=
  ∀ start ∈ world.started, start.1.Permitted start.2

/-- A call that gets its process started is made while the policy permits it. -/
def CallPermitted (world : TransferWorld) : TransferEvent → Prop
  | .download _ _ _ failsAtOnce =>
      failsAtOnce = false → world.settings.disableFileDownload = false
  | .upload _ _ _ _ failsAtOnce =>
      failsAtOnce = false → world.settings.disableFileUpload = false
  | .settings _ | .cancelTransfer _ _ | .process _ _ | .removalTimer _ | .cleanupTimeout => True

/-- A transfer's process goes in the direction the transfer says. -/
theorem FileTransfer.scpProcess_permitted_iff (transfer : FileTransfer)
    (settings : SettingsManager) :
    transfer.scpProcess.Permitted settings ↔
      if transfer.isUpload then settings.disableFileUpload = false
      else settings.disableFileDownload = false := by
  cases upload : transfer.isUpload with
  | true =>
      simp [ScpProcess.Permitted, scpProcess, upload, ScpProcess.uploads, ScpProcess.downloads,
        Endpoint.isLocal]
  | false =>
      simp [ScpProcess.Permitted, scpProcess, upload, ScpProcess.uploads, ScpProcess.downloads,
        Endpoint.isLocal]

/-! ## Steps -/

/-- Whatever its state, the manager starts the process of every transfer it is given. -/
theorem enqueue_process (manager : FileTransferManager) (transfer : FileTransfer)
    (failsAtOnce : Bool) :
    (manager.enqueue transfer failsAtOnce).2 =
      if failsAtOnce then none else some transfer.scpProcess := by
  cases failsAtOnce with
  | true => rfl
  | false => rfl

/-- A call follows the policy exactly when its process is permitted or does not start. -/
theorem called_iff {world : TransferWorld} (follow : TransfersFollowPolicy world)
    (transfer : FileTransfer) (failsAtOnce : Bool) :
    TransfersFollowPolicy (world.called (world.manager.enqueue transfer failsAtOnce)) ↔
      (failsAtOnce = false → transfer.scpProcess.Permitted world.settings) := by
  unfold TransferWorld.called
  rw [enqueue_process]
  cases failsAtOnce with
  | true =>
      refine iff_of_true ?_ nofun
      simpa [TransfersFollowPolicy] using follow
  | false =>
      constructor
      · intro next _
        exact next (transfer.scpProcess, world.settings) (by simp)
      · intro permitted start member
        rcases List.mem_append.mp member with old | new
        · exact follow start old
        · obtain rfl : start = (transfer.scpProcess, world.settings) := by simpa using new
          exact permitted rfl

/-- An event follows the policy exactly when the call it makes is permitted. -/
theorem transfers_step_iff {world after : TransferWorld} {event : TransferEvent}
    (follow : TransfersFollowPolicy world) (taken : world.next event = some after) :
    TransfersFollowPolicy after ↔ CallPermitted world event := by
  cases event with
  | download agentHostname remotePath localPath failsAtOnce =>
      obtain rfl := Option.some.inj taken
      refine (called_iff follow _ failsAtOnce).trans (imp_congr_right fun _ => ?_)
      exact FileTransfer.scpProcess_permitted_iff _ _
  | upload agentHostname localPath remotePath fileSize failsAtOnce =>
      obtain rfl := Option.some.inj taken
      refine (called_iff follow _ failsAtOnce).trans (imp_congr_right fun _ => ?_)
      exact FileTransfer.scpProcess_permitted_iff _ _
  | settings event =>
      obtain rfl := Option.some.inj taken
      exact iff_of_true follow trivial
  | cancelTransfer id waited =>
      obtain rfl := Option.some.inj taken
      exact iff_of_true follow trivial
  | process id event =>
      obtain ⟨-, rfl⟩ := of_guarded taken
      exact iff_of_true follow trivial
  | removalTimer id =>
      obtain ⟨-, rfl⟩ := of_guarded taken
      exact iff_of_true follow trivial
  | cleanupTimeout =>
      obtain rfl := Option.some.inj taken
      exact iff_of_true follow trivial

/-! ## Results -/

/-- No process is started against the policy in a run exactly when no caller asks for a
transfer the policy forbids. -/
theorem transfersFollowPolicy_iff_callsPermitted (settings : SettingsManager)
    (events : List TransferEvent) :
    (∀ world, Visits TransferWorld.next (.startup settings) events world →
        TransfersFollowPolicy world) ↔
      Conforms TransferWorld.next CallPermitted (.startup settings) events := by
  refine visits_iff_conforms (fun _ => True) TransfersFollowPolicy ?_ ?_ trivial ?_ events
  · exact fun _ _ _ _ _ => trivial
  · exact fun world event after _ follow taken => transfers_step_iff follow taken
  · exact fun _ => List.not_mem_nil.elim

/-- An administrator forbids uploads. -/
def noUploadPolicy : SettingsManager where
  mdm := .parse (some (.object [("version", .number 1),
    ("settings", .object [("disableFileUpload",
      .object [("value", .bool true), ("locked", .bool true)])])]))
  userSettings _ := none

/-- An upload is started although the policy forbids it. -/
theorem forbiddenUpload_started :
    ¬ ∀ world, Visits TransferWorld.next (.startup noUploadPolicy)
        [.upload "dev.coder" "/home/u/secret.txt" "/home/coder/secret.txt" (some 12) false] world →
      TransfersFollowPolicy world := by
  refine not_visits_of_replay (fun world => world.started.any fun start =>
    start.1.uploads && start.2.disableFileUpload) (by decide) ?_
  intro world forbidden follow
  obtain ⟨start, member, both⟩ := List.any_eq_true.mp forbidden
  obtain ⟨uploads, disabled⟩ := (Bool.and_eq_true _ _).mp both
  exact Bool.false_ne_true (((follow start member).1 uploads).symm.trans disabled)

end CoderDesktop.FileSync
