import CoderDesktop.Dlp.CompositorManager
import CoderDesktop.Dlp.Output
import CoderDesktop.Encoding.Utf8
import Mathlib.Data.List.InsertIdx

/-!
# The manager's compositors

`DlpCompositorManager` keeps of a compositor only the policy and the identity it was
given. `Fleet` runs the manager together with the compositors it owns, one for each
application, as `app->compositor`: `Fleet.Mirrored` says that what the manager's model
keeps is what the compositors have, and every operation preserves it.
-/

namespace CoderDesktop.Dlp

open Encoding Semantics

/-- The bytes a `const char*` into a `QByteArray` stands for: up to the first NUL. -/
def identityBytes (text : String) : List Byte :=
  ((Utf8.encode text.toList).map fun byte => byte.toBitVec).takeWhile (· ≠ 0)

/-- The manager, with the compositors of its entries. -/
structure Fleet where
  manager : DlpCompositorManager
  /-- The compositors of `manager.apps`, in the same order. -/
  compositors : List DlpCompositor

namespace Fleet

/-- Nothing is running. -/
def new : Fleet := ⟨.new, []⟩

/-- The compositor `launchApp` creates and configures. -/
def freshCompositor (manager : DlpCompositorManager) : DlpCompositor :=
  let comp := DlpCompositor.new.setPolicy (some manager.currentPolicy)
  if manager.watermarkIdentity = "" then comp
  else comp.setWatermarkIdentity (some (identityBytes manager.watermarkIdentity))

/-- A launch that fails destroys its compositor. -/
def launchApp (fleet : Fleet) (request : LaunchRequest) (outcome : LaunchOutcome) : Fleet where
  manager := (fleet.manager.launchApp request outcome).1
  compositors :=
    if outcome.succeeds then fleet.compositors ++ [freshCompositor fleet.manager]
    else fleet.compositors

/-- Entry and compositor go together. -/
def removeApp (fleet : Fleet) (index : Nat) : Fleet where
  manager := fleet.manager.removeApp index
  compositors := fleet.compositors.eraseIdx index

/-- The first entry with this pid goes. -/
def stopApp (fleet : Fleet) (pid : Int) : Fleet :=
  match fleet.manager.apps.findIdx? fun app => app.pid = pid with
  | some index => fleet.removeApp index
  | none => fleet

/-- All compositors are destroyed. -/
def stopAll (fleet : Fleet) : Fleet := ⟨fleet.manager.stopAll.1, []⟩

/-- Every compositor is given the policy. -/
def updatePolicy (fleet : Fleet) (clipboardBlockOutgoing clipboardBlockIncoming
    screenshotBlock fileSandbox networkSandbox watermarkEnabled : Bool) : Fleet where
  manager := fleet.manager.updatePolicy clipboardBlockOutgoing clipboardBlockIncoming
    screenshotBlock fileSandbox networkSandbox watermarkEnabled
  compositors := fleet.compositors.map fun comp => comp.setPolicy (some
    ⟨clipboardBlockOutgoing, clipboardBlockIncoming, screenshotBlock, fileSandbox,
      networkSandbox, watermarkEnabled⟩)

/-- Every compositor is given the identity. -/
def setWatermarkIdentity (fleet : Fleet) (identity : String) : Fleet where
  manager := fleet.manager.setWatermarkIdentity identity
  compositors := fleet.compositors.map fun comp =>
    comp.setWatermarkIdentity (some (identityBytes identity))

/-- An entry goes when its process has exited and its last client is gone. -/
def checkChild (fleet : Fleet) (index : Nat) (exited : Bool) (clients : Nat) : Fleet :=
  match fleet.manager.apps[index]? with
  | none => fleet
  | some app =>
      let polled :=
        { fleet with manager := { fleet.manager with
            apps := fleet.manager.apps.set index
              { app with bwrapExited := app.bwrapExited || exited } } }
      if (app.bwrapExited || exited) ∧ clients = 0 then polled.removeApp index else polled

/-- From the last entry to the first. -/
def checkChildProcesses (fleet : Fleet) (exited : Nat → Bool) (clients : Nat → Nat) : Fleet :=
  (List.range fleet.manager.apps.length).reverse.foldl
    (fun current index => current.checkChild index (exited index) (clients index)) fleet

end Fleet

/-- The handler of `settingsChanged` in `main`. -/
def Fleet.onSettingsChanged (settings : Settings.SettingsManager) (fleet : Fleet) : Fleet :=
  if fleet.manager.isRunning then
    fleet.updatePolicy settings.dlpClipboardBlock settings.dlpClipboardBlock true
      settings.dlpFileSandbox settings.dlpNetworkSandbox settings.dlpWatermark
  else
    fleet

/-- What a compositor was given. -/
structure Given where
  policy : CoderDlpPolicy
  watermark : WatermarkState

/-- The watermark of a compositor that was given an identity, or none so far. -/
def watermarkOf : Option String → WatermarkState
  | some identity => dlpWatermarkSetIdentity .new (identityBytes identity)
  | none => .new

/-- What the compositor was given. -/
def DlpCompositor.given (comp : DlpCompositor) : Given := ⟨comp.policy, comp.watermark⟩

/-- The compositor as the manager's model keeps it. -/
def RunningApp.given (app : RunningApp) : Given := ⟨app.policy, watermarkOf app.identity⟩

/-- Every compositor has what the manager's model says it was given. -/
def Fleet.Mirrored (fleet : Fleet) : Prop :=
  fleet.compositors.map DlpCompositor.given = fleet.manager.apps.map RunningApp.given

/-! ## The manager of the fleet -/

section Manager

variable (fleet : Fleet)

@[simp] theorem manager_stopApp (pid : Int) :
    (fleet.stopApp pid).manager = (fleet.manager.stopApp pid).1 := by
  unfold Fleet.stopApp DlpCompositorManager.stopApp
  cases fleet.manager.apps.findIdx? fun app => app.pid = pid <;> rfl

@[simp] theorem manager_checkChild (index : Nat) (exited : Bool) (clients : Nat) :
    (fleet.checkChild index exited clients).manager =
      fleet.manager.checkChild index exited clients := by
  unfold Fleet.checkChild DlpCompositorManager.checkChild
  cases fleet.manager.apps[index]? with
  | none => rfl
  | some app =>
      dsimp only
      split <;> rfl

@[simp] theorem manager_checkChildProcesses (exited : Nat → Bool) (clients : Nat → Nat) :
    (fleet.checkChildProcesses exited clients).manager =
      fleet.manager.checkChildProcesses exited clients := by
  unfold Fleet.checkChildProcesses DlpCompositorManager.checkChildProcesses
  exact (List.foldl_hom Fleet.manager fun current index =>
    (manager_checkChild current index (exited index) (clients index)).symm).symm

@[simp] theorem manager_onSettingsChanged (settings : Settings.SettingsManager) :
    (fleet.onSettingsChanged settings).manager = onSettingsChanged settings fleet.manager := by
  unfold Fleet.onSettingsChanged onSettingsChanged
  split <;> rfl

end Manager

/-! ## Mirroring -/

/-- Writing back what is there. -/
theorem set_of_getElem? {Entry : Type} {entries : List Entry} {index : Nat} {entry : Entry}
    (found : entries[index]? = some entry) : entries.set index entry = entries := by
  obtain ⟨bound, rfl⟩ := List.getElem?_eq_some_iff.mp found
  exact List.set_getElem_self bound

@[simp] theorem given_setPolicy (comp : DlpCompositor) (policy : CoderDlpPolicy) :
    (comp.setPolicy (some policy)).given = ⟨policy, comp.watermark⟩ := rfl

@[simp] theorem given_setWatermarkIdentity (comp : DlpCompositor) (identity : String) :
    (comp.setWatermarkIdentity (some (identityBytes identity))).given =
      ⟨comp.policy, watermarkOf (some identity)⟩ := rfl

/-- A new compositor is given the manager's policy and identity. -/
theorem given_freshCompositor (manager : DlpCompositorManager) :
    (Fleet.freshCompositor manager).given =
      ⟨manager.currentPolicy, watermarkOf
        (if manager.watermarkIdentity = "" then none else some manager.watermarkIdentity)⟩ := by
  unfold Fleet.freshCompositor
  split <;> rfl

namespace Fleet.Mirrored

variable {fleet : Fleet}

/-- An empty fleet mirrors the manager. -/
theorem new : Fleet.new.Mirrored := rfl

/-- `launchApp` keeps the fleet with the manager. -/
theorem launchApp (mirrored : fleet.Mirrored) (request : LaunchRequest) (outcome : LaunchOutcome) :
    (fleet.launchApp request outcome).Mirrored := by
  cases succeeds : outcome.succeeds with
  | false =>
      simpa [Mirrored, Fleet.launchApp, succeeds,
        DlpCompositorManager.launchApp_of_failed succeeds] using mirrored
  | true =>
      simp only [LaunchOutcome.succeeds, decide_eq_true_eq] at succeeds
      obtain ⟨available, created, started⟩ := succeeds
      have launched : ¬ outcome.pid < 0 := by omega
      unfold Mirrored at mirrored ⊢
      simp [Fleet.launchApp, DlpCompositorManager.launchApp, LaunchOutcome.succeeds, available,
        created, started, launched, mirrored, given_freshCompositor, RunningApp.given]

/-- `removeApp` keeps the fleet with the manager. -/
theorem removeApp (mirrored : fleet.Mirrored) (index : Nat) : (fleet.removeApp index).Mirrored := by
  unfold Mirrored at mirrored ⊢
  simp only [Fleet.removeApp, ← List.eraseIdx_map, mirrored]
  unfold DlpCompositorManager.removeApp
  cases found : fleet.manager.apps[index]? with
  | none =>
      refine List.eraseIdx_of_length_le ?_
      simpa using List.getElem?_eq_none_iff.mp found
  | some app => exact List.eraseIdx_map _ _ _

/-- `stopApp` keeps the fleet with the manager. -/
theorem stopApp (mirrored : fleet.Mirrored) (pid : Int) : (fleet.stopApp pid).Mirrored := by
  unfold Fleet.stopApp
  split
  · exact mirrored.removeApp _
  · exact mirrored

/-- `stopAll` keeps the fleet with the manager. -/
theorem stopAll : fleet.stopAll.Mirrored := rfl

/-- `updatePolicy` keeps the fleet with the manager. -/
theorem updatePolicy (mirrored : fleet.Mirrored) (clipboardBlockOutgoing clipboardBlockIncoming
    screenshotBlock fileSandbox networkSandbox watermarkEnabled : Bool) :
    (fleet.updatePolicy clipboardBlockOutgoing clipboardBlockIncoming screenshotBlock fileSandbox
      networkSandbox watermarkEnabled).Mirrored := by
  let policy : CoderDlpPolicy := ⟨clipboardBlockOutgoing, clipboardBlockIncoming,
    screenshotBlock, fileSandbox, networkSandbox, watermarkEnabled⟩
  have replaced := congrArg (List.map fun given => Given.mk policy given.watermark) mirrored
  simp only [List.map_map] at replaced
  unfold Mirrored
  simp only [Fleet.updatePolicy, DlpCompositorManager.updatePolicy, List.map_map]
  exact replaced

/-- Changed settings keep the fleet with the manager. -/
theorem onSettingsChanged (mirrored : fleet.Mirrored) (settings : Settings.SettingsManager) :
    (fleet.onSettingsChanged settings).Mirrored := by
  unfold Fleet.onSettingsChanged
  split
  · exact mirrored.updatePolicy _ _ _ _ _ _
  · exact mirrored

/-- `setWatermarkIdentity` keeps the fleet with the manager. -/
theorem setWatermarkIdentity (mirrored : fleet.Mirrored) (identity : String) :
    (fleet.setWatermarkIdentity identity).Mirrored := by
  have replaced := congrArg (List.map fun given =>
    Given.mk given.policy (watermarkOf (some identity))) mirrored
  simp only [List.map_map] at replaced
  unfold Mirrored
  simp only [Fleet.setWatermarkIdentity, DlpCompositorManager.setWatermarkIdentity, List.map_map]
  exact replaced

/-- Checking one child keeps the fleet with the manager. -/
theorem checkChild (mirrored : fleet.Mirrored) (index : Nat) (exited : Bool) (clients : Nat) :
    (fleet.checkChild index exited clients).Mirrored := by
  unfold Fleet.checkChild
  cases found : fleet.manager.apps[index]? with
  | none => exact mirrored
  | some app =>
      have polled (app' : RunningApp) (same : app'.given = app.given) :
          Mirrored { fleet with manager :=
            { fleet.manager with apps := fleet.manager.apps.set index app' } } := by
        unfold Mirrored at mirrored ⊢
        simp only [mirrored, List.map_set, same]
        exact (set_of_getElem? (by simp [found])).symm
      dsimp only
      split
      · exact (polled { app with bwrapExited := app.bwrapExited || exited } rfl).removeApp index
      · exact polled _ rfl

/-- Checking all children keeps the fleet with the manager, by induction on the indices. -/
theorem checkChildProcesses (mirrored : fleet.Mirrored) (exited : Nat → Bool)
    (clients : Nat → Nat) : (fleet.checkChildProcesses exited clients).Mirrored := by
  unfold Fleet.checkChildProcesses
  generalize (List.range fleet.manager.apps.length).reverse = indices
  induction indices using List.reverseRecOn with
  | nil => exact mirrored
  | append_singleton indices index inductionHypothesis =>
      rw [List.foldl_append]
      exact inductionHypothesis.checkChild _ _ _

/-- A compositor may do anything that leaves what it was given. -/
theorem setCompositor (mirrored : fleet.Mirrored) {index : Nat} {before after : DlpCompositor}
    (found : fleet.compositors[index]? = some before) (same : after.given = before.given) :
    Mirrored { fleet with compositors := fleet.compositors.set index after } := by
  unfold Mirrored at mirrored ⊢
  rw [← mirrored, List.map_set, same]
  exact set_of_getElem? (by simp [found])

end Fleet.Mirrored

end CoderDesktop.Dlp
