import CoderDesktop.Dlp.CompositorManager
import CoderDesktop.Semantics.Run

/-!
# The policy of running applications

`DlpWorld` runs the settings next to the compositor manager. A compositor gets its
policy from the manager's cached copy, which the settings handler refreshes only
while an application runs. So the applications follow the settings exactly as long
as every launch finds the copy up to date, and the copy an empty manager starts
with never is.
-/

namespace CoderDesktop.Dlp

open Semantics Settings

/-- The settings next to the manager. -/
structure DlpWorld where
  settings : SettingsManager
  manager : DlpCompositorManager

/-- Settings change, and the manager is called. -/
inductive DlpEvent where
  | settings (event : SettingsEvent)
  | launchApp (request : LaunchRequest) (outcome : LaunchOutcome)
  | stopApp (pid : Int)
  | stopAll
  | checkChildProcesses (exited : Nat → Bool) (clients : Nat → Nat)
  | setWatermarkIdentity (identity : String)

namespace DlpWorld

/-- The application starts with any policy document and any stored preferences. -/
def startup (settings : SettingsManager) : DlpWorld := ⟨settings, .new⟩

/-- A change of the settings reaches the manager at once. -/
def next (world : DlpWorld) : DlpEvent → Option DlpWorld
  | .settings event =>
      let applied := world.settings.apply event
      some ⟨applied.1,
        if applied.2 then onSettingsChanged applied.1 world.manager else world.manager⟩
  | .launchApp request outcome =>
      some { world with manager := (world.manager.launchApp request outcome).1 }
  | .stopApp pid => some { world with manager := (world.manager.stopApp pid).1 }
  | .stopAll => some { world with manager := world.manager.stopAll.1 }
  | .checkChildProcesses exited clients =>
      some { world with manager := world.manager.checkChildProcesses exited clients }
  | .setWatermarkIdentity identity =>
      some { world with manager := world.manager.setWatermarkIdentity identity }

end DlpWorld

/-- The policy the settings ask for. -/
def policyOf (settings : SettingsManager) : CoderDlpPolicy where
  clipboardBlockOutgoing := settings.dlpClipboardBlock
  clipboardBlockIncoming := settings.dlpClipboardBlock
  screenshotBlock := true
  fileSandbox := settings.dlpFileSandbox
  networkSandbox := settings.dlpNetworkSandbox
  watermarkEnabled := settings.dlpWatermark

/-- Every application that is running has the policy the settings ask for. -/
def Governed (world : DlpWorld) : Prop :=
  ∀ app ∈ world.manager.apps, app.policy = policyOf world.settings

/-- The application is launched while the cached policy is the one asked for. -/
def LaunchesUpToDate (world : DlpWorld) : DlpEvent → Prop
  | .launchApp _ outcome =>
      outcome.succeeds → world.manager.currentPolicy = policyOf world.settings
  | .settings _ | .stopApp _ | .stopAll | .checkChildProcesses _ _ | .setWatermarkIdentity _ => True

/-- If an application is launched, it fails. -/
def LaunchesNothing (_ : DlpWorld) : DlpEvent → Prop
  | .launchApp _ outcome => outcome.succeeds = false
  | .settings _ | .stopApp _ | .stopAll | .checkChildProcesses _ _ | .setWatermarkIdentity _ => True

/-- Every compositor has the cached policy. -/
def Pushed (manager : DlpCompositorManager) : Prop :=
  ∀ app ∈ manager.apps, app.policy = manager.currentPolicy

/-- The applications after an operation that hands out no new policy. -/
def KeepsPolicies (manager after : DlpCompositorManager) : Prop :=
  after.currentPolicy = manager.currentPolicy ∧
    ∀ app ∈ after.apps, ∃ old ∈ manager.apps, app.policy = old.policy

/-! ## Operations that hand out no policy -/

namespace KeepsPolicies

/-- A manager keeps its own policies. -/
theorem refl (manager : DlpCompositorManager) : KeepsPolicies manager manager :=
  ⟨rfl, fun app member => ⟨app, member, rfl⟩⟩

/-- Policies kept twice are kept. -/
theorem trans {first second third : DlpCompositorManager}
    (left : KeepsPolicies first second) (right : KeepsPolicies second third) :
    KeepsPolicies first third := by
  refine ⟨right.1.trans left.1, fun app member => ?_⟩
  obtain ⟨middle, middleMember, same⟩ := right.2 app member
  obtain ⟨old, oldMember, same'⟩ := left.2 middle middleMember
  exact ⟨old, oldMember, same.trans same'⟩

/-- A removal keeps the policies. -/
theorem removeApp (manager : DlpCompositorManager) (index : Nat) :
    KeepsPolicies manager (manager.removeApp index) := by
  obtain ⟨sublist, same⟩ := manager.removeApp_sublist index
  exact ⟨same, fun app member => ⟨app, sublist.subset member, rfl⟩⟩

/-- Stopping an app keeps the policies. -/
theorem stopApp (manager : DlpCompositorManager) (pid : Int) :
    KeepsPolicies manager (manager.stopApp pid).1 := by
  unfold DlpCompositorManager.stopApp
  split
  · exact removeApp manager _
  · exact refl manager

/-- Stopping all apps keeps the policies. -/
theorem stopAll (manager : DlpCompositorManager) : KeepsPolicies manager manager.stopAll.1 :=
  ⟨rfl, fun _ => List.not_mem_nil.elim⟩

/-- An identity keeps the policies. -/
theorem setWatermarkIdentity (manager : DlpCompositorManager) (identity : String) :
    KeepsPolicies manager (manager.setWatermarkIdentity identity) := by
  refine ⟨rfl, fun app member => ?_⟩
  obtain ⟨old, oldMember, rfl⟩ := List.mem_map.mp member
  exact ⟨old, oldMember, rfl⟩

/-- Checking one child keeps the policies. -/
theorem checkChild (manager : DlpCompositorManager) (index : Nat) (exited : Bool)
    (clients : Nat) : KeepsPolicies manager (manager.checkChild index exited clients) := by
  unfold DlpCompositorManager.checkChild
  split
  · exact refl manager
  · rename_i app found
    have polled : KeepsPolicies manager
        { manager with
          apps :=
            manager.apps.set index { app with bwrapExited := app.bwrapExited || exited } } := by
      refine ⟨rfl, fun other member => ?_⟩
      rcases List.mem_or_eq_of_mem_set member with old | rfl
      · exact ⟨other, old, rfl⟩
      · exact ⟨app, List.mem_of_getElem? found, rfl⟩
    dsimp only
    split
    · exact polled.trans (removeApp _ index)
    · exact polled

/-- Checking all children keeps the policies. -/
theorem checkChildProcesses (manager : DlpCompositorManager) (exited : Nat → Bool)
    (clients : Nat → Nat) : KeepsPolicies manager (manager.checkChildProcesses exited clients) := by
  unfold DlpCompositorManager.checkChildProcesses
  generalize (List.range manager.apps.length).reverse = indices
  induction indices using List.reverseRecOn with
  | nil => exact refl manager
  | append_singleton indices index inductionHypothesis =>
      rw [List.foldl_append]
      exact inductionHypothesis.trans (checkChild _ _ _ _)

/-- What keeps the policies keeps them pushed. -/
theorem pushed {manager after : DlpCompositorManager} (keeps : KeepsPolicies manager after)
    (pushed : Pushed manager) : Pushed after := by
  intro app member
  obtain ⟨old, oldMember, same⟩ := keeps.2 app member
  rw [same, pushed old oldMember, keeps.1]

/-- What keeps the policies keeps them governed. -/
theorem governed {manager after : DlpCompositorManager} {settings : SettingsManager}
    (keeps : KeepsPolicies manager after) (governed : Governed ⟨settings, manager⟩) :
    Governed ⟨settings, after⟩ := by
  intro app member
  obtain ⟨old, oldMember, same⟩ := keeps.2 app member
  exact same.trans (governed old oldMember)

end KeepsPolicies

/-! ## Steps -/

/-- Changed settings reach every app. -/
theorem onSettingsChanged_apps (settings : SettingsManager) (manager : DlpCompositorManager) :
    (∀ app ∈ (onSettingsChanged settings manager).apps, app.policy = policyOf settings) ∧
      (Pushed manager → Pushed (onSettingsChanged settings manager)) := by
  unfold onSettingsChanged
  by_cases running : manager.isRunning = true
  · rw [if_pos running]
    refine ⟨fun app member => ?_, fun _ app member => ?_⟩
    · obtain ⟨old, -, rfl⟩ := List.mem_map.mp member
      rfl
    · obtain ⟨old, -, rfl⟩ := List.mem_map.mp member
      rfl
  · have empty : manager.apps = [] := by
      simpa [DlpCompositorManager.isRunning] using running
    rw [if_neg running, empty]
    exact ⟨fun _ => List.not_mem_nil.elim, id⟩

/-- A launch starts with the current policy. -/
theorem launchApp_pushed {manager : DlpCompositorManager} (pushed : Pushed manager)
    (request : LaunchRequest) (outcome : LaunchOutcome) :
    Pushed (manager.launchApp request outcome).1 := by
  cases succeeds : outcome.succeeds with
  | false => rwa [DlpCompositorManager.launchApp_of_failed succeeds]
  | true =>
      obtain ⟨app, apps, same, fresh⟩ :=
        DlpCompositorManager.launchApp_of_succeeds request succeeds
      intro other member
      rw [apps, List.mem_append, List.mem_singleton] at member
      rw [same]
      rcases member with old | rfl
      · exact pushed other old
      · exact fresh

/-- Policies are handed out by a change of the settings and by a launch. -/
theorem DlpWorld.next_cases {world after : DlpWorld} {event : DlpEvent}
    (taken : world.next event = some after) :
    (∃ change, event = .settings change) ∨
      (∃ request outcome, event = .launchApp request outcome) ∨
        ∃ manager, after = ⟨world.settings, manager⟩ ∧ KeepsPolicies world.manager manager ∧
          LaunchesUpToDate world event := by
  cases event with
  | settings change => exact .inl ⟨change, rfl⟩
  | launchApp request outcome => exact .inr (.inl ⟨request, outcome, rfl⟩)
  | stopApp pid =>
      obtain rfl := Option.some.inj taken
      exact .inr (.inr ⟨_, rfl, .stopApp _ pid, trivial⟩)
  | stopAll =>
      obtain rfl := Option.some.inj taken
      exact .inr (.inr ⟨_, rfl, .stopAll _, trivial⟩)
  | checkChildProcesses exited clients =>
      obtain rfl := Option.some.inj taken
      exact .inr (.inr ⟨_, rfl, .checkChildProcesses _ exited clients, trivial⟩)
  | setWatermarkIdentity identity =>
      obtain rfl := Option.some.inj taken
      exact .inr (.inr ⟨_, rfl, .setWatermarkIdentity _ identity, trivial⟩)

/-- Every step keeps the policies pushed. -/
theorem Pushed.step {world after : DlpWorld} {event : DlpEvent} (pushed : Pushed world.manager)
    (taken : world.next event = some after) : Pushed after.manager := by
  rcases DlpWorld.next_cases taken with
    ⟨change, rfl⟩ | ⟨request, outcome, rfl⟩ | ⟨manager, rfl, keeps, -⟩
  · obtain rfl := Option.some.inj taken
    cases changed : (world.settings.apply change).2 with
    | true => simpa [changed] using (onSettingsChanged_apps _ world.manager).2 pushed
    | false => simpa [changed] using pushed
  · obtain rfl := Option.some.inj taken
    exact launchApp_pushed pushed request outcome
  · exact keeps.pushed pushed

/-- A launch keeps the applications governed exactly when the cached policy is up to
date. -/
theorem launchApp_governed_iff {settings : SettingsManager} {manager : DlpCompositorManager}
    (governed : Governed ⟨settings, manager⟩) (request : LaunchRequest) (outcome : LaunchOutcome) :
    Governed ⟨settings, (manager.launchApp request outcome).1⟩ ↔
      (outcome.succeeds = true → manager.currentPolicy = policyOf settings) := by
  cases succeeds : outcome.succeeds with
  | false =>
      rw [DlpCompositorManager.launchApp_of_failed succeeds]
      exact ⟨fun _ => nofun, fun _ => governed⟩
  | true =>
      obtain ⟨app, apps, -, fresh⟩ :=
        DlpCompositorManager.launchApp_of_succeeds request succeeds
      constructor
      · intro next _
        rw [← fresh]
        exact next app (by simp [apps])
      · intro upToDate other member
        simp only [apps, List.mem_append, List.mem_singleton] at member
        rcases member with old | rfl
        · exact governed other old
        · exact fresh.trans (upToDate rfl)

/-- A step keeps the apps governed exactly when launches are up to date. -/
theorem governed_step_iff {world after : DlpWorld} {event : DlpEvent}
    (governed : Governed world) (taken : world.next event = some after) :
    Governed after ↔ LaunchesUpToDate world event := by
  rcases DlpWorld.next_cases taken with
    ⟨change, rfl⟩ | ⟨request, outcome, rfl⟩ | ⟨manager, rfl, keeps, upToDate⟩
  · obtain rfl := Option.some.inj taken
    refine iff_of_true ?_ trivial
    cases changed : (world.settings.apply change).2 with
    | true => simpa [Governed, changed] using (onSettingsChanged_apps _ world.manager).1
    | false =>
        simpa [Governed, changed, SettingsManager.apply_of_silent changed] using governed
  · obtain rfl := Option.some.inj taken
    exact launchApp_governed_iff governed request outcome
  · exact iff_of_true (keeps.governed governed) upToDate

/-! ## The copy of an empty manager -/

/-- Nothing runs and no policy was ever cached. -/
structure Unused (manager : DlpCompositorManager) : Prop where
  apps : manager.apps = []
  policy : manager.currentPolicy = DlpCompositorManager.new.currentPolicy

/-- A new manager was not used. -/
theorem Unused.new : Unused .new := ⟨rfl, rfl⟩

/-- The initial copy never is up to date: it does not block screenshots. -/
theorem Unused.outdated {manager : DlpCompositorManager} (unused : Unused manager)
    (settings : SettingsManager) : manager.currentPolicy ≠ policyOf settings := by
  intro same
  have screenshots := congrArg CoderDlpPolicy.screenshotBlock (unused.policy.symm.trans same)
  cases screenshots

/-- What keeps the policies does not use it. -/
theorem Unused.of_keeps {manager after : DlpCompositorManager} (unused : Unused manager)
    (keeps : KeepsPolicies manager after) : Unused after := by
  refine ⟨List.eq_nil_iff_forall_not_mem.mpr fun app member => ?_, keeps.1.trans unused.policy⟩
  obtain ⟨old, oldMember, -⟩ := keeps.2 app member
  rw [unused.apps] at oldMember
  cases oldMember

/-- A step that launches nothing does not use it. -/
theorem Unused.step {world after : DlpWorld} {event : DlpEvent} (unused : Unused world.manager)
    (launchesNothing : LaunchesNothing world event) (taken : world.next event = some after) :
    Unused after.manager := by
  rcases DlpWorld.next_cases taken with
    ⟨change, rfl⟩ | ⟨request, outcome, rfl⟩ | ⟨manager, rfl, keeps, -⟩
  · obtain rfl := Option.some.inj taken
    have idle : onSettingsChanged (world.settings.apply change).1 world.manager =
        world.manager := by
      simp [onSettingsChanged, DlpCompositorManager.isRunning, unused.apps]
    simpa [idle] using unused
  · obtain rfl := Option.some.inj taken
    simpa [DlpCompositorManager.launchApp_of_failed launchesNothing] using unused
  · exact unused.of_keeps keeps

/-- From an unused manager on, only runs that launch nothing launch up to date. -/
theorem launchesUpToDate_iff_nothing {world : DlpWorld} (unused : Unused world.manager)
    (events : List DlpEvent) :
    Conforms DlpWorld.next LaunchesUpToDate world events ↔
      Conforms DlpWorld.next LaunchesNothing world events := by
  induction events generalizing world with
  | nil => exact Iff.rfl
  | cons event events inductionHypothesis =>
      have same : LaunchesUpToDate world event ↔ LaunchesNothing world event := by
        cases event with
        | launchApp request outcome =>
            simp [LaunchesUpToDate, LaunchesNothing, unused.outdated]
        | _ => exact Iff.rfl
      refine forall₂_congr fun after taken => ?_
      rw [same]
      exact and_congr_right fun nothing =>
        inductionHypothesis (unused.step nothing (Option.mem_def.mp taken))

/-! ## Results -/

/-- All running applications follow the settings throughout a run exactly when every
launch finds the cached policy up to date; as the application starts, this means
that nothing is launched. -/
theorem governed_iff_launchesUpToDate (settings : SettingsManager) (events : List DlpEvent) :
    ((∀ world, Visits DlpWorld.next (.startup settings) events world → Governed world) ↔
        Conforms DlpWorld.next LaunchesUpToDate (.startup settings) events) ∧
      (Conforms DlpWorld.next LaunchesUpToDate (.startup settings) events ↔
        Conforms DlpWorld.next LaunchesNothing (.startup settings) events) := by
  constructor
  · refine visits_iff_conforms (fun world => Pushed world.manager) Governed ?_ ?_ ?_ ?_ events
    · exact fun world event after pushed taken => pushed.step taken
    · exact fun world event after _ governed taken => governed_step_iff governed taken
    · exact fun _ => List.not_mem_nil.elim
    · exact fun _ => List.not_mem_nil.elim
  · exact launchesUpToDate_iff_nothing .new events

/-- An administrator forces the watermark. -/
def watermarkPolicy : SettingsManager where
  mdm := .parse (some (.object [("version", .number 1),
    ("settings", .object [("dlpWatermark",
      .object [("value", .bool true), ("locked", .bool true)])])]))
  userSettings _ := none

/-- A launch without isolation of files and network. -/
def launchFirefox : LaunchRequest where
  command := "firefox"
  appName := ""
  workspacePath := ""
  isolatePid := true
  isolateIpc := true
  isolateNetwork := false
  isolateFilesystem := false
  bindHomeRw := false
  extraBindPaths := []
  filterDbus := false

/-- The first application is launched without the watermark the policy forces. -/
theorem firstLaunch_ungoverned :
    ¬ ∀ world, Visits DlpWorld.next (.startup watermarkPolicy)
        [.launchApp launchFirefox ⟨true, true, 4711⟩] world → Governed world := by
  refine not_visits_of_replay (fun world =>
    world.manager.apps.any fun app =>
      app.policy.watermarkEnabled ≠ world.settings.dlpWatermark) (by decide) ?_
  intro world unmarked governed
  obtain ⟨app, member, differs⟩ := List.any_eq_true.mp unmarked
  simp [governed app member, policyOf] at differs

end CoderDesktop.Dlp
