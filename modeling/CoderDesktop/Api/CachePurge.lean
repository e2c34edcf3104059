import CoderDesktop.Api.CacheOrigin

/-!
# What is left of a disabled cache

A disabled cache is not written to, and a settings change that disables it purges the
directory of the base URL of that moment. Directories of other deployments are left, and
starting the application with the cache disabled purges nothing, whether a saved session
starts the polling or not. `Clears` is what has to be true of the directories at these two
moments, no more and no less.
-/

namespace CoderDesktop.Api

open Semantics Settings

namespace PollingController

variable (controller : PollingController)

/-- No deployment has a cache file. -/
def NothingStored : Prop :=
  ∀ baseUrl resource, controller.cache baseUrl resource = none

/-- The only cache files are those of the current base URL, and they can be removed. -/
def OnlyRemovable (removes : Resource → Bool) : Prop :=
  ∀ baseUrl resource, controller.cache baseUrl resource ≠ none →
    baseUrl = controller.client.baseUrl ∧ removes resource = true

/-- A disabled cache has left nothing on disk. -/
def NothingLeft : Prop :=
  controller.settings.disableDataCache = true → controller.NothingStored

/-- The application is started with the cache disabled only where there are no files, and a
settings change that disables it finds only such as the purge can reach. -/
def Clears : PollingEvent → Prop
  | .settingsChanged settings removes =>
      settings.disableDataCache = true → controller.OnlyRemovable removes
  | .restart settings => settings.disableDataCache = true → controller.NothingStored
  | .start _ | .stop | .tick | .refreshNow | .setBaseUrl _ | .setSessionToken _
  | .replied _ _ _ => True

/-- A step of the application, which handles each event and each start before the next. -/
def advance (event : PollingEvent) : Option PollingController :=
  (controller.step event).map Prod.fst

end PollingController

/-! ## Files before and after -/

namespace PollingController

variable (controller : PollingController)

/-- Purging leaves nothing exactly if it reaches everything. -/
theorem nothingStored_purgeCache (removes : Resource → Bool) :
    (controller.purgeCache removes).NothingStored ↔ controller.OnlyRemovable removes := by
  constructor
  · intro nothing baseUrl resource stored
    have gone := nothing baseUrl resource
    by_cases here : baseUrl = controller.client.baseUrl
    · subst here
      simp only [purgeCache, Function.update_self] at gone
      by_cases removed : removes resource = true
      · exact ⟨rfl, removed⟩
      · rw [if_neg removed] at gone
        exact absurd gone stored
    · simp only [purgeCache, Function.update_of_ne here] at gone
      exact absurd gone stored
  · intro reached baseUrl resource
    cases stored : (controller.purgeCache removes).cache baseUrl resource with
    | none => rfl
    | some arr =>
        have before := controller.cache_purgeCache stored
        obtain ⟨rfl, removed⟩ := reached baseUrl resource (by simp [before])
        simp [purgeCache, removed] at stored

/-- The setting decides whether the cache is purged. -/
theorem settings_settingsChanged (settings : PollingSettings) (removes : Resource → Bool) :
    (controller.settingsChanged settings removes).settings = settings := by
  simp only [settingsChanged]
  split <;> rfl

/-- Disabling the cache empties it exactly when every file can be removed. -/
theorem nothingStored_settingsChanged {settings : PollingSettings} {removes : Resource → Bool}
    (disabled : settings.disableDataCache = true) :
    (controller.settingsChanged settings removes).NothingStored ↔
      controller.OnlyRemovable removes := by
  simp only [settingsChanged, disabled, if_true]
  exact nothingStored_purgeCache _ removes

/-- Starting leaves the settings alone. -/
theorem settings_start (opens : Resource → Bool) :
    (controller.start opens).settings = controller.settings := by
  unfold start loadCache
  dsimp only
  split <;> split <;> rfl

section Reply

variable (resource : Resource) (reply : Except String Json) (saves : Bool)

/-- Saving leaves the settings alone. -/
theorem settings_saveCache (arr : List Json) :
    (controller.saveCache resource arr saves).settings = controller.settings := by
  unfold saveCache
  split <;> rfl

/-- A reply leaves the settings alone. -/
theorem settings_handleReply :
    (controller.handleReply resource reply saves).1.settings = controller.settings := by
  cases reply with
  | error errorMessage => cases resource <;> rfl
  | ok doc => cases resource <;> exact settings_saveCache _ _ _ _

/-- Nothing is written to a disabled cache. -/
theorem cache_handleReply_of_disabled (disabled : controller.settings.disableDataCache = true) :
    (controller.handleReply resource reply saves).1.cache = controller.cache := by
  cases reply with
  | error errorMessage => cases resource <;> rfl
  | ok doc => simp [cache_handleReply, cache_saveCache, disabled]

end Reply

/-! ## Runs -/

section Steps

variable {controller}

/-- A step that changes neither settings nor files. -/
theorem nothingLeft_congr {after : PollingController}
    (settings : after.settings = controller.settings)
    (cache : controller.settings.disableDataCache = true → after.cache = controller.cache)
    (nothing : controller.NothingLeft) : after.NothingLeft := by
  intro disabled
  rw [settings] at disabled
  intro baseUrl resource
  rw [cache disabled]
  exact nothing disabled baseUrl resource

/-- Only a start of the application and a settings change can leave anything. -/
theorem nothingLeft_advance {event : PollingEvent} {after : PollingController}
    (nothing : controller.NothingLeft) (taken : controller.advance event = some after) :
    after.NothingLeft ↔ controller.Clears event := by
  obtain ⟨⟨after, notifications⟩, step, rfl⟩ := Option.map_eq_some_iff.mp taken
  cases event with
  | settingsChanged settings removes =>
      obtain rfl := (Prod.mk.inj (Option.some.inj step)).1
      unfold NothingLeft Clears
      rw [settings_settingsChanged]
      exact imp_congr_right fun disabled => nothingStored_settingsChanged controller disabled
  | restart settings =>
      obtain rfl := (Prod.mk.inj (Option.some.inj step)).1
      exact Iff.rfl
  | start opens =>
      obtain rfl := (Prod.mk.inj (Option.some.inj step)).1
      refine iff_of_true (nothingLeft_congr ?_ (fun _ => ?_) nothing) trivial
      · exact controller.settings_start opens
      · exact controller.cache_start opens
  | tick =>
      obtain ⟨-, step⟩ := Option.ite_none_right_eq_some.mp step
      obtain rfl := (Prod.mk.inj (Option.some.inj step)).1
      exact iff_of_true (nothingLeft_congr rfl (fun _ => rfl) nothing) trivial
  | replied index reply saves =>
      obtain ⟨request, found, handled⟩ := Option.map_eq_some_iff.mp step
      obtain rfl := congrArg Prod.fst handled
      refine iff_of_true (nothingLeft_congr ?_ (fun disabled => ?_) nothing) trivial
      · exact settings_handleReply _ _ _ _
      · exact cache_handleReply_of_disabled _ _ _ _ disabled
  | stop | refreshNow | setBaseUrl _ | setSessionToken _ =>
      obtain rfl := (Prod.mk.inj (Option.some.inj step)).1
      exact iff_of_true (nothingLeft_congr rfl (fun _ => rfl) nothing) trivial

end Steps

/-- A disabled cache leaves nothing on disk, whatever deployments came before, exactly if
the application is never started with the cache disabled on top of files, and at each
settings change that disables it there is nothing but what the purge removes. The first
start finds an empty cache. -/
theorem nothingLeft_iff (settings : PollingSettings) (events : List PollingEvent) :
    (∀ controller, Visits advance (new settings fun _ _ => none) events controller →
        controller.NothingLeft) ↔
      Conforms advance Clears (new settings fun _ _ => none) events :=
  visits_iff_conforms (fun _ => True) NothingLeft (fun _ _ _ _ _ => trivial)
    (fun _ _ _ _ nothing taken => nothingLeft_advance nothing taken) trivial
    (fun _ _ _ => rfl) events

/-- The workspaces of a first deployment are still there after the cache was disabled at a
second one. -/
theorem not_nothingLeft :
    ¬ (∀ settings events controller, Visits advance (new settings fun _ _ => none) events
        controller → controller.NothingLeft) := by
  intro always
  refine not_visits_of_replay
    (fun controller => controller.settings.disableDataCache &&
      (controller.cache "a" .workspaces).isSome) ?_ ?_
    (always ⟨true, 10, false⟩
      [.setBaseUrl "a", .start fun _ => true, .replied 0 (.ok .null) true, .setBaseUrl "b",
        .settingsChanged ⟨true, 10, true⟩ fun _ => true])
  · decide
  · intro controller left nothing
    obtain ⟨disabled, stored⟩ := (Bool.and_eq_true _ _).mp left
    rw [nothing disabled "a" .workspaces] at stored
    exact Bool.noConfusion stored

end PollingController
end CoderDesktop.Api
