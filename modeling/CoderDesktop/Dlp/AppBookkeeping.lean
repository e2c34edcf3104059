import CoderDesktop.Dlp.RunningApps
import CoderDesktop.Semantics.Handles

/-!
# The bookkeeping of running applications

The rows of the model follow the applications through removals by index and by pid, and
the compositors are owned by the entries: created by a launch, destroyed by whatever
removes the entry, or by the launch itself if it fails.
-/

namespace CoderDesktop.Dlp

open Semantics

/-- The row of an application. -/
def RunningApp.entry (app : RunningApp) : RunningAppEntry := ⟨app.pid, app.appName, app.command⟩

/-- The manager's public calls, its timer, and the dispatching of its compositors. -/
inductive AppEvent where
  | launchApp (request : LaunchRequest) (outcome : LaunchOutcome)
  | stopApp (pid : Int)
  | stopAll
  | checkChildProcesses (exited : Nat → Bool) (clients : Nat → Nat)
  | dispatch (index : Nat)
  | updatePolicy (clipboardBlockOutgoing clipboardBlockIncoming screenshotBlock fileSandbox
      networkSandbox watermarkEnabled : Bool)
  | setWatermarkIdentity (identity : String)

/-- What an event does to the manager, compositors and signals aside. -/
def AppEvent.apply (manager : DlpCompositorManager) : AppEvent → DlpCompositorManager
  | .launchApp request outcome => (manager.launchApp request outcome).1
  | .stopApp pid => (manager.stopApp pid).1
  | .stopAll => manager.stopAll.1
  | .checkChildProcesses exited clients => manager.checkChildProcesses exited clients
  | .dispatch _ => manager
  | .updatePolicy clipboardBlockOutgoing clipboardBlockIncoming screenshotBlock fileSandbox
      networkSandbox watermarkEnabled =>
      manager.updatePolicy clipboardBlockOutgoing clipboardBlockIncoming screenshotBlock
        fileSandbox networkSandbox watermarkEnabled
  | .setWatermarkIdentity identity => manager.setWatermarkIdentity identity

namespace AppSession

variable (session : AppSession)

/-- The kernel hands out no pid that is still listed. -/
def next : AppEvent → Option AppSession
  | .launchApp request outcome =>
      if outcome.succeeds = true → outcome.pid ∉ session.apps.map (·.app.pid) then
        some (session.launchApp request outcome).1
      else none
  | .stopApp pid => some (session.stopApp pid).1
  | .stopAll => some session.stopAll.1
  | .checkChildProcesses exited clients => some (session.checkChildProcesses exited clients)
  | .dispatch index => some (session.dispatch index)
  | .updatePolicy clipboardBlockOutgoing clipboardBlockIncoming screenshotBlock fileSandbox
      networkSandbox watermarkEnabled =>
      some (session.updatePolicy clipboardBlockOutgoing clipboardBlockIncoming screenshotBlock
        fileSandbox networkSandbox watermarkEnabled)
  | .setWatermarkIdentity identity => some (session.setWatermarkIdentity identity)

/-- The compositors the entries point to. -/
def held : List Nat := session.apps.filterMap ManagedApp.compositor

/-- The compositors destroyed so far, in order. -/
def destroyed : List Nat :=
  releasedIn CompositorCall.compositor CompositorCall.destroys session.calls

/-- What holds after each call. -/
structure InLockstep (session : AppSession) : Prop where
  rows : session.runningAppModel = session.apps.map fun app => app.app.entry
  owned : ∀ app ∈ session.apps, ∃ compositor, app.compositor = some compositor ∧
    session.destroyed.count compositor = 0
  destroyedOnce : ∀ compositor < session.created,
    (∀ app ∈ session.apps, app.compositor ≠ some compositor) →
      session.destroyed.count compositor = 1
  used : UsedWhileOwned CompositorCall.compositor CompositorCall.destroys session.calls

/-- The signals of a call tell a change between running and not running, and no other. -/
def TellsRunning (session after : AppSession) : Prop :=
  ∃ signals, after.emitted = session.emitted ++ signals ∧
    signals.count .runningChanged =
      if session.apps = [] ↔ after.apps = [] then 0 else 1

/-- The invariant behind it. -/
structure Kept (session : AppSession) : Prop where
  rows : session.runningAppModel = session.apps.map fun app => app.app.entry
  distinct : (session.apps.map (·.app.pid)).Nodup
  pointed : ∀ app ∈ session.apps, app.compositor.isSome = true
  owned : Owned CompositorCall.compositor CompositorCall.destroys session.created session.held
    session.calls

/-- What an operation that only removes applications does: it signals the change when the
last one goes. -/
structure Shrinks (session after : AppSession) : Prop where
  kept : after.Kept
  emitted : ∃ signals, after.emitted = session.emitted ++ signals ∧
    signals.count .runningChanged + (if after.apps = [] then 0 else 1) =
      if session.apps = [] then 0 else 1

variable {session} {after : AppSession}

/-! ## The manager without its compositors -/

/-- Dispatching an app leaves the manager alone. -/
theorem manager_dispatch (index : Nat) : (session.dispatch index).manager = session.manager := by
  unfold dispatch
  cases session.apps[index]? with
  | none => rfl
  | some app => rfl

/-- A step does to the manager what its event says. -/
theorem manager_next {event : AppEvent} (taken : session.next event = some after) :
    after.manager = event.apply session.manager := by
  cases event with
  | launchApp request outcome =>
      simp only [next] at taken
      split at taken
      · obtain rfl := Option.some.inj taken
        exact congrArg Prod.fst (manager_launchApp request outcome)
      · cases taken
  | stopApp pid =>
      obtain rfl := Option.some.inj taken
      exact congrArg Prod.fst (manager_stopApp pid)
  | stopAll =>
      obtain rfl := Option.some.inj taken
      exact congrArg Prod.fst manager_stopAll
  | checkChildProcesses exited clients =>
      obtain rfl := Option.some.inj taken
      exact manager_checkChildProcesses exited clients
  | dispatch index =>
      obtain rfl := Option.some.inj taken
      exact manager_dispatch index
  | updatePolicy =>
      obtain rfl := Option.some.inj taken
      exact manager_updatePolicy ..
  | setWatermarkIdentity identity =>
      obtain rfl := Option.some.inj taken
      exact manager_setWatermarkIdentity identity

/-- Without compositors and signals, a run is what the manager does. -/
theorem manager_of_runs {events : List AppEvent} (run : Runs next new events session) :
    session.manager = events.foldl AppEvent.apply .new := by
  induction run with
  | refl => rfl
  | step prior taken inductionHypothesis =>
      rw [List.foldl_append, manager_next taken, inductionHypothesis]
      rfl

/-! ## Calls -/

/-- Calls on compositors that are held keep the books. -/
theorem Kept.calls_uses (kept : session.Kept) {calls : List CompositorCall}
    (keeps : ∀ call ∈ calls, call.destroys = false)
    (holds : ∀ call ∈ calls, call.compositor ∈ session.held) :
    Kept { session with calls := session.calls ++ calls } :=
  ⟨kept.rows, kept.distinct, kept.pointed, kept.owned.useAll keeps holds⟩

/-- A call for each entry is a call on each compositor held. -/
theorem compositors_callAll (function : CompositorFunction) (apps : List ManagedApp) :
    (apps.flatMap fun app => app.compositor.toList.map
        (CompositorCall.mk function)).map CompositorCall.compositor =
      apps.filterMap ManagedApp.compositor := by
  rw [List.map_flatMap, List.filterMap_eq_flatMap_toList]
  simp [Function.comp_def]

/-- A call on every compositor that is held keeps the books. -/
theorem Kept.callAll (kept : session.Kept) {function : CompositorFunction}
    (keeps : function ≠ .destroy) : (session.callAll function).Kept := by
  refine kept.calls_uses ?_ fun call member => ?_
  · intro call member
    obtain ⟨app, -, called⟩ := List.mem_flatMap.mp member
    obtain ⟨compositor, -, rfl⟩ := List.mem_map.mp called
    exact decide_eq_false keeps
  · rw [held, ← compositors_callAll function]
    exact List.mem_map_of_mem member

/-- A call on the compositor of one app keeps the books. -/
theorem Kept.callOf (kept : session.Kept) {function : CompositorFunction}
    (keeps : function ≠ .destroy) {app : ManagedApp}
    (holds : ∀ compositor ∈ app.compositor, compositor ∈ session.held) :
    (session.callOf function app).Kept := by
  refine kept.calls_uses (fun call member => ?_) fun call member => ?_ <;>
    obtain ⟨compositor, points, rfl⟩ := List.mem_map.mp member
  · exact decide_eq_false keeps
  · exact holds compositor (Option.mem_toList.mp points)

/-- What an entry counts for in the books. -/
def books (app : ManagedApp) : RunningAppEntry × Option Nat := (app.app.entry, app.compositor)

/-- What is held follows from the books. -/
theorem held_of_books (same : after.apps.map books = session.apps.map books) :
    after.held = session.held := by
  have unwrapped := congrArg (List.filterMap Prod.snd) same
  rw [List.filterMap_map, List.filterMap_map] at unwrapped
  exact unwrapped

/-- An app replaced by one with the same books changes nothing. -/
theorem books_set {apps : List ManagedApp} {index : Nat} (inside : index < apps.length)
    {app : ManagedApp} (same : books app = books apps[index]) :
    (apps.set index app).map books = apps.map books := by
  have listed : index < (apps.map books).length := by rwa [List.length_map]
  have unchanged : (apps.map books)[index] = books app := (List.getElem_map books).trans same.symm
  rw [List.map_set, ← unchanged, List.set_getElem_self]

/-- A change to the entries that leaves the books alone. -/
theorem Kept.restate (kept : session.Kept)
    (same : after.apps.map books = session.apps.map books)
    (rows : after.runningAppModel = session.runningAppModel) (calls : after.calls = session.calls)
    (created : after.created = session.created) : after.Kept := by
  have entries := congrArg (List.map Prod.fst) same
  have compositors := congrArg (List.map Prod.snd) same
  rw [List.map_map, List.map_map] at entries compositors
  refine ⟨?_, ?_, ?_, ?_⟩
  · rw [rows, kept.rows]
    exact entries.symm
  · have pids := congrArg (List.map RunningAppEntry.pid) entries
    rw [List.map_map, List.map_map] at pids
    exact (pids ▸ kept.distinct :)
  · intro app member
    have known : app.compositor ∈ session.apps.map (Prod.snd ∘ books) :=
      compositors ▸ List.mem_map_of_mem member
    obtain ⟨other, listed, points⟩ := List.mem_map.mp known
    exact points ▸ kept.pointed other listed
  · rw [created, held_of_books same, calls]
    exact kept.owned

/-- Nothing was removed. -/
theorem Shrinks.refl (kept : session.Kept) : session.Shrinks session :=
  ⟨kept, [], (List.append_nil _).symm, by simp⟩

/-- What shrinks twice shrinks. -/
theorem Shrinks.trans {middle : AppSession} (first : session.Shrinks middle)
    (second : middle.Shrinks after) : session.Shrinks after := by
  obtain ⟨signals, emitted, count⟩ := first.emitted
  obtain ⟨more, reemitted, recount⟩ := second.emitted
  refine ⟨second.kept, signals ++ more, ?_, ?_⟩
  · rw [reemitted, emitted, List.append_assoc]
  · rw [List.count_append]
    omega

/-- A session with the same applications, up to what does not concern the books. -/
theorem Shrinks.of_same (kept : after.Kept) (emitted : after.emitted = session.emitted)
    (apps : after.apps = [] ↔ session.apps = []) : session.Shrinks after := by
  refine ⟨kept, [], by rw [emitted, List.append_nil], ?_⟩
  simp [apps]

/-! ## Removal -/

/-- The row of an entry is the first with its pid. -/
theorem removeRow_entries {earlier later : List ManagedApp} {app : ManagedApp}
    (distinct : ((earlier ++ app :: later).map (·.app.pid)).Nodup) :
    removeRow ((earlier ++ app :: later).map fun app => app.app.entry) app.app.pid =
      (earlier ++ later).map fun app => app.app.entry := by
  unfold removeRow
  rw [List.map_append, List.map_cons, List.eraseP_append_right, List.eraseP_cons_of_pos,
    List.map_append]
  · simp [RunningApp.entry]
  · intro row member
    obtain ⟨other, known, rfl⟩ := List.mem_map.mp member
    rw [List.map_append, List.map_cons] at distinct
    have apart := (List.nodup_append.mp distinct).2.2 other.app.pid
      (List.mem_map_of_mem (f := fun app : ManagedApp => app.app.pid) known) app.app.pid
      List.mem_cons_self
    exact fun same => apart (of_decide_eq_true same)

/-- Removing one app with its row and its compositor keeps the books. -/
theorem Kept.shrinks_remove (kept : session.Kept) {earlier later : List ManagedApp}
    {app : ManagedApp} (split : session.apps = earlier ++ app :: later)
    (apps : after.apps = earlier ++ later)
    (rows : after.runningAppModel = removeRow session.runningAppModel app.app.pid)
    (calls : after.calls = session.calls ++ app.compositor.toList.map (⟨.destroy, ·⟩))
    (created : after.created = session.created) : after.Kept := by
  have distinct := kept.distinct
  rw [split] at distinct
  obtain ⟨compositor, points⟩ := Option.isSome_iff_exists.mp
    (kept.pointed app (by simp [split]))
  have owned := kept.owned
  rw [held, split, List.filterMap_append, List.filterMap_cons_some points] at owned
  refine ⟨?_, ?_, ?_, ?_⟩
  · rw [rows, kept.rows, apps, split, removeRow_entries distinct]
  · rw [apps]
    refine distinct.sublist (List.Sublist.map _ ?_)
    exact (List.sublist_cons_self app later).append_left earlier
  · intro other member
    rw [apps] at member
    refine kept.pointed other ?_
    rw [split]
    exact ((List.sublist_cons_self app later).append_left earlier).subset member
  · rw [created, held, apps, calls, points, List.filterMap_append]
    exact owned.release rfl

/-- `removeApp` only removes an app, with its row and its compositor. -/
theorem shrinks_removeApp (kept : session.Kept) (index : Nat) :
    session.Shrinks (session.removeApp index) := by
  unfold removeApp
  cases found : session.apps[index]? with
  | none => exact .refl kept
  | some app =>
      obtain ⟨inside, rfl⟩ := List.getElem?_eq_some_iff.mp found
      have split : session.apps = session.apps.take index ++
          session.apps[index] :: session.apps.drop (index + 1) := by
        simp
      have some : session.apps ≠ [] := List.ne_nil_of_length_pos (by omega)
      have erased := List.eraseIdx_eq_take_drop_succ session.apps index
      dsimp only
      split
      · rename_i last
        refine ⟨kept.shrinks_remove split erased rfl rfl rfl,
          [.appCountChanged, .runningChanged], List.append_assoc _ _ _, ?_⟩
        simp only [emit_apps] at last
        simp [last, some]
      · rename_i more
        refine ⟨kept.shrinks_remove split erased rfl rfl rfl, [.appCountChanged], rfl, ?_⟩
        simp only [emit_apps] at more
        simp [more, some]

/-- `stopApp` removes one app at most. -/
theorem shrinks_stopApp (kept : session.Kept) (pid : Int) :
    session.Shrinks (session.stopApp pid).1 := by
  unfold stopApp
  cases session.apps.findIdx? fun app => app.app.pid = pid with
  | none => exact .refl kept
  | some index => exact shrinks_removeApp kept index

/-- Without apps and rows the books are kept if every compositor was destroyed. -/
theorem kept_cleared (apps : after.apps = []) (rows : after.runningAppModel = [])
    (owned : Owned CompositorCall.compositor CompositorCall.destroys after.created []
      after.calls) : after.Kept := by
  refine ⟨?_, ?_, ?_, ?_⟩
  · rw [rows, apps]
    rfl
  · rw [apps]
    exact List.nodup_nil
  · rw [apps]
    intro app member
    cases member
  · rwa [held, apps]

/-- `stopAll` removes all apps. -/
theorem shrinks_stopAll (kept : session.Kept) : session.Shrinks session.stopAll.1 := by
  have owned : Owned CompositorCall.compositor CompositorCall.destroys session.created []
      (session.callAll .destroy).calls := by
    refine Owned.releaseAll ?_ fun call member => ?_
    · rw [compositors_callAll, List.append_nil]
      exact kept.owned
    · obtain ⟨app, -, called⟩ := List.mem_flatMap.mp member
      obtain ⟨compositor, -, rfl⟩ := List.mem_map.mp called
      rfl
  unfold stopAll
  dsimp only
  split
  · rename_i some
    refine ⟨kept_cleared rfl rfl owned, [.appCountChanged, .runningChanged],
      List.append_assoc _ _ _, ?_⟩
    simp [some]
  · rename_i none
    refine ⟨kept_cleared rfl rfl owned, [], (List.append_nil _).symm, ?_⟩
    simpa using none

/-! ## Children -/

/-- A call on a compositor removes nothing. -/
theorem shrinks_callOf (kept : session.Kept) {function : CompositorFunction}
    (keeps : function ≠ .destroy) {app : ManagedApp}
    (holds : ∀ compositor ∈ app.compositor, compositor ∈ session.held) :
    session.Shrinks (session.callOf function app) :=
  .of_same (kept.callOf keeps holds) rfl Iff.rfl

/-- An entry is polled, and its clients may be counted. -/
theorem shrinks_polled (kept : session.Kept) {index : Nat} (inside : index < session.apps.length)
    (app : ManagedApp) (same : books app = books session.apps[index]) :
    session.Shrinks { session with apps := session.apps.set index app } ∧
      session.Shrinks (callOf { session with apps := session.apps.set index app } .getClientCount
        session.apps[index]) := by
  have unchanged := books_set inside same
  have polled : session.Shrinks { session with apps := session.apps.set index app } :=
    .of_same (kept.restate unchanged rfl rfl rfl) rfl (List.set_eq_nil_iff _ _)
  refine ⟨polled, polled.trans (shrinks_callOf polled.kept (by decide) fun compositor points => ?_)⟩
  rw [held_of_books unchanged]
  exact List.mem_filterMap.mpr ⟨_, List.getElem_mem inside, points⟩

/-- Checking a child removes its app at most. -/
theorem shrinks_checkChild (kept : session.Kept) (index : Nat) (exited : Bool) (clients : Nat) :
    session.Shrinks (session.checkChild index exited clients) := by
  unfold checkChild
  cases found : session.apps[index]? with
  | none => exact .refl kept
  | some app =>
      obtain ⟨inside, rfl⟩ := List.getElem?_eq_some_iff.mp found
      obtain ⟨polled, counted⟩ := shrinks_polled kept inside
        { session.apps[index] with
          app := { session.apps[index].app with
            bwrapExited := session.apps[index].app.bwrapExited || exited } } rfl
      dsimp only
      split
      · split
        · exact counted.trans (shrinks_removeApp counted.kept index)
        · exact counted
      · exact polled

/-- Checking several children only removes apps, by induction on their indices. -/
theorem shrinks_checkFrom (exited : Nat → Bool) (clients : Nat → Nat) (indices : List Nat) :
    ∀ {session : AppSession}, session.Kept →
      session.Shrinks (indices.foldl (fun current index =>
        current.checkChild index (exited index) (clients index)) session) := by
  induction indices with
  | nil => exact fun kept => .refl kept
  | cons index rest inductionHypothesis =>
      intro session kept
      have checked := shrinks_checkChild kept index (exited index) (clients index)
      exact checked.trans (inductionHypothesis checked.kept)

/-! ## Calls from the event loop and on every entry -/

/-- Dispatching removes nothing. -/
theorem shrinks_dispatch (kept : session.Kept) (index : Nat) :
    session.Shrinks (session.dispatch index) := by
  unfold dispatch
  cases found : session.apps[index]? with
  | none => exact .refl kept
  | some app =>
      refine shrinks_callOf kept (by decide) fun compositor points => ?_
      exact List.mem_filterMap.mpr ⟨app, List.mem_of_getElem? found, points⟩

/-- Restating all apps removes nothing. -/
theorem shrinks_restateAll (kept : session.Kept) {function : CompositorFunction}
    (keeps : function ≠ .destroy) {change : ManagedApp → ManagedApp}
    (apps : after.apps = session.apps.map change)
    (same : ∀ app, books (change app) = books app)
    (rows : after.runningAppModel = session.runningAppModel)
    (calls : after.calls = (session.callAll function).calls)
    (created : after.created = session.created) (emitted : after.emitted = session.emitted) :
    session.Shrinks after := by
  refine .of_same ((kept.callAll keeps).restate ?_ rows calls created) emitted ?_
  · rw [apps, List.map_map]
    exact List.map_congr_left fun app _ => same app
  · rw [apps]
    exact List.map_eq_nil_iff

/-- A policy restates all apps. -/
theorem shrinks_updatePolicy (kept : session.Kept) (clipboardBlockOutgoing clipboardBlockIncoming
    screenshotBlock fileSandbox networkSandbox watermarkEnabled : Bool) :
    session.Shrinks (session.updatePolicy clipboardBlockOutgoing clipboardBlockIncoming
      screenshotBlock fileSandbox networkSandbox watermarkEnabled) :=
  shrinks_restateAll kept (by decide : CompositorFunction.setPolicy ≠ .destroy) rfl
    (fun _ => rfl) rfl rfl rfl rfl

/-- An identity restates all apps. -/
theorem shrinks_setWatermarkIdentity (kept : session.Kept) (identity : String) :
    session.Shrinks (session.setWatermarkIdentity identity) :=
  shrinks_restateAll kept (by decide : CompositorFunction.setWatermarkIdentity ≠ .destroy) rfl
    (fun _ => rfl) rfl rfl rfl rfl

/-! ## Launching -/

/-- Setting up does not destroy. -/
theorem setupFunctions_keep {function : CompositorFunction}
    (member : function ∈ session.setupFunctions) : function ≠ .destroy := by
  rintro rfl
  unfold setupFunctions at member
  split at member <;> simp at member

/-- A compositor that is opened is held. -/
theorem owned_openCompositor (kept : session.Kept) :
    Owned CompositorCall.compositor CompositorCall.destroys session.openCompositor.created
      (session.held ++ [session.created]) session.openCompositor.calls := by
  refine kept.owned.create.useAll ?_ ?_ <;> intro call member <;>
    obtain ⟨function, setup, rfl⟩ := List.mem_map.mp member
  · exact decide_eq_false (setupFunctions_keep setup)
  · simp

/-- A launch that fails leaves nothing behind but a destroyed compositor. -/
theorem kept_launch_failed (kept : session.Kept) (apps : after.apps = session.apps)
    (rows : after.runningAppModel = session.runningAppModel)
    (calls : after.calls = session.openCompositor.calls ++ [⟨.destroy, session.created⟩])
    (created : after.created = session.created + 1) : after.Kept := by
  have owned : Owned CompositorCall.compositor CompositorCall.destroys
      session.openCompositor.created (session.held ++ []) after.calls :=
    calls ▸ Owned.release (owned_openCompositor kept) rfl
  rw [List.append_nil] at owned
  refine ⟨?_, ?_, ?_, ?_⟩
  · rw [rows, apps, kept.rows]
  · exact apps ▸ kept.distinct
  · exact apps ▸ kept.pointed
  · rw [created, held, apps]
    exact owned

/-- An app that is stored with a new pid and its compositor keeps the books. -/
theorem kept_launch_stored (kept : session.Kept) {app : ManagedApp}
    (fresh : app.app.pid ∉ session.apps.map (·.app.pid))
    (points : app.compositor = some session.created)
    (apps : after.apps = session.apps ++ [app])
    (rows : after.runningAppModel = session.runningAppModel ++ [app.app.entry])
    (calls : after.calls = session.openCompositor.calls)
    (created : after.created = session.created + 1) : after.Kept := by
  refine ⟨?_, ?_, ?_, ?_⟩
  · rw [rows, apps, kept.rows, List.map_append]
    rfl
  · rw [apps, List.map_append]
    exact List.concat_eq_append ▸ kept.distinct.concat fresh
  · rw [apps]
    intro other member
    rcases List.mem_append.mp member with known | new
    · exact kept.pointed other known
    · rw [List.mem_singleton.mp new, points]
      rfl
  · have held : after.held = session.held ++ [session.created] := by
      simp [AppSession.held, apps, points]
    rw [created, held, calls]
    exact owned_openCompositor kept

/-- `launchApp` keeps the books if the pid is new. -/
theorem kept_launchApp (kept : session.Kept) {request : LaunchRequest} {outcome : LaunchOutcome}
    (fresh : outcome.succeeds = true → outcome.pid ∉ session.apps.map (·.app.pid)) :
    (session.launchApp request outcome).1.Kept ∧
      session.TellsRunning (session.launchApp request outcome).1 := by
  unfold launchApp
  split
  · refine ⟨kept.restate rfl rfl rfl rfl, [_], rfl, ?_⟩
    simp
  split
  · refine ⟨kept.restate rfl rfl rfl rfl, [_], rfl, ?_⟩
    simp
  rename_i available created
  dsimp only
  split
  · refine ⟨kept_launch_failed kept rfl rfl rfl rfl, [_], rfl, ?_⟩
    simp [call, openCompositor]
  · rename_i started
    have succeeds : outcome.succeeds = true := by
      simp only [not_not] at available created
      exact decide_eq_true ⟨available, created, Int.not_lt.mp started⟩
    split
    · rename_i empty
      refine ⟨kept_launch_stored kept (fresh succeeds) rfl rfl rfl rfl rfl,
        [.appCountChanged, .runningChanged], List.append_assoc _ _ _, ?_⟩
      simp [empty]
    · rename_i running
      refine ⟨kept_launch_stored kept (fresh succeeds) rfl rfl rfl rfl rfl,
        [.appCountChanged], rfl, ?_⟩
      simp [running]

/-! ## Runs -/

/-- What shrinks announces when nothing runs any more. -/
theorem Shrinks.tellsRunning (shrinks : session.Shrinks after) : session.TellsRunning after := by
  obtain ⟨signals, emitted, count⟩ := shrinks.emitted
  refine ⟨signals, emitted, ?_⟩
  by_cases empty : session.apps = [] <;> by_cases gone : after.apps = []
  · simpa [empty, gone] using count
  · simp [empty, gone] at count
  · simpa [empty, gone] using count
  · simpa [empty, gone] using count

/-- The books start empty. -/
theorem kept_new : new.Kept := kept_cleared rfl rfl .start

/-- Every step keeps the books and announces what changes. -/
theorem kept_next (kept : session.Kept) {event : AppEvent}
    (taken : session.next event = some after) :
    after.Kept ∧ session.TellsRunning after := by
  have both {shrunk : AppSession} (shrinks : session.Shrinks shrunk)
      (taken : some shrunk = some after) : after.Kept ∧ session.TellsRunning after := by
    obtain rfl := Option.some.inj taken
    exact ⟨shrinks.kept, shrinks.tellsRunning⟩
  cases event with
  | launchApp request outcome =>
      simp only [next] at taken
      split at taken
      · rename_i fresh
        obtain rfl := Option.some.inj taken
        exact kept_launchApp kept fresh
      · cases taken
  | stopApp pid => exact both (shrinks_stopApp kept pid) taken
  | stopAll => exact both (shrinks_stopAll kept) taken
  | checkChildProcesses exited clients => exact both (shrinks_checkFrom exited clients _ kept) taken
  | dispatch index => exact both (shrinks_dispatch kept index) taken
  | updatePolicy => exact both (shrinks_updatePolicy kept ..) taken
  | setWatermarkIdentity identity => exact both (shrinks_setWatermarkIdentity kept identity) taken

/-- Kept books are the three properties of the lists and compositors. -/
theorem Kept.inLockstep (kept : session.Kept) : session.InLockstep where
  rows := kept.rows
  owned app member := by
    obtain ⟨compositor, points⟩ := Option.isSome_iff_exists.mp (kept.pointed app member)
    have holds : compositor ∈ session.held := List.mem_filterMap.mpr ⟨app, member, points⟩
    exact ⟨compositor, points, List.count_eq_zero.mpr (kept.owned.not_released holds)⟩
  destroyedOnce compositor created gone := by
    refine kept.owned.released_once created fun holds => ?_
    obtain ⟨app, member, points⟩ := List.mem_filterMap.mp holds
    exact gone app member points
  used := kept.owned.used

/-- Whatever is launched, stopped or found to have exited, the rows are those of the
applications, a compositor is destroyed once, when its application goes, and not used
afterwards, and the change between running and not running is signalled by the call that
makes it, once. -/
theorem bookkeeping {events : List AppEvent} {session : AppSession}
    (run : Runs next new events session) :
    session.InLockstep ∧
      ∀ event after, session.next event = some after → session.TellsRunning after := by
  have kept : session.Kept := run.invariant kept_new
    fun _ _ _ kept taken => (kept_next kept taken).1
  exact ⟨kept.inLockstep, fun _ _ taken => (kept_next kept taken).2⟩

/-- Two applications and a launch that fails; the second application has exited and its
last client is gone, the first keeps a client. -/
theorem bookkeeping_exited : ∃ session,
    Runs next new
      [.launchApp ⟨"code", "", "", true, true, false, false, false, [], true⟩ ⟨true, true, 7⟩,
        .launchApp ⟨"vim", "", "", true, true, false, false, false, [], true⟩ ⟨true, true, -1⟩,
        .launchApp ⟨"xterm", "Terminal", "", true, true, false, false, false, [], true⟩
          ⟨true, true, 9⟩,
        .checkChildProcesses (fun _ => true) fun index => 1 - index] session ∧
      (session.runningAppModel = [⟨7, "code", "code"⟩] ∧ session.destroyed = [1, 2]) ∧
      session.InLockstep ∧ session.TellsRunning session.stopAll.1 := by
  refine (runs_of_replay (fun session : AppSession =>
    session.runningAppModel = [⟨7, "code", "code"⟩] ∧ session.destroyed = [1, 2])
      (by decide)).imp fun session ⟨run, shown⟩ => ⟨run, of_decide_eq_true shown, ?_⟩
  obtain ⟨lockstep, tells⟩ := bookkeeping run
  exact ⟨lockstep, tells .stopAll _ rfl⟩

end AppSession

end CoderDesktop.Dlp
