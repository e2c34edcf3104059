import CoderDesktop.Api.PollingController
import CoderDesktop.Semantics.Run

/-!
# Where polled data comes from

`Origins` records, next to the controller, what each deployment has answered and the
deployment polling was last started for. A reply is saved under the base URL of the
moment it arrives, and shown whatever was asked for since; `KeepsApart` is what has to
be true of the replies and of the rows a start leaves in place.
-/

namespace CoderDesktop.Api

open Semantics Settings Models

/-- The controller, what was fetched from where, and where the polling began. -/
structure Origins where
  controller : PollingController
  /-- What each base URL answered. -/
  fetched : Resource → String → List Json
  /-- The base URL of the last start. -/
  started : Option String

/-- The rows that stay when a list is updated, or is not. -/
def leftInPlace {Row : Type} (key : Row → String) (rows : List Row) :
    Option (List Row) → List Row
  | none => rows
  | some new => (shadowed key rows).filter (key · ∈ new.map key)

namespace Origins

/-- The application with an empty cache. -/
def new (settings : PollingSettings) : Origins :=
  ⟨.new settings fun _ _ => none, fun _ _ => [], none⟩

/-- A successful reply is an answer of the deployment it was asked of. -/
def fetchedAfter (world : Origins) : PollingEvent → Resource → String → List Json
  | .replied index (.ok doc) _, resource, baseUrl =>
      if world.controller.requests[index]? = some ⟨resource, baseUrl⟩ then
        world.fetched resource baseUrl ++ received resource doc
      else world.fetched resource baseUrl
  | .replied _ (.error _) _, resource, baseUrl | .start _, resource, baseUrl
  | .stop, resource, baseUrl | .tick, resource, baseUrl | .refreshNow, resource, baseUrl
  | .setBaseUrl _, resource, baseUrl | .setSessionToken _, resource, baseUrl
  | .settingsChanged _ _, resource, baseUrl | .restart _, resource, baseUrl =>
      world.fetched resource baseUrl

/-- A restart of the application forgets where the polling began. -/
def startedAfter (world : Origins) : PollingEvent → Option String
  | .start _ => some world.controller.client.baseUrl
  | .restart _ => none
  | .replied _ _ _ | .stop | .tick | .refreshNow | .setBaseUrl _ | .setSessionToken _
  | .settingsChanged _ _ => world.started

/-- A step of the controller, with its history. -/
def next (world : Origins) (event : PollingEvent) : Option Origins :=
  (world.controller.step event).map fun result =>
    ⟨result.1, world.fetchedAfter event, world.startedAfter event⟩

/-- What is stored for a deployment was fetched from it, and what is shown after a
start comes from the deployment started. -/
structure Apart (world : Origins) : Prop where
  cache : ∀ baseUrl resource arr, world.controller.cache baseUrl resource = some arr →
    arr ⊆ world.fetched resource baseUrl
  workspaces : ∀ baseUrl ∈ world.started, world.controller.workspaceModel.rows ⊆
    workspaceRows (world.fetched .workspaces baseUrl)
  tasks : ∀ baseUrl ∈ world.started, world.controller.taskModel.rows ⊆
    taskRows (world.fetched .tasks baseUrl)

/-- The request was sent to the deployment, or brings nothing the deployment has not
answered itself. -/
def BelongsTo (world : Origins) (request : Request) (doc : Json) (baseUrl : String) : Prop :=
  request.baseUrl = baseUrl ∨
    received request.resource doc ⊆ world.fetched request.resource baseUrl

/-- A reply that is saved belongs to the base URL of the moment, and a reply shown
after a start to the deployment started. A start leaves no rows of other deployments. -/
def KeepsApart (world : Origins) : PollingEvent → Prop
  | .replied index (.ok doc) saves =>
      ∀ request ∈ world.controller.requests[index]?,
        (world.controller.settings.disableDataCache = false → saves = true →
          world.BelongsTo request doc world.controller.client.baseUrl) ∧
        ∀ baseUrl ∈ world.started, world.BelongsTo request doc baseUrl
  | .start opens =>
      leftInPlace WorkspaceInfo.id world.controller.workspaceModel.rows
          ((world.controller.cached opens .workspaces).map workspaceRows) ⊆
        workspaceRows (world.fetched .workspaces world.controller.client.baseUrl) ∧
      leftInPlace TaskInfo.id world.controller.taskModel.rows
          ((world.controller.cached opens .tasks).map taskRows) ⊆
        taskRows (world.fetched .tasks world.controller.client.baseUrl)
  | .replied _ (.error _) _ | .stop | .tick | .refreshNow | .setBaseUrl _ | .setSessionToken _
  | .settingsChanged _ _ | .restart _ => True

end Origins

/-! ## What the operations do to cache and rows -/

/-- Updating or not, only rows left in place can be neither old answers nor new. -/
theorem updated_subset {Row : Type} {key : Row → String} {rows target : List Row}
    {update : Option (List Row)} (left : leftInPlace key rows update ⊆ target)
    (fresh : ∀ new ∈ update, new ⊆ target) :
    (update.elim rows fun new => (setRows key new rows).1) ⊆ target := by
  cases update with
  | none => exact left
  | some new =>
      intro row member
      rcases mem_setRows member with isNew | ⟨hidden, present⟩
      · exact fresh new rfl isNew
      · exact left (List.mem_filter.mpr ⟨hidden, decide_eq_true present⟩)

/-- Rows that are set come from the old ones or the new ones. -/
theorem setRows_subset {Row : Type} {key : Row → String} {new rows target : List Row}
    (old : rows ⊆ target) (fresh : new ⊆ target) : (setRows key new rows).1 ⊆ target := by
  intro row member
  rcases mem_setRows member with isNew | ⟨hidden, -⟩
  · exact fresh isNew
  · exact old (shadowed_subset rows hidden)

/-- More objects make more rows. -/
theorem workspaceRows_mono {arr more : List Json} (le : arr ⊆ more) :
    workspaceRows arr ⊆ workspaceRows more :=
  List.map_subset _ le

/-- More objects make more rows. -/
theorem taskRows_mono {arr more : List Json} (le : arr ⊆ more) : taskRows arr ⊆ taskRows more :=
  List.map_subset _ le

namespace PollingController

variable (controller : PollingController)

@[simp] theorem cache_refreshNow : controller.refreshNow.cache = controller.cache := rfl

@[simp] theorem workspaceModel_refreshNow :
    controller.refreshNow.workspaceModel = controller.workspaceModel := rfl

@[simp] theorem taskModel_refreshNow : controller.refreshNow.taskModel = controller.taskModel := rfl

section Start

variable (opens : Resource → Bool)

/-- Starting leaves the cache alone. -/
theorem cache_start : (controller.start opens).cache = controller.cache := by
  simp only [start, loadCache, cache_refreshNow]
  split <;> split <;> rfl

/-- The workspaces of the cache are set where it has some. -/
theorem workspaceRows_loadCache :
    (controller.loadCache opens).workspaceModel.rows =
      ((controller.cached opens .workspaces).map workspaceRows).elim
        controller.workspaceModel.rows fun new =>
          (setRows WorkspaceInfo.id new controller.workspaceModel.rows).1 := by
  unfold loadCache
  cases controller.cached opens .workspaces <;> cases controller.cached opens .tasks <;> rfl

/-- The tasks of the cache are set where it has some. -/
theorem taskRows_loadCache :
    (controller.loadCache opens).taskModel.rows =
      ((controller.cached opens .tasks).map taskRows).elim controller.taskModel.rows fun new =>
        (setRows TaskInfo.id new controller.taskModel.rows).1 := by
  unfold loadCache
  cases controller.cached opens .workspaces <;> cases controller.cached opens .tasks <;> rfl

/-- Starting sets the workspaces of the cache. -/
theorem workspaceRows_start :
    (controller.start opens).workspaceModel.rows =
      ((controller.cached opens .workspaces).map workspaceRows).elim
        controller.workspaceModel.rows fun new =>
          (setRows WorkspaceInfo.id new controller.workspaceModel.rows).1 :=
  workspaceRows_loadCache { controller with firstFetch := true } opens

/-- Starting sets the tasks of the cache. -/
theorem taskRows_start :
    (controller.start opens).taskModel.rows =
      ((controller.cached opens .tasks).map taskRows).elim controller.taskModel.rows fun new =>
        (setRows TaskInfo.id new controller.taskModel.rows).1 :=
  taskRows_loadCache { controller with firstFetch := true } opens

end Start

/-- Only an enabled cache is read. -/
theorem cached_le {opens : Resource → Bool} {resource : Resource} {arr : List Json}
    (found : controller.cached opens resource = some arr) :
    controller.cache controller.client.baseUrl resource = some arr := by
  unfold cached at found
  split at found
  · exact found
  · cases found

section Reply

variable (resource : Resource) (doc : Json) (saves : Bool)

@[simp] theorem workspaceModel_saveCache (arr : List Json) :
    (controller.saveCache resource arr saves).workspaceModel = controller.workspaceModel := by
  unfold saveCache
  split <;> rfl

@[simp] theorem taskModel_saveCache (arr : List Json) :
    (controller.saveCache resource arr saves).taskModel = controller.taskModel := by
  unfold saveCache
  split <;> rfl

/-- A reply is saved under the current base URL, if at all. -/
theorem cache_saveCache (arr : List Json) :
    (controller.saveCache resource arr saves).cache =
      if controller.settings.disableDataCache = false ∧ saves then
        Function.update controller.cache controller.client.baseUrl
          (Function.update (controller.cache controller.client.baseUrl) resource (some arr))
      else controller.cache := by
  unfold saveCache
  split <;> rfl

/-- A reply is saved as `saveCache` does. -/
theorem cache_handleReply :
    (controller.handleReply resource (.ok doc) saves).1.cache =
      (controller.saveCache resource (received resource doc) saves).cache := by
  cases resource with
  | workspaces => simp only [handleReply, handleWorkspacesReceived, setWorkspaces,
      cache_saveCache, received]
  | tasks => simp only [handleReply, handleTasksReceived, setTasks, cache_saveCache, received]

/-- A reply about workspaces sets their rows. -/
theorem workspaceRows_handleReply :
    (controller.handleReply resource (.ok doc) saves).1.workspaceModel.rows =
      if resource = .workspaces then
        (setRows WorkspaceInfo.id (workspaceRows (received resource doc))
          controller.workspaceModel.rows).1
      else controller.workspaceModel.rows := by
  cases resource with
  | workspaces => simp [handleReply, handleWorkspacesReceived, setWorkspaces, received,
      WorkspaceModel.setWorkspaces]
  | tasks => simp [handleReply, handleTasksReceived, setTasks]

/-- A reply about tasks sets their rows. -/
theorem taskRows_handleReply :
    (controller.handleReply resource (.ok doc) saves).1.taskModel.rows =
      if resource = .tasks then
        (setRows TaskInfo.id (taskRows (received resource doc)) controller.taskModel.rows).1
      else controller.taskModel.rows := by
  cases resource with
  | workspaces => simp [handleReply, handleWorkspacesReceived, setWorkspaces]
  | tasks => simp [handleReply, handleTasksReceived, setTasks, received, TaskModel.setTasks]

end Reply

/-- What a directory has for a resource after saving. -/
theorem saved_cases {resource other : Resource} {arr found : List Json} {saves : Bool}
    {baseUrl : String}
    (stored : (controller.saveCache resource arr saves).cache baseUrl other = some found) :
    controller.cache baseUrl other = some found ∨
      controller.settings.disableDataCache = false ∧ saves = true ∧
        baseUrl = controller.client.baseUrl ∧ other = resource ∧ found = arr := by
  rw [cache_saveCache] at stored
  split at stored
  · rename_i enabled
    by_cases sameUrl : baseUrl = controller.client.baseUrl
    · subst sameUrl
      rw [Function.update_self] at stored
      by_cases same : other = resource
      · subst same
        rw [Function.update_self] at stored
        exact .inr ⟨enabled.1, enabled.2, rfl, rfl, (Option.some.inj stored).symm⟩
      · rw [Function.update_of_ne same] at stored
        exact .inl stored
    · rw [Function.update_of_ne sameUrl] at stored
      exact .inl stored
  · exact .inl stored

/-- Purging takes files away only. -/
theorem cache_purgeCache {removes : Resource → Bool} {baseUrl : String} {resource : Resource}
    {arr : List Json}
    (stored : (controller.purgeCache removes).cache baseUrl resource = some arr) :
    controller.cache baseUrl resource = some arr := by
  by_cases same : baseUrl = controller.client.baseUrl
  · subst same
    simp only [purgeCache, Function.update_self] at stored
    split at stored
    · cases stored
    · exact stored
  · simp only [purgeCache, Function.update_of_ne same] at stored
    exact stored

/-- What the cache holds after a change of the settings it held before. -/
theorem cache_settingsChanged {settings : PollingSettings} {removes : Resource → Bool}
    {baseUrl : String} {resource : Resource} {arr : List Json}
    (stored : (controller.settingsChanged settings removes).cache baseUrl resource = some arr) :
    controller.cache baseUrl resource = some arr := by
  simp only [settingsChanged] at stored
  split at stored
  · exact cache_purgeCache _ stored
  · exact stored

/-- A change of the settings leaves the workspaces alone. -/
theorem workspaceModel_settingsChanged (settings : PollingSettings) (removes : Resource → Bool) :
    (controller.settingsChanged settings removes).workspaceModel = controller.workspaceModel := by
  simp only [settingsChanged]
  split <;> rfl

/-- A change of the settings leaves the tasks alone. -/
theorem taskModel_settingsChanged (settings : PollingSettings) (removes : Resource → Bool) :
    (controller.settingsChanged settings removes).taskModel = controller.taskModel := by
  simp only [settingsChanged]
  split <;> rfl

end PollingController

/-! ## Keeping deployments apart -/

namespace Origins

variable {world : Origins}

/-- A new controller mixes nothing. -/
theorem apart_new (settings : PollingSettings) : (new settings).Apart := by
  refine ⟨?_, ?_, ?_⟩
  · intro _ _ _ stored
    cases stored
  · intro _ started
    cases started
  · intro _ started
    cases started

/-- What was fetched stays fetched. -/
theorem fetched_subset (event : PollingEvent) (resource : Resource) (baseUrl : String) :
    world.fetched resource baseUrl ⊆ world.fetchedAfter event resource baseUrl := by
  unfold fetchedAfter
  split
  · split
    · exact List.subset_append_left _ _
    · exact List.Subset.refl _
  all_goals exact List.Subset.refl _

/-- What a reply brings counts as an answer of every deployment it belongs to. -/
theorem BelongsTo.received_subset {index : Nat} {request : Request} {doc : Json}
    {baseUrl : String} (found : world.controller.requests[index]? = some request)
    (belongs : world.BelongsTo request doc baseUrl) (saves : Bool) :
    received request.resource doc ⊆
      world.fetchedAfter (.replied index (.ok doc) saves) request.resource baseUrl := by
  rcases belongs with rfl | known
  · simp only [fetchedAfter, if_pos found]
    exact List.subset_append_right _ _
  · exact List.Subset.trans known (fetched_subset _ _ _)

/-- A step that saves nothing and shows nothing. -/
theorem Apart.of_le {controller : PollingController} (apart : world.Apart)
    (event : PollingEvent)
    (cache : ∀ baseUrl resource arr, controller.cache baseUrl resource = some arr →
      world.controller.cache baseUrl resource = some arr)
    (workspaces : controller.workspaceModel.rows = world.controller.workspaceModel.rows)
    (tasks : controller.taskModel.rows = world.controller.taskModel.rows) :
    Apart ⟨controller, world.fetchedAfter event, world.started⟩ := by
  refine ⟨fun baseUrl resource arr stored => ?_, fun baseUrl started => ?_,
    fun baseUrl started => ?_⟩
  · exact List.Subset.trans (apart.cache _ _ _ (cache _ _ _ stored)) (fetched_subset event _ _)
  · rw [workspaces]
    exact List.Subset.trans (apart.workspaces _ started)
      (workspaceRows_mono (fetched_subset event _ _))
  · rw [tasks]
    exact List.Subset.trans (apart.tasks _ started) (taskRows_mono (fetched_subset event _ _))

/-- An event that touches neither rows nor cache keeps deployments apart. -/
theorem Apart.of_same {controller : PollingController} (apart : world.Apart)
    (event : PollingEvent) (cache : controller.cache = world.controller.cache)
    (workspaces : controller.workspaceModel.rows = world.controller.workspaceModel.rows)
    (tasks : controller.taskModel.rows = world.controller.taskModel.rows) :
    Apart ⟨controller, world.fetchedAfter event, world.started⟩ :=
  apart.of_le event (fun _ _ _ stored => cache ▸ stored) workspaces tasks

/-- A reply that arrives in time keeps deployments apart. -/
theorem Apart.replied (apart : world.Apart) {index : Nat} {request : Request} {doc : Json}
    {saves : Bool} (found : world.controller.requests[index]? = some request)
    (allowed : world.KeepsApart (.replied index (.ok doc) saves)) :
    Apart ⟨(({ world.controller with
        requests := world.controller.requests.eraseIdx index }).handleReply
          request.resource (.ok doc) saves).1,
      world.fetchedAfter (.replied index (.ok doc) saves), world.started⟩ := by
  obtain ⟨savedWhereAsked, shownWhereAsked⟩ := allowed request found
  refine ⟨fun baseUrl resource arr stored => ?_, fun baseUrl started => ?_,
    fun baseUrl started => ?_⟩
  · rw [PollingController.cache_handleReply] at stored
    rcases PollingController.saved_cases _ stored with
      kept | ⟨enabled, saved, rfl, rfl, rfl⟩
    · exact List.Subset.trans (apart.cache _ _ _ kept)
        (fetched_subset (.replied index (.ok doc) saves) _ _)
    · exact (savedWhereAsked enabled saved).received_subset found saves
  · have old := List.Subset.trans (apart.workspaces _ started)
      (workspaceRows_mono (fetched_subset (.replied index (.ok doc) saves) _ _))
    simp only [PollingController.workspaceRows_handleReply]
    split
    · rename_i same
      have fresh := (shownWhereAsked _ started).received_subset found saves
      rw [same] at fresh ⊢
      exact setRows_subset old (workspaceRows_mono fresh)
    · exact old
  · have old := List.Subset.trans (apart.tasks _ started)
      (taskRows_mono (fetched_subset (.replied index (.ok doc) saves) _ _))
    simp only [PollingController.taskRows_handleReply]
    split
    · rename_i same
      have fresh := (shownWhereAsked _ started).received_subset found saves
      rw [same] at fresh ⊢
      exact setRows_subset old (taskRows_mono fresh)
    · exact old

/-- A start over a cache of the same deployment keeps deployments apart. -/
theorem Apart.started (apart : world.Apart) {opens : Resource → Bool}
    (allowed : world.KeepsApart (.start opens)) :
    Apart ⟨world.controller.start opens, world.fetched, some world.controller.client.baseUrl⟩ := by
  obtain ⟨workspacesLeft, tasksLeft⟩ := allowed
  refine ⟨fun baseUrl resource arr stored => ?_, fun baseUrl started => ?_,
    fun baseUrl started => ?_⟩
  · rw [PollingController.cache_start] at stored
    exact apart.cache _ _ _ stored
  · obtain rfl := Option.some.inj started
    rw [PollingController.workspaceRows_start]
    refine updated_subset workspacesLeft fun new loaded => ?_
    obtain ⟨arr, found, rfl⟩ := Option.map_eq_some_iff.mp loaded
    exact workspaceRows_mono (apart.cache _ _ _ (PollingController.cached_le _ found))
  · obtain rfl := Option.some.inj started
    rw [PollingController.taskRows_start]
    refine updated_subset tasksLeft fun new loaded => ?_
    obtain ⟨arr, found, rfl⟩ := Option.map_eq_some_iff.mp loaded
    exact taskRows_mono (apart.cache _ _ _ (PollingController.cached_le _ found))

/-- Every allowed step keeps deployments apart. -/
theorem Apart.step (apart : world.Apart) {event : PollingEvent} {after : Origins}
    (allowed : world.KeepsApart event) (taken : world.next event = some after) : after.Apart := by
  obtain ⟨⟨controller, notifications⟩, step, rfl⟩ := Option.map_eq_some_iff.mp taken
  cases event with
  | start opens =>
      obtain rfl := (Prod.mk.inj (Option.some.inj step)).1
      exact apart.started allowed
  | stop =>
      obtain rfl := (Prod.mk.inj (Option.some.inj step)).1
      exact apart.of_same .stop rfl rfl rfl
  | tick =>
      obtain ⟨-, step⟩ := Option.ite_none_right_eq_some.mp step
      obtain rfl := (Prod.mk.inj (Option.some.inj step)).1
      exact apart.of_same .tick rfl rfl rfl
  | refreshNow =>
      obtain rfl := (Prod.mk.inj (Option.some.inj step)).1
      exact apart.of_same .refreshNow rfl rfl rfl
  | setBaseUrl url =>
      obtain rfl := (Prod.mk.inj (Option.some.inj step)).1
      exact apart.of_same (.setBaseUrl url) rfl rfl rfl
  | setSessionToken token =>
      obtain rfl := (Prod.mk.inj (Option.some.inj step)).1
      exact apart.of_same (.setSessionToken token) rfl rfl rfl
  | replied index reply saves =>
      obtain ⟨request, found, handled⟩ := Option.map_eq_some_iff.mp step
      obtain rfl := congrArg Prod.fst handled
      cases reply with
      | error err =>
          refine apart.of_same (.replied index (.error err) saves) ?_ ?_ ?_
          all_goals cases request with | mk resource baseUrl => cases resource <;> rfl
      | ok doc => exact apart.replied found allowed
  | settingsChanged settings removes =>
      obtain rfl := (Prod.mk.inj (Option.some.inj step)).1
      exact apart.of_le (.settingsChanged settings removes)
        (fun _ _ _ stored => world.controller.cache_settingsChanged stored)
        (congrArg _ (world.controller.workspaceModel_settingsChanged settings removes))
        (congrArg _ (world.controller.taskModel_settingsChanged settings removes))
  | restart settings =>
      obtain rfl := (Prod.mk.inj (Option.some.inj step)).1
      refine ⟨apart.cache, ?_, ?_⟩
      · intro _ started
        cases started
      · intro _ started
        cases started

/-- Deployments are kept apart in every run whose replies and starts keep them apart. -/
theorem apart_of_keepsApart (settings : PollingSettings) (events : List PollingEvent)
    (conforms : Conforms next KeepsApart (new settings) events) :
    ∀ world, Visits next (new settings) events world → world.Apart := by
  rintro world ⟨before, after, rfl, run⟩
  exact run.induct (fun _ state => state.Apart) (apart_new settings)
    (fun _ _ _ _ _ apart allowed taken => apart.step allowed taken) conforms.ofAppend

/-- A reply with one workspace. -/
def workspaceDoc : Json :=
  .object [("workspaces", .array [.object [("id", .string "1"), ("name", .string "dev")]])]

/-- A reply from one deployment comes after polling was started for another. -/
theorem late_reply_mixes_deployments :
    ¬ ∀ world, Visits next (new ⟨true, 10, false⟩)
        [.setBaseUrl "https://a.coder.com", .start fun _ => true,
          .setBaseUrl "https://b.coder.com", .start fun _ => true,
          .replied 0 (.ok workspaceDoc) true] world → world.Apart := by
  refine not_visits_of_replay (fun world => world.started = some "https://b.coder.com" ∧
    world.controller.workspaceModel.rows.map (·.id) = ["1"] ∧
      (world.fetched .workspaces "https://b.coder.com").length = 0) (by decide) ?_
  intro world reached apart
  obtain ⟨started, rows, none⟩ := of_decide_eq_true reached
  have shown := apart.workspaces _ started
  rw [List.length_eq_zero_iff.mp none] at shown
  rw [List.subset_nil.mp shown] at rows
  cases rows

/-- A deployment polled, and polled again from its cache after a restart. -/
theorem apart_of_keepsApart_restart : ∃ world, Runs next (new ⟨true, 10, false⟩)
    [.setBaseUrl "https://a.coder.com", .start fun _ => true,
      .replied 0 (.ok workspaceDoc) true, .restart ⟨true, 10, false⟩,
      .setBaseUrl "https://a.coder.com", .start fun _ => true] world ∧
    world.controller.workspaceModel.rows.map (·.id) = ["1"] ∧ world.Apart := by
  refine (runs_of_replay (fun world => world.controller.workspaceModel.rows.map (·.id) = ["1"])
    (by decide)).imp fun world ⟨run, shown⟩ => ⟨run, of_decide_eq_true shown, ?_⟩
  refine apart_of_keepsApart _ _ ?_ world run.visits
  intro _ taken
  obtain rfl := Option.some.inj taken
  refine ⟨trivial, fun _ taken => ?_⟩
  obtain rfl := Option.some.inj taken
  refine ⟨⟨by decide, by decide⟩, fun _ taken => ?_⟩
  obtain rfl := Option.some.inj taken
  refine ⟨fun request found => ?_, fun _ taken => ?_⟩
  · obtain rfl := Option.some.inj found
    exact ⟨fun _ _ => .inl rfl, fun _ started => .inl (Option.some.inj started)⟩
  obtain rfl := Option.some.inj taken
  refine ⟨trivial, fun _ taken => ?_⟩
  obtain rfl := Option.some.inj taken
  refine ⟨trivial, fun _ taken => ?_⟩
  obtain rfl := Option.some.inj taken
  exact ⟨⟨by decide, by decide⟩, trivial⟩

end Origins

end CoderDesktop.Api
