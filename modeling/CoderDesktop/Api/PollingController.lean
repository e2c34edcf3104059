import CoderDesktop.Api.CoderApiClient
import CoderDesktop.Models.ListModels

/-!
# Polling

`PollingController` with the API client it fetches through, the models it fills and
the cache it keeps on disk. A request carries the base URL it was sent to; its reply
may come at any later time, and carries nothing of it.
-/

namespace CoderDesktop.Api

open Settings Models

/-- What is polled; each has a model, an endpoint and a cache file. -/
inductive Resource where
  | workspaces
  | tasks
deriving DecidableEq, Repr

/-- A request under way. -/
structure Request where
  resource : Resource
  baseUrl : String
deriving DecidableEq, Repr

/-- The settings the controller reads. -/
structure PollingSettings where
  notificationsEnabled : Bool
  refreshIntervalSec : Int
  disableDataCache : Bool
deriving DecidableEq, Repr

/-- A notification asked of the `NotificationManager`. -/
structure Notification where
  title : String
  message : String
  category : String
deriving DecidableEq, Repr

/-- The controller with its client, models and cache, and the requests that have no reply yet. -/
structure PollingController where
  client : CoderApiClient
  settings : PollingSettings
  workspaceModel : WorkspaceModel
  taskModel : TaskModel
  /-- The files in the cache directory of each base URL. -/
  cache : String → Resource → Option (List Json)
  requests : List Request
  polling : Bool
  refreshIntervalSec : Int
  firstFetch : Bool

/-- File accesses and replies end as the event says. -/
inductive PollingEvent where
  /-- `start`, and which cache files can be opened. -/
  | start (opens : Resource → Bool)
  | stop
  | tick
  | refreshNow
  | setBaseUrl (url : String)
  | setSessionToken (token : String)
  /-- A request is answered: the body's document, or the error's text; and whether
  the cache file can be written. -/
  | replied (request : Nat) (reply : Except String Json) (saves : Bool)
  | settingsChanged (settings : PollingSettings) (removes : Resource → Bool)
  /-- The application is started again, with what is in the cache. -/
  | restart (settings : PollingSettings)

/-- `fetchWorkspaces`: `{ "workspaces": [...] }` -/
def receivedWorkspaces (doc : Json) : List Json :=
  (Json.value doc.toObject "workspaces").toArray

/-- `fetchTasks`: `{ "tasks": [...] }` or a flat array -/
def receivedTasks : Json → List Json
  | .array values => values
  | .object entries => (Json.value entries "tasks").toArray
  | .null | .bool _ | .number _ | .string _ => []

/-- The rows a reply brings, still as JSON. -/
def received : Resource → Json → List Json
  | .workspaces => receivedWorkspaces
  | .tasks => receivedTasks

/-- The rows of an array, whose elements need not be objects. -/
def workspaceRows (arr : List Json) : List WorkspaceInfo :=
  arr.map fun item => WorkspaceInfo.fromJson item.toObject

/-- The tasks of a reply. -/
def taskRows (arr : List Json) : List TaskInfo :=
  arr.map fun item => TaskInfo.fromJson item.toObject

namespace PollingController

/-- The controller before it is started, over the cache on disk. -/
def new (settings : PollingSettings) (cache : String → Resource → Option (List Json)) :
    PollingController where
  client := .new
  settings := settings
  workspaceModel := .new
  taskModel := .new
  cache := cache
  requests := []
  polling := false
  refreshIntervalSec := 10
  firstFetch := true

variable (controller : PollingController)

/-- A request to the base URL of this moment. -/
def fetch (resource : Resource) : PollingController :=
  { controller with
    requests := controller.requests ++ [⟨resource, controller.client.baseUrl⟩] }

/-- Both lists are asked for. -/
def refreshNow : PollingController :=
  (controller.fetch .workspaces).fetch .tasks

/-- What `loadCache` reads. -/
def cached (opens : Resource → Bool) (resource : Resource) : Option (List Json) :=
  if controller.settings.disableDataCache = false ∧ opens resource then
    controller.cache controller.client.baseUrl resource
  else none

/-- The model shows these workspaces. -/
def setWorkspaces (arr : List Json) : PollingController :=
  { controller with
    workspaceModel := (controller.workspaceModel.setWorkspaces (workspaceRows arr)).1 }

/-- The model shows these tasks. -/
def setTasks (arr : List Json) : PollingController :=
  { controller with taskModel := (controller.taskModel.setTasks (taskRows arr)).1 }

/-- A model whose file is not read is left as it is. -/
def loadCache (opens : Resource → Bool) : PollingController :=
  let loaded :=
    match controller.cached opens .workspaces with
    | some arr => controller.setWorkspaces arr
    | none => controller
  match controller.cached opens .tasks with
  | some arr => loaded.setTasks arr
  | none => loaded

/-- The cache is shown first, and the server asked at once. -/
def start (opens : Resource → Bool) : PollingController :=
  { (({ controller with firstFetch := true }).loadCache opens).refreshNow with polling := true }

/-- `saveWorkspaceCache` and `saveTaskCache` -/
def saveCache (resource : Resource) (arr : List Json) (saves : Bool) : PollingController :=
  if controller.settings.disableDataCache = false ∧ saves then
    { controller with
      cache := Function.update controller.cache controller.client.baseUrl
        (Function.update (controller.cache controller.client.baseUrl) resource (some arr)) }
  else controller

/-- The files of the current deployment are removed, as far as they can be. -/
def purgeCache (removes : Resource → Bool) : PollingController :=
  { controller with
    cache := Function.update controller.cache controller.client.baseUrl fun resource =>
      if removes resource then none else controller.cache controller.client.baseUrl resource }

/-- A row is compared with the last one of its id. -/
def detectWorkspaceChanges (newList : List WorkspaceInfo) : List Notification :=
  if controller.firstFetch ∨ controller.settings.notificationsEnabled = false then []
  else newList.filterMap fun ws =>
    (controller.workspaceModel.rows.reverse.find? (·.id = ws.id)).bind fun old =>
      if old.status ≠ ws.status then
        some ⟨"Workspace: " ++ ws.name, "Status changed", "WorkspaceState"⟩
      else none

/-- Nothing has changed in the first reply. Of rows with one id the last is compared. -/
def detectTaskChanges (newList : List TaskInfo) : List Notification :=
  if controller.firstFetch ∨ controller.settings.notificationsEnabled = false then []
  else newList.filterMap fun task =>
    (controller.taskModel.rows.reverse.find? (·.id = task.id)).bind fun old =>
      if old.status ≠ task.status ∨ old.currentState ≠ task.currentState then
        some ⟨"Task: " ++ (if task.displayName = "" then task.name else task.displayName),
          "Status changed", "TaskUpdate"⟩
      else none

/-- The rows shown before tell what has changed. -/
def handleWorkspacesReceived (arr : List Json) (saves : Bool) :
    PollingController × List Notification :=
  let shown := controller.setWorkspaces arr
  let cleared :=
    { shown with
      workspaceModel := (shown.workspaceModel.setLoading false).setErrorMessage "" }
  ({ cleared.saveCache .workspaces arr saves with firstFetch := false },
    controller.detectWorkspaceChanges (workspaceRows arr))

/-- `firstFetch` is left to the workspaces. -/
def handleTasksReceived (arr : List Json) (saves : Bool) :
    PollingController × List Notification :=
  let shown := controller.setTasks arr
  let cleared :=
    { shown with taskModel := (shown.taskModel.setLoading false).setErrorMessage "" }
  (cleared.saveCache .tasks arr saves, controller.detectTaskChanges (taskRows arr))

/-- The application shows the error of a failed fetch in its model. -/
def requestFailed (resource : Resource) (errorMessage : String) : PollingController :=
  match resource with
  | .workspaces =>
      { controller with
        workspaceModel :=
          (controller.workspaceModel.setLoading false).setErrorMessage errorMessage }
  | .tasks =>
      { controller with
        taskModel := (controller.taskModel.setLoading false).setErrorMessage errorMessage }

/-- A reply is handled by what was asked for, not by whom it came from. -/
def handleReply (resource : Resource) (reply : Except String Json) (saves : Bool) :
    PollingController × List Notification :=
  match reply, resource with
  | .error errorMessage, resource => (controller.requestFailed resource errorMessage, [])
  | .ok doc, .workspaces => controller.handleWorkspacesReceived (receivedWorkspaces doc) saves
  | .ok doc, .tasks => controller.handleTasksReceived (receivedTasks doc) saves

/-- The slot of `settingsChanged`: the interval is clamped, the cache purged when off. -/
def settingsChanged (settings : PollingSettings) (removes : Resource → Bool) :
    PollingController :=
  let changed :=
    { controller with
      settings := settings
      refreshIntervalSec := max 5 (min settings.refreshIntervalSec 300) }
  if settings.disableDataCache then changed.purgeCache removes else changed

/-- One step, and the notifications it asks for. -/
def step : PollingEvent → Option (PollingController × List Notification)
  | .start opens => some (controller.start opens, [])
  | .stop => some ({ controller with polling := false }, [])
  | .tick => if controller.polling then some (controller.refreshNow, []) else none
  | .refreshNow => some (controller.refreshNow, [])
  | .setBaseUrl url => some ({ controller with client := controller.client.setBaseUrl url }, [])
  | .setSessionToken token =>
      some ({ controller with client := controller.client.setSessionToken token }, [])
  | .replied index reply saves =>
      controller.requests[index]?.map fun request =>
        ({ controller with requests := controller.requests.eraseIdx index }).handleReply
          request.resource reply saves
  | .settingsChanged settings removes => some (controller.settingsChanged settings removes, [])
  | .restart settings => some (new settings controller.cache, [])

end PollingController

end CoderDesktop.Api
