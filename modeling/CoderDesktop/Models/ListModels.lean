import CoderDesktop.Models.KeyedRows
import CoderDesktop.Settings.Variant

/-!
# The workspace and task models

`WorkspaceModel` and `TaskModel` hold the rows the pages list, read from the objects
the server sends. Times are kept as the texts they are parsed from.
-/

namespace CoderDesktop.Models

open Settings

/-- What both models keep. -/
structure ListModel (Row : Type) where
  rows : List Row
  loading : Bool
  errorMessage : String
deriving DecidableEq, Repr

namespace ListModel

variable {Row : Type}

/-- An empty model. -/
def new : ListModel Row := ⟨[], false, ""⟩

/-- The loading flag is set. -/
def setLoading (model : ListModel Row) (loading : Bool) : ListModel Row :=
  { model with loading := loading }

/-- The error text is set. -/
def setErrorMessage (model : ListModel Row) (msg : String) : ListModel Row :=
  { model with errorMessage := msg }

@[simp] theorem rows_setLoading (model : ListModel Row) (loading : Bool) :
    (model.setLoading loading).rows = model.rows := rfl

@[simp] theorem rows_setErrorMessage (model : ListModel Row) (msg : String) :
    (model.setErrorMessage msg).rows = model.rows := rfl

end ListModel

/-! ## Workspaces -/

/-- The states of a workspace. -/
inductive WorkspaceStatus where
  | running
  | stopped
  | starting
  | stopping
  | failed
  | canceling
  | canceled
  | deleting
  | deleted
  | pending
  | unknown
deriving DecidableEq, Repr

/-- The state of a name the API uses, `unknown` for any other. -/
def workspaceStatusFromString (text : String) : WorkspaceStatus :=
  if text = "running" then .running
  else if text = "stopped" then .stopped
  else if text = "starting" then .starting
  else if text = "stopping" then .stopping
  else if text = "failed" then .failed
  else if text = "canceling" then .canceling
  else if text = "canceled" then .canceled
  else if text = "deleting" then .deleting
  else if text = "deleted" then .deleted
  else if text = "pending" then .pending
  else .unknown

/-- The states of an agent. -/
inductive AgentStatus where
  | connected
  | disconnected
  | connecting
  | timeout
  | unknown
deriving DecidableEq, Repr

/-- The state of a name the API uses, `unknown` for any other. -/
def agentStatusFromString (text : String) : AgentStatus :=
  if text = "connected" then .connected
  else if text = "disconnected" then .disconnected
  else if text = "connecting" then .connecting
  else if text = "timeout" then .timeout
  else .unknown

/-- A row of the workspace list. -/
structure WorkspaceInfo where
  id : String
  name : String
  ownerName : String
  templateName : String
  templateIcon : String
  status : WorkspaceStatus
  health : Bool
  favorite : Bool
  outdated : Bool
  agentCount : Nat
  /-- The status of the first agent; 0 is "connected". -/
  agentStatus : AgentStatus
  lastUsedAt : String
deriving DecidableEq, Repr

/-- The agents are nested: `latest_build`, `resources[]`, `agents[]`. -/
def agentStatuses (latestBuild : List (String × Json)) : List AgentStatus :=
  (Json.value latestBuild "resources").toArray.flatMap fun resource =>
    (Json.value resource.toObject "agents").toArray.map fun agent =>
      agentStatusFromString (Json.value agent.toObject "status").toText

/-- `WorkspaceInfo::fromJson`, through `Workspace::fromJson` -/
def WorkspaceInfo.fromJson (entries : List (String × Json)) : WorkspaceInfo :=
  let latestBuild := (Json.value entries "latest_build").toObject
  let agents := agentStatuses latestBuild
  { id := (Json.value entries "id").toText
    name := (Json.value entries "name").toText
    ownerName := (Json.value entries "owner_name").toText
    templateName := (Json.value entries "template_name").toText
    templateIcon := (Json.value entries "template_icon").toText
    status := workspaceStatusFromString (Json.value latestBuild "status").toText
    health := (Json.value (Json.value entries "health").toObject "healthy").toBool
    favorite := (Json.value entries "favorite").toBool
    outdated := (Json.value entries "outdated").toBool
    agentCount := agents.length
    agentStatus := agents.headD .connected
    lastUsedAt := (Json.value entries "last_used_at").toText }

/-- The workspace list. -/
abbrev WorkspaceModel := ListModel WorkspaceInfo

/-- `setWorkspaces`, and what the view is told -/
def WorkspaceModel.setWorkspaces (model : WorkspaceModel) (workspaces : List WorkspaceInfo) :
    WorkspaceModel × List RowChange :=
  let result := setRows WorkspaceInfo.id workspaces model.rows
  ({ model with rows := result.1 }, result.2)

/-! ## Tasks -/

/-- The states of a task. -/
inductive TaskStatus where
  | pending
  | initializing
  | active
  | paused
  | error
  | unknown
deriving DecidableEq, Repr

/-- The state of a name the API uses, `unknown` for any other. -/
def taskStatusFromString (text : String) : TaskStatus :=
  if text = "pending" then .pending
  else if text = "initializing" then .initializing
  else if text = "active" then .active
  else if text = "paused" then .paused
  else if text = "error" then .error
  else .unknown

/-- What a task reports of its work. -/
inductive TaskState where
  | working
  | idle
  | complete
  | failed
deriving DecidableEq, Repr

/-- The report of a name the API uses, `idle` for any other. -/
def taskStateFromString (text : String) : TaskState :=
  if text = "working" then .working
  else if text = "idle" then .idle
  else if text = "complete" then .complete
  else if text = "failed" then .failed
  else .idle

/-- A row of the task list. -/
structure TaskInfo where
  id : String
  name : String
  displayName : String
  ownerName : String
  ownerAvatarUrl : String
  templateName : String
  templateIcon : String
  workspaceName : String
  initialPrompt : String
  status : TaskStatus
  currentStateMessage : String
  currentState : TaskState
  createdAt : String
  updatedAt : String
deriving DecidableEq, Repr

/-- `TaskInfo::fromJson`, through `Task::fromJson` and `fromTask`. An empty state
object reads as the state of a new task. -/
def TaskInfo.fromJson (entries : List (String × Json)) : TaskInfo :=
  let stateObj := (Json.value entries "current_state").toObject
  { id := (Json.value entries "id").toText
    name := (Json.value entries "name").toText
    displayName := (Json.value entries "display_name").toText
    ownerName := (Json.value entries "owner_name").toText
    ownerAvatarUrl := (Json.value entries "owner_avatar_url").toText
    templateName := (Json.value entries "template_name").toText
    templateIcon := (Json.value entries "template_icon").toText
    workspaceName := (Json.value entries "workspace_name").toText
    initialPrompt := (Json.value entries "initial_prompt").toText
    status := taskStatusFromString (Json.value entries "status").toText
    currentStateMessage := (Json.value stateObj "message").toText
    currentState := taskStateFromString (Json.value stateObj "state").toText
    createdAt := (Json.value entries "created_at").toText
    updatedAt := (Json.value entries "updated_at").toText }

/-- The task list. -/
abbrev TaskModel := ListModel TaskInfo

/-- `setTasks`, and what the view is told -/
def TaskModel.setTasks (model : TaskModel) (tasks : List TaskInfo) :
    TaskModel × List RowChange :=
  let result := setRows TaskInfo.id tasks model.rows
  ({ model with rows := result.1 }, result.2)

end CoderDesktop.Models
