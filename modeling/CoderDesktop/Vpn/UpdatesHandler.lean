import Mathlib.Data.List.AList

/-!
# The helper's workspace updates

`dbusUpdatesHandler` turns the server's workspace updates into `PeerUpdated`
signals and keeps a map of the agents it pings. Only an agent's entry of the map
is written under the mutex, so an `Update` is the sequence `WorkspaceUpdate.actions`
of signals and map writes, each of them one step. Whether emitting a signal fails
is not looked at by the code.
-/

namespace CoderDesktop.Vpn

/-- `uuid.UUID` -/
abbrev UUID := BitVec 128

/-- `tailnet.Workspace` -/
structure Workspace where
  id : UUID
  name : String
deriving DecidableEq, Repr

/-- `tailnet.Agent`; `hosts` are the addresses of each host name, in the order a
`range` over the map comes to them. -/
structure Agent where
  id : UUID
  name : String
  workspaceId : UUID
  hosts : List (List String)
deriving DecidableEq, Repr

/-- `tailnet.WorkspaceUpdate` -/
structure WorkspaceUpdate where
  upsertedWorkspaces : List Workspace
  upsertedAgents : List Agent
  deletedWorkspaces : List Workspace
  deletedAgents : List Agent
deriving DecidableEq, Repr

/-- What identifies an agent. -/
structure AgentRef where
  agentId : UUID
  workspaceId : UUID
deriving DecidableEq, Repr

/-- The value of an entry; `ip` is `none` when the address is not valid. -/
structure TrackedAgent where
  /-- The agent that was upserted, which the source's entry does not say. -/
  ref : AgentRef
  workspaceName : String
  agentName : String
  hostname : String
  ip : Option String
deriving DecidableEq, Repr

/-- The arguments of the `PeerUpdated` signal. -/
structure PeerUpdated where
  workspace : String
  agent : String
  hostname : String
  status : Int
  lastPingMs : Int
  isP2P : Bool
deriving DecidableEq, Repr

/-- The workspace of an agent in an update. -/
def findWorkspaceForAgent (agent : Agent) (workspaces : List Workspace) : Option Workspace :=
  workspaces.find? (·.id = agent.workspaceId)

/-- The update has an agent of the workspace. -/
def hasAgentForWorkspace (workspace : Workspace) (agents : List Agent) : Bool :=
  agents.any (·.workspaceId = workspace.id)

/-- The hostname of an agent; without a workspace it has two parts only. -/
def formatHostname (agentName workspaceName suffix : String) : String :=
  if workspaceName = "" then agentName ++ "." ++ suffix
  else agentName ++ "." ++ workspaceName ++ ".me." ++ suffix

/-! ## One agent of an update -/

/-- An agent comes or goes. -/
inductive ChangeKind where
  | upserted
  | deleted
deriving DecidableEq, Repr

/-- One round of the loops over upserted and deleted agents. -/
structure AgentChange where
  kind : ChangeKind
  agent : Agent
  /-- The name of the workspace the update itself announces for the agent. -/
  wsName : String
deriving DecidableEq, Repr

namespace AgentChange

/-- A change of an agent, with the workspace name looked up in the update. -/
def ofUpdate (kind : ChangeKind) (workspaces : List Workspace) (agent : Agent) : AgentChange where
  kind := kind
  agent := agent
  wsName := ((findWorkspaceForAgent agent workspaces).map Workspace.name).getD ""

/-- The agent that changed. -/
def ref (change : AgentChange) : AgentRef :=
  ⟨change.agent.id, change.agent.workspaceId⟩

/-- The hostname the handler computes for the agent. -/
def hostname (change : AgentChange) (suffix : String) : String :=
  formatHostname change.agent.name change.wsName suffix

/-- The key of the handler's map. -/
def key (change : AgentChange) : String :=
  change.wsName ++ "." ++ change.agent.name

/-- The first address of the first host name that has one. -/
def agentIP (change : AgentChange) : Option String :=
  (change.agent.hosts.find? (· ≠ [])).bind List.head?

/-- The entry of the handler's map. -/
def tracked (change : AgentChange) (suffix : String) : TrackedAgent where
  ref := change.ref
  workspaceName := change.wsName
  agentName := change.agent.name
  hostname := change.hostname suffix
  ip := change.agentIP

/-- CONNECTED for an upserted agent, DISCONNECTED for a deleted one. -/
def signal (change : AgentChange) (suffix : String) : PeerUpdated where
  workspace := change.wsName
  agent := change.agent.name
  hostname := change.hostname suffix
  status := match change.kind with
    | .upserted => 2
    | .deleted => 0
  lastPingMs := -1
  isP2P := false

/-- The write to the map of agents. -/
def store (change : AgentChange) (suffix : String) (agents : AList fun _ : String => TrackedAgent) :
    AList fun _ : String => TrackedAgent :=
  match change.kind with
  | .upserted => agents.insert change.key (change.tracked suffix)
  | .deleted => agents.erase change.key

end AgentChange

/-! ## A whole update -/

/-- A step of `Update`. -/
inductive UpdateAction where
  | emitAgent (change : AgentChange)
  | store (change : AgentChange)
  | emitWorkspace (workspace : Workspace) (status : Int)
deriving DecidableEq, Repr

/-- The signal for a workspace none of whose agents is in the update. -/
def workspaceSignal (workspace : Workspace) (status : Int) (suffix : String) : PeerUpdated where
  workspace := workspace.name
  agent := ""
  hostname := workspace.name ++ "." ++ suffix
  status := status
  lastPingMs := -1
  isP2P := false

namespace WorkspaceUpdate

/-- The agents of an update in the order its loops come to them. -/
def changes (update : WorkspaceUpdate) : List AgentChange :=
  update.upsertedAgents.map (.ofUpdate .upserted update.upsertedWorkspaces) ++
    update.deletedAgents.map (.ofUpdate .deleted update.deletedWorkspaces)

/-- `Update`, step by step. -/
def actions (update : WorkspaceUpdate) : List UpdateAction :=
  (update.changes.flatMap fun change => [.emitAgent change, .store change]) ++
    ((update.upsertedWorkspaces.filter fun workspace =>
      ¬ hasAgentForWorkspace workspace update.upsertedAgents).map (.emitWorkspace · 2)) ++
    ((update.deletedWorkspaces.filter fun workspace =>
      ¬ hasAgentForWorkspace workspace update.deletedAgents).map (.emitWorkspace · 0))

end WorkspaceUpdate

/-! ## Pings -/

/-- The signal after a ping that was answered. -/
def TrackedAgent.pinged (agent : TrackedAgent) (lastPingMs : Int) (isP2P : Bool) : PeerUpdated where
  workspace := agent.workspaceName
  agent := agent.agentName
  hostname := agent.hostname
  status := 2
  lastPingMs := lastPingMs
  isP2P := isP2P

/-- The agents a round of `pingAllAgents` has still to come to. -/
abbrev PingRound := List TrackedAgent

/-- The snapshot `pingAllAgents` takes. -/
def snapshot (agents : AList fun _ : String => TrackedAgent) : PingRound :=
  agents.entries.map Sigma.snd

end CoderDesktop.Vpn
