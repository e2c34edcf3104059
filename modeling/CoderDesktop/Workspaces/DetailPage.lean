import Mathlib.Data.List.Infix
import CoderDesktop.Models.ListModels
import CoderDesktop.Semantics.Run

/-!
# The pages of the workspaces

`WorkspacesPage` lists the workspaces, and `WorkspaceDetailPage` covers the list with one of
them, its agents and its apps. A detail page takes the reply to any request for details that
comes while it is open: the signal carries the document alone. A reply that was asked for by
an earlier page puts agents of another workspace on it, for a terminal or a file browser to
be opened on, and its status decides whether the workspace can be started or stopped.

So what is opened from a page belongs to its workspace as long as a page is opened only when
no request for another workspace is under way.
-/

namespace CoderDesktop.Workspaces

open Semantics Models

/-- `WorkspaceModel::statusToString`, the role `statusString` -/
def statusToString : WorkspaceStatus → String
  | .running => "Running"
  | .stopped => "Stopped"
  | .starting => "Starting"
  | .stopping => "Stopping"
  | .failed => "Failed"
  | .canceling => "Canceling"
  | .canceled => "Canceled"
  | .deleting => "Deleting"
  | .deleted => "Deleted"
  | .pending => "Pending"
  | .unknown => "Unknown"

/-- `charAt(0).toUpperCase() + slice(1)`, of a text in ASCII -/
def capitalised (text : String) : String :=
  match text.toList with
  | [] => ""
  | first :: rest => String.ofList (first.toUpper :: rest)

/-! ## The document of a workspace -/

/-- An app of an agent, as the reply has it. -/
structure DetailApp where
  displayName : String
  url : String
  slug : String
  external : Bool
deriving DecidableEq, Repr

/-- An agent, as the reply has it. -/
structure DetailAgent where
  id : String
  name : String
  status : String
  apps : List DetailApp
deriving DecidableEq, Repr

/-- What a detail page reads of the document: `latest_build` with the agents of each of its
resources. An absent text is empty. -/
structure WorkspaceDetail where
  status : String
  resources : List (List DetailAgent)
deriving DecidableEq, Repr

/-- An entry of `agentsModel`. -/
structure AgentRow where
  agentId : String
  agentName : String
  agentStatus : String
deriving DecidableEq, Repr

/-- An entry of `appsModel`. -/
structure AppRow where
  appName : String
  appUrl : String
  appSlug : String
  agentId : String
  agentName : String
  appExternal : Bool
deriving DecidableEq, Repr

/-- `text || fallback` -/
def orElse (text fallback : String) : String :=
  if text = "" then fallback else text

namespace WorkspaceDetail

variable (detail : WorkspaceDetail)

/-- The agents the page lists. -/
def agentRows : List AgentRow :=
  detail.resources.flatten.map fun agent =>
    { agentId := agent.id
      agentName := agent.name
      agentStatus := orElse agent.status "unknown" }

/-- The apps the page lists, each with its agent. -/
def appRows : List AppRow :=
  detail.resources.flatten.flatMap fun agent =>
    agent.apps.map fun app =>
      { appName := orElse app.displayName app.slug
        appUrl := app.url
        appSlug := app.slug
        agentId := agent.id
        agentName := agent.name
        appExternal := app.external }

end WorkspaceDetail

/-! ## The detail page -/

/-- What a build does. -/
inductive Transition where
  | start
  | stop
deriving DecidableEq, Repr

/-- A request of `createWorkspaceBuild`. -/
structure Build where
  workspaceId : String
  transition : Transition
deriving DecidableEq, Repr

/-- A page that was opened over a detail page, or handed to the system's browser: its own
workspace, and what it works on. An app comes with the names its URL is built of. -/
inductive Opened where
  | terminal (workspaceId agentId : String)
  | files (workspaceId agentHost : String)
  | app (workspaceId workspaceName workspaceOwner : String) (row : AppRow)
deriving DecidableEq, Repr

/-- The state of `WorkspaceDetailPage.qml`. -/
structure WorkspaceDetailPage where
  workspaceId : String
  workspaceName : String
  workspaceOwner : String
  workspaceStatus : String
  workspaceOutdated : Bool
  agents : List AgentRow
  apps : List AppRow
  detailLoading : Bool
  errorMessage : String
  /-- `stopConfirmDialog` is open. -/
  confirming : Bool
  selectedTerminalAgentId : String
  selectedFileBrowserAgentHost : String
  /-- What `selectedAppSlug` and its companions were set to. -/
  selectedApp : Option AppRow
deriving DecidableEq, Repr

/-- Clicks on a detail page; agents and apps are numbered as they are listed. -/
inductive PageEvent where
  | back
  | toggle
  | stopAccepted
  | stopRejected
  | update
  | terminal (agent : Nat)
  | terminalClosed
  | browseFiles (agent : Nat) (vpnConnected : Bool)
  | filesClosed
  | app (app : Nat)
  | appClosed
  | openInBrowser (app : Nat)
deriving DecidableEq, Repr

/-- What a click leaves of the page, and what it asks for. -/
structure Clicked where
  page : Option WorkspaceDetailPage
  builds : List Build
  opened : List Opened

namespace WorkspaceDetailPage

variable (page : WorkspaceDetailPage)

/-- The page the loader creates for a row; its first act is to ask for the details. -/
def new (row : WorkspaceInfo) : WorkspaceDetailPage where
  workspaceId := row.id
  workspaceName := row.name
  workspaceOwner := row.ownerName
  workspaceStatus := statusToString row.status
  workspaceOutdated := row.outdated
  agents := []
  apps := []
  detailLoading := true
  errorMessage := ""
  confirming := false
  selectedTerminalAgentId := ""
  selectedFileBrowserAgentHost := ""
  selectedApp := none

/-- The page shows the agents, apps and status of the reply. -/
def onWorkspaceDetailReceived (workspace : WorkspaceDetail) : WorkspaceDetailPage :=
  { page with
    detailLoading := false
    errorMessage := ""
    agents := workspace.agentRows
    apps := workspace.appRows
    workspaceStatus := capitalised (orElse workspace.status page.workspaceStatus) }

/-- An error of a workspace request is shown. -/
def onRequestFailed (endpoint errorMsg : String) : WorkspaceDetailPage :=
  if "workspace".toList <:+: endpoint.toList then { page with errorMessage := errorMsg } else page

/-- The host name an agent is reached under. -/
def agentHost (agent : AgentRow) (workspaceName workspaceOwner : String) : String :=
  agent.agentName ++ "." ++ workspaceName ++ "." ++ workspaceOwner ++ ".coder"

/-- The page after the click alone. -/
def showing : Clicked := ⟨some page, [], []⟩

/-- A click that asks for a build. -/
def building (transition : Transition) : Clicked :=
  ⟨some page, [⟨page.workspaceId, transition⟩], []⟩

/-- A page is loaded over the detail page if its key is not empty. -/
def opening (key : String) (opened : Opened) : Clicked :=
  ⟨some page, [], if key = "" then [] else [opened]⟩

/-- A disabled control takes no click. `updateWorkspace` is `startWorkspace`. -/
def click : PageEvent → Option Clicked
  | .back => some ⟨none, [], []⟩
  | .toggle =>
      if page.workspaceStatus = "Running" then some { page with confirming := true }.showing
      else if page.workspaceStatus = "Stopped" then some (page.building .start)
      else none
  | .stopAccepted =>
      if page.confirming then some ({ page with confirming := false }.building .stop) else none
  | .stopRejected => some { page with confirming := false }.showing
  | .update => if page.workspaceOutdated then some (page.building .start) else none
  | .terminal agent =>
      page.agents[agent]?.bind fun row =>
        if row.agentStatus = "connected" then
          some ({ page with selectedTerminalAgentId := row.agentId }.opening row.agentId
            (.terminal page.workspaceId row.agentId))
        else none
  | .terminalClosed => some { page with selectedTerminalAgentId := "" }.showing
  | .browseFiles agent vpnConnected =>
      page.agents[agent]?.bind fun row =>
        if row.agentStatus = "connected" ∧ vpnConnected then
          let host := agentHost row page.workspaceName page.workspaceOwner
          some ({ page with selectedFileBrowserAgentHost := host }.opening host
            (.files page.workspaceId host))
        else none
  | .filesClosed => some { page with selectedFileBrowserAgentHost := "" }.showing
  | .app app =>
      page.apps[app]?.bind fun row =>
        if row.appUrl ≠ "" then
          some ({ page with selectedApp := some row }.opening row.appSlug
            (.app page.workspaceId page.workspaceName page.workspaceOwner row))
        else none
  | .appClosed => some { page with selectedApp := none }.showing
  | .openInBrowser app =>
      page.apps[app]?.map fun row =>
        ⟨some page, [], [.app page.workspaceId page.workspaceName page.workspaceOwner row]⟩

end WorkspaceDetailPage

/-! ## The list and the client -/

/-- The list with its loader, and the requests of the client they use. -/
structure WorkspacesPage where
  detail : Option WorkspaceDetailPage
  /-- The detail requests under way, by the workspace asked for. -/
  requests : List String
  /-- The builds under way. -/
  builds : List Build
  /-- The rows that were clicked on. -/
  clicked : List WorkspaceInfo
  /-- The details received, by the workspace asked for. -/
  answered : List (String × WorkspaceDetail)
  opened : List Opened
  requested : List Build

/-- What is done to the list and its page, and the replies. Delete, in the menu of a row, is left
out: it builds nothing, and when it fails it is a request of another kind. -/
inductive WorkspacesEvent where
  | select (row : WorkspaceInfo)
  /-- The button of a row, to start or stop it. -/
  | toggle (row : WorkspaceInfo)
  | updateAndStart (row : WorkspaceInfo)
  /-- In the menu of a row. -/
  | update (row : WorkspaceInfo)
  | page (event : PageEvent)
  | detailReply (request : Nat) (reply : Except String WorkspaceDetail)
  | buildReply (build : Nat) (error : Option String)
  /-- A request of another kind fails. -/
  | requestFailed (endpoint errorMsg : String)

namespace WorkspacesPage

/-- No row is shown and no page is open. -/
def new : WorkspacesPage := ⟨none, [], [], [], [], [], []⟩

variable (world : WorkspacesPage)

/-- Builds are asked for. -/
def createBuilds (builds : List Build) : WorkspacesPage :=
  { world with builds := world.builds ++ builds, requested := world.requested ++ builds }

/-- The loader is active when the id is not empty. -/
def select (row : WorkspaceInfo) : WorkspacesPage :=
  let clicked := { world with clicked := world.clicked ++ [row] }
  if row.id = "" then clicked
  else { clicked with detail := some (.new row), requests := world.requests ++ [row.id] }

/-- The button of a row: stop what runs, start what is stopped and not outdated. -/
def toggle (row : WorkspaceInfo) : Option WorkspacesPage :=
  let clicked := { world with clicked := world.clicked ++ [row] }
  match row.status with
  | .running => some (clicked.createBuilds [⟨row.id, .stop⟩])
  | .stopped =>
      if row.outdated then none else some (clicked.createBuilds [⟨row.id, .start⟩])
  | _ => none

/-- `updateWorkspace` is `startWorkspace`, so the workspace is started twice. -/
def updateAndStart (row : WorkspaceInfo) : Option WorkspacesPage :=
  if row.outdated ∧ row.status = .stopped then
    some ({ world with clicked := world.clicked ++ [row] }.createBuilds
      [⟨row.id, .start⟩, ⟨row.id, .start⟩])
  else none

/-- The menu item is enabled for an outdated row, whatever its status. -/
def update (row : WorkspaceInfo) : Option WorkspacesPage :=
  if row.outdated then
    some ({ world with clicked := world.clicked ++ [row] }.createBuilds [⟨row.id, .start⟩])
  else none

/-- What a click on the page does. -/
def apply (outcome : Clicked) : WorkspacesPage :=
  { world.createBuilds outcome.builds with
    detail := outcome.page
    opened := world.opened ++ outcome.opened }

/-- An open page asks for its details anew. -/
def loadDetail : WorkspacesPage :=
  match world.detail with
  | none => world
  | some page =>
      { world with
        detail := some { page with detailLoading := true }
        requests := world.requests ++ [page.workspaceId] }

/-- An error reaches the page, where one is open. -/
def requestFailed (endpoint errorMsg : String) : WorkspacesPage :=
  { world with detail := world.detail.map fun page => page.onRequestFailed endpoint errorMsg }

/-- The reply to a request for the details, or its error. -/
def detailReply (workspaceId : String) : Except String WorkspaceDetail → WorkspacesPage
  | .error errorMsg => world.requestFailed ("/api/v2/workspaces/" ++ workspaceId) errorMsg
  | .ok workspace =>
      { world with
        detail := world.detail.map fun page => page.onWorkspaceDetailReceived workspace
        answered := world.answered ++ [(workspaceId, workspace)] }

/-- After a build the details are asked for again; an error reaches the page. -/
def buildReply (build : Build) : Option String → WorkspacesPage
  | some errorMsg =>
      world.requestFailed ("/api/v2/workspaces/" ++ build.workspaceId ++ "/builds") errorMsg
  | none => world.loadDetail

/-- A detail page covers the list. -/
def next : WorkspacesEvent → Option WorkspacesPage
  | .select row => if world.detail = none then some (world.select row) else none
  | .toggle row => if world.detail = none then world.toggle row else none
  | .updateAndStart row => if world.detail = none then world.updateAndStart row else none
  | .update row => if world.detail = none then world.update row else none
  | .page event => world.detail.bind fun page => (page.click event).map world.apply
  | .detailReply request reply =>
      world.requests[request]?.map fun workspaceId =>
        { world with requests := world.requests.eraseIdx request }.detailReply workspaceId reply
  | .buildReply build error =>
      world.builds[build]?.map fun entry =>
        { world with builds := world.builds.eraseIdx build }.buildReply entry error
  | .requestFailed endpoint errorMsg => some (world.requestFailed endpoint errorMsg)

/-! ## What belongs to a workspace -/

/-- The list or the details of the workspace have shown the status. -/
def HasShown (workspaceId status : String) : Prop :=
  (∃ row ∈ world.clicked, row.id = workspaceId ∧ statusToString row.status = status) ∨
    ∃ workspace, (workspaceId, workspace) ∈ world.answered ∧ workspace.status ≠ "" ∧
      capitalised workspace.status = status

/-- A build follows what was shown of its workspace. -/
def Warranted (build : Build) : Prop :=
  match build.transition with
  | .stop => world.HasShown build.workspaceId "Running"
  | .start =>
      world.HasShown build.workspaceId "Stopped" ∨
        ∃ row ∈ world.clicked, row.id = build.workspaceId ∧ row.outdated = true

/-- What was opened is listed in the details received for the workspace. -/
def Belongs : Opened → Prop
  | .terminal workspaceId agentId =>
      ∃ workspace, (workspaceId, workspace) ∈ world.answered ∧
        ∃ agent ∈ workspace.agentRows,
          agent.agentId = agentId ∧ agent.agentStatus = "connected"
  | .files workspaceId agentHost =>
      ∃ row ∈ world.clicked, row.id = workspaceId ∧
        ∃ workspace, (workspaceId, workspace) ∈ world.answered ∧
          ∃ agent ∈ workspace.agentRows, agent.agentStatus = "connected" ∧
            agentHost = WorkspaceDetailPage.agentHost agent row.name row.ownerName
  | .app workspaceId workspaceName workspaceOwner app =>
      ∃ row ∈ world.clicked, row.id = workspaceId ∧ row.name = workspaceName ∧
        row.ownerName = workspaceOwner ∧
          ∃ workspace, (workspaceId, workspace) ∈ world.answered ∧ app ∈ workspace.appRows

/-- A workspace is opened when the details under way, if any, are its own. -/
def Patient : WorkspacesEvent → Prop
  | .select row => ∀ workspaceId ∈ world.requests, workspaceId = row.id
  | .toggle _ | .updateAndStart _ | .update _ | .page _ | .detailReply _ _ | .buildReply _ _
  | .requestFailed _ _ => True

instance (world : WorkspacesPage) (event : WorkspacesEvent) : Decidable (world.Patient event) := by
  cases event <;> unfold Patient <;> infer_instance

end WorkspacesPage

/-! ## What a page leaves as it is -/

/-- The pages show the same. -/
structure WorkspaceDetailPage.ShowsSame (page after : WorkspaceDetailPage) : Prop where
  workspaceId : after.workspaceId = page.workspaceId
  workspaceName : after.workspaceName = page.workspaceName
  workspaceOwner : after.workspaceOwner = page.workspaceOwner
  workspaceStatus : after.workspaceStatus = page.workspaceStatus
  workspaceOutdated : after.workspaceOutdated = page.workspaceOutdated
  agents : after.agents = page.agents
  apps : after.apps = page.apps

/-- What a click may open from the page. -/
def WorkspaceDetailPage.Offers (page : WorkspaceDetailPage) : Opened → Prop
  | .terminal workspaceId agentId =>
      workspaceId = page.workspaceId ∧
        ∃ agent ∈ page.agents, agent.agentId = agentId ∧ agent.agentStatus = "connected"
  | .files workspaceId agentHost =>
      workspaceId = page.workspaceId ∧
        ∃ agent ∈ page.agents, agent.agentStatus = "connected" ∧
          agentHost =
            WorkspaceDetailPage.agentHost agent page.workspaceName page.workspaceOwner
  | .app workspaceId workspaceName workspaceOwner app =>
      workspaceId = page.workspaceId ∧ workspaceName = page.workspaceName ∧
        workspaceOwner = page.workspaceOwner ∧ app ∈ page.apps

/-- The build a click may ask for on the page. -/
def WorkspaceDetailPage.Allows (page : WorkspaceDetailPage) (build : Build) : Prop :=
  build.workspaceId = page.workspaceId ∧
    match build.transition with
    | .stop => page.confirming = true
    | .start => page.workspaceStatus = "Stopped" ∨ page.workspaceOutdated = true

/-- A click does not change what is shown, and does what the page offers. -/
structure WorkspaceDetailPage.Answers (page : WorkspaceDetailPage) (outcome : Clicked) : Prop where
  shows : ∀ after ∈ outcome.page, page.ShowsSame after
  confirming : ∀ after ∈ outcome.page, after.confirming = true →
    page.confirming = true ∨ page.workspaceStatus = "Running"
  builds : ∀ build ∈ outcome.builds, page.Allows build
  opened : ∀ opened ∈ outcome.opened, page.Offers opened

namespace WorkspaceDetailPage

variable {page after : WorkspaceDetailPage}

/-- A page shows the same as itself. -/
theorem ShowsSame.refl (page : WorkspaceDetailPage) : page.ShowsSame page :=
  ⟨rfl, rfl, rfl, rfl, rfl, rfl, rfl⟩

/-- A click that only shows something is answered. -/
theorem answers_showing (shows : page.ShowsSame after)
    (confirming : after.confirming = true →
      page.confirming = true ∨ page.workspaceStatus = "Running") :
    page.Answers after.showing := by
  refine ⟨?_, ?_, nofun, nofun⟩
  · rintro _ ⟨⟩
    exact shows
  · rintro _ ⟨⟩
    exact confirming

/-- A click that builds is answered if the page allows the build. -/
theorem answers_building (shows : page.ShowsSame after)
    (confirming : after.confirming = true → page.confirming = true) {transition : Transition}
    (allows : page.Allows ⟨page.workspaceId, transition⟩) :
    page.Answers (after.building transition) := by
  refine ⟨?_, ?_, ?_, nofun⟩
  · rintro _ ⟨⟩
    exact shows
  · rintro _ ⟨⟩ still
    exact .inl (confirming still)
  · intro build member
    obtain rfl := List.mem_singleton.mp member
    rw [shows.workspaceId]
    exact allows

/-- A click that opens something is answered if the page offers it. -/
theorem answers_opening (shows : page.ShowsSame after)
    (confirming : after.confirming = page.confirming) {key : String} {opened : Opened}
    (offers : page.Offers opened) : page.Answers (after.opening key opened) := by
  refine ⟨?_, ?_, nofun, ?_⟩
  · rintro _ ⟨⟩
    exact shows
  · rintro _ ⟨⟩ still
    exact .inl (confirming ▸ still)
  · intro other member
    simp only [opening] at member
    split at member
    · cases member
    · obtain rfl := List.mem_singleton.mp member
      exact offers

/-- Every click is answered in one of these ways. -/
theorem answers_of_click {event : PageEvent} {outcome : Clicked}
    (taken : page.click event = some outcome) : page.Answers outcome := by
  cases event with
  | back =>
      obtain rfl := Option.some.inj taken
      exact ⟨nofun, nofun, nofun, nofun⟩
  | toggle =>
      simp only [click] at taken
      split at taken
      · rename_i running
        obtain rfl := Option.some.inj taken
        exact answers_showing ⟨rfl, rfl, rfl, rfl, rfl, rfl, rfl⟩ fun _ => .inr running
      · obtain ⟨stopped, rfl⟩ := of_guarded taken
        exact answers_building (.refl page) id ⟨rfl, .inl stopped⟩
  | stopAccepted =>
      obtain ⟨confirming, rfl⟩ := of_guarded taken
      refine answers_building ?_ ?_ ?_
      · exact ⟨rfl, rfl, rfl, rfl, rfl, rfl, rfl⟩
      · exact nofun
      · exact ⟨rfl, confirming⟩
  | stopRejected =>
      obtain rfl := Option.some.inj taken
      exact answers_showing ⟨rfl, rfl, rfl, rfl, rfl, rfl, rfl⟩ nofun
  | update =>
      obtain ⟨outdated, rfl⟩ := of_guarded taken
      exact answers_building (.refl page) id ⟨rfl, .inr outdated⟩
  | terminal agent =>
      obtain ⟨row, found, taken⟩ := Option.bind_eq_some_iff.mp taken
      obtain ⟨connected, rfl⟩ := of_guarded taken
      refine answers_opening ?_ ?_ ?_
      · exact ⟨rfl, rfl, rfl, rfl, rfl, rfl, rfl⟩
      · rfl
      · exact ⟨rfl, row, List.mem_of_getElem? found, rfl, connected⟩
  | browseFiles agent vpnConnected =>
      obtain ⟨row, found, taken⟩ := Option.bind_eq_some_iff.mp taken
      obtain ⟨⟨connected, -⟩, rfl⟩ := of_guarded taken
      refine answers_opening ?_ ?_ ?_
      · exact ⟨rfl, rfl, rfl, rfl, rfl, rfl, rfl⟩
      · rfl
      · exact ⟨rfl, row, List.mem_of_getElem? found, connected, rfl⟩
  | app app =>
      obtain ⟨row, found, taken⟩ := Option.bind_eq_some_iff.mp taken
      obtain ⟨-, rfl⟩ := of_guarded taken
      refine answers_opening ?_ ?_ ?_
      · exact ⟨rfl, rfl, rfl, rfl, rfl, rfl, rfl⟩
      · rfl
      · exact ⟨rfl, rfl, rfl, List.mem_of_getElem? found⟩
  | openInBrowser app =>
      obtain ⟨row, found, rfl⟩ := Option.map_eq_some_iff.mp taken
      refine ⟨?_, ?_, nofun, ?_⟩
      · rintro _ ⟨⟩
        exact .refl page
      · rintro _ ⟨⟩ still
        exact .inl still
      · intro opened member
        obtain rfl := List.mem_singleton.mp member
        exact ⟨rfl, rfl, rfl, List.mem_of_getElem? found⟩
  | terminalClosed | filesClosed | appClosed =>
      obtain rfl := Option.some.inj taken
      exact answers_showing ⟨rfl, rfl, rfl, rfl, rfl, rfl, rfl⟩ .inl

end WorkspaceDetailPage

/-! ## What a page shows is of its workspace -/

/-- An upper-case letter is none of those that have one. -/
theorem not_lower_toUpper (char : Char) :
    ¬ ('a'.val ≤ char.toUpper.val ∧ char.toUpper.val ≤ 'z'.val) := by
  delta Char.toUpper
  split
  · rename_i lower
    rintro ⟨above, -⟩
    have high : char.val.toNat ≤ 122 := UInt32.le_iff_toNat_le.mp lower.2
    have low : 97 ≤ char.val.toNat := UInt32.le_iff_toNat_le.mp lower.1
    have bound := UInt32.le_iff_toNat_le.mp above
    -- The sum wraps around.
    rw [UInt32.toNat_add] at bound
    have shift : ('A'.val - 'a'.val).toNat = 4294967264 := by decide
    have first : 'a'.val.toNat = 97 := by decide
    rw [shift, first] at bound
    omega
  · assumption

/-- Capitalising twice is capitalising once. -/
theorem capitalised_capitalised (text : String) :
    capitalised (capitalised text) = capitalised text := by
  unfold capitalised
  cases text.toList with
  | nil => rfl
  | cons first rest =>
      have upper : first.toUpper.toUpper = first.toUpper := dif_neg (not_lower_toUpper first)
      simp only [String.toList_ofList, upper]

/-- The model's texts are capitalised. -/
theorem capitalised_statusToString (status : WorkspaceStatus) :
    capitalised (statusToString status) = statusToString status := by
  cases status <;> decide

namespace WorkspacesPage

/-- The histories that statuses and listings are looked up in only grow. -/
structure Grows (world after : WorkspacesPage) : Prop where
  clicked : ∀ row ∈ world.clicked, row ∈ after.clicked
  answered : ∀ entry ∈ world.answered, entry ∈ after.answered

variable {world after : WorkspacesPage} {page : WorkspaceDetailPage}

/-- What does not change grows. -/
theorem Grows.of_eq (clicked : after.clicked = world.clicked)
    (answered : after.answered = world.answered) : world.Grows after :=
  ⟨fun _ member => clicked ▸ member, fun _ member => answered ▸ member⟩

/-- What was shown stays shown. -/
theorem HasShown.mono (grows : world.Grows after) {workspaceId status : String}
    (shown : world.HasShown workspaceId status) : after.HasShown workspaceId status := by
  rcases shown with ⟨row, clicked, same⟩ | ⟨workspace, answered, same⟩
  · exact .inl ⟨row, grows.clicked row clicked, same⟩
  · exact .inr ⟨workspace, grows.answered _ answered, same⟩

/-- What was warranted stays warranted. -/
theorem Warranted.mono (grows : world.Grows after) {build : Build}
    (warranted : world.Warranted build) : after.Warranted build := by
  unfold Warranted at *
  cases transition : build.transition with
  | stop =>
      rw [transition] at warranted
      exact HasShown.mono grows warranted
  | start =>
      rw [transition] at warranted
      rcases warranted with shown | ⟨row, clicked, outdated⟩
      · exact .inl (HasShown.mono grows shown)
      · exact .inr ⟨row, grows.clicked row clicked, outdated⟩

/-- What belongs goes on belonging. -/
theorem Belongs.mono (grows : world.Grows after) {opened : Opened}
    (belongs : world.Belongs opened) : after.Belongs opened := by
  cases opened with
  | terminal workspaceId agentId =>
      obtain ⟨workspace, answered, listed⟩ := belongs
      exact ⟨workspace, grows.answered _ answered, listed⟩
  | files workspaceId agentHost =>
      obtain ⟨row, clicked, own, workspace, answered, listed⟩ := belongs
      exact ⟨row, grows.clicked row clicked, own, workspace, grows.answered _ answered, listed⟩
  | app workspaceId workspaceName workspaceOwner app =>
      obtain ⟨row, clicked, own, name, owner, workspace, answered, listed⟩ := belongs
      exact ⟨row, grows.clicked row clicked, own, name, owner, workspace,
        grows.answered _ answered, listed⟩

/-- What a page shows was clicked on in the list, or received for its workspace. -/
structure Fits (world : WorkspacesPage) (page : WorkspaceDetailPage) : Prop where
  row : ∃ row ∈ world.clicked, row.id = page.workspaceId ∧ row.name = page.workspaceName ∧
    row.ownerName = page.workspaceOwner ∧ row.outdated = page.workspaceOutdated
  agents : ∀ agent ∈ page.agents, ∃ workspace, (page.workspaceId, workspace) ∈ world.answered ∧
    agent ∈ workspace.agentRows
  apps : ∀ app ∈ page.apps, ∃ workspace, (page.workspaceId, workspace) ∈ world.answered ∧
    app ∈ workspace.appRows
  status : world.HasShown page.workspaceId page.workspaceStatus
  confirmed : page.confirming = true → world.HasShown page.workspaceId "Running"

/-- What fits goes on fitting. -/
theorem Fits.mono (grows : world.Grows after) (fits : world.Fits page) : after.Fits page where
  row := by
    obtain ⟨row, clicked, same⟩ := fits.row
    exact ⟨row, grows.clicked row clicked, same⟩
  agents agent member := by
    obtain ⟨workspace, answered, listed⟩ := fits.agents agent member
    exact ⟨workspace, grows.answered _ answered, listed⟩
  apps app member := by
    obtain ⟨workspace, answered, listed⟩ := fits.apps app member
    exact ⟨workspace, grows.answered _ answered, listed⟩
  status := fits.status.mono grows
  confirmed confirming := (fits.confirmed confirming).mono grows

/-- A page that shows the same as one that fits does, too. -/
theorem Fits.of_same {shown : WorkspaceDetailPage} (fits : world.Fits page)
    (same : page.ShowsSame shown)
    (confirming : shown.confirming = true →
      page.confirming = true ∨ page.workspaceStatus = "Running") : world.Fits shown where
  row := by
    rw [same.workspaceId, same.workspaceName, same.workspaceOwner, same.workspaceOutdated]
    exact fits.row
  agents := by
    rw [same.workspaceId, same.agents]
    exact fits.agents
  apps := by
    rw [same.workspaceId, same.apps]
    exact fits.apps
  status := by
    rw [same.workspaceId, same.workspaceStatus]
    exact fits.status
  confirmed asked := by
    rw [same.workspaceId]
    rcases confirming asked with before | running
    · exact fits.confirmed before
    · exact running ▸ fits.status

/-- A page that is opened for a row fits. -/
theorem fits_new {row : WorkspaceInfo} (clicked : row ∈ world.clicked) :
    world.Fits (.new row) where
  row := ⟨row, clicked, rfl, rfl, rfl, rfl⟩
  agents := nofun
  apps := nofun
  status := .inl ⟨row, clicked, rfl, rfl⟩
  confirmed := nofun

/-- A status that was shown is capitalised. -/
theorem HasShown.capitalised_eq {workspaceId status : String}
    (shown : world.HasShown workspaceId status) : capitalised status = status := by
  rcases shown with ⟨row, -, -, rfl⟩ | ⟨workspace, -, -, rfl⟩
  · exact capitalised_statusToString row.status
  · exact capitalised_capitalised workspace.status

/-- A page takes in a reply to a request for its own workspace. -/
theorem Fits.received (fits : world.Fits page) {workspace : WorkspaceDetail}
    (answered : (page.workspaceId, workspace) ∈ world.answered) :
    world.Fits (page.onWorkspaceDetailReceived workspace) where
  row := fits.row
  agents _ member := ⟨workspace, answered, member⟩
  apps _ member := ⟨workspace, answered, member⟩
  status := by
    change world.HasShown page.workspaceId (capitalised (orElse workspace.status _))
    unfold orElse
    split
    · rw [fits.status.capitalised_eq]
      exact fits.status
    · rename_i told
      exact .inr ⟨workspace, answered, told, rfl⟩
  confirmed := fits.confirmed

/-- An error leaves the page fitting. -/
theorem Fits.requestFailed (fits : world.Fits page) (endpoint errorMsg : String) :
    world.Fits (page.onRequestFailed endpoint errorMsg) := by
  unfold WorkspaceDetailPage.onRequestFailed
  split
  · exact fits.of_same ⟨rfl, rfl, rfl, rfl, rfl, rfl, rfl⟩ .inl
  · exact fits

/-- A build that a fitting page allows is warranted. -/
theorem Fits.warranted (fits : world.Fits page) {build : Build} (allows : page.Allows build) :
    world.Warranted build := by
  obtain ⟨workspaceId, transition⟩ := build
  obtain ⟨rfl, allowed⟩ := allows
  cases transition with
  | stop => exact fits.confirmed allowed
  | start =>
      rcases allowed with stopped | outdated
      · exact .inl (stopped ▸ fits.status)
      · obtain ⟨row, clicked, own, -, -, same⟩ := fits.row
        exact .inr ⟨row, clicked, own, same.trans outdated⟩

/-- What a fitting page offers belongs to its workspace. -/
theorem Fits.belongs (fits : world.Fits page) {opened : Opened} (offers : page.Offers opened) :
    world.Belongs opened := by
  cases opened with
  | terminal workspaceId agentId =>
      obtain ⟨rfl, agent, member, same, connected⟩ := offers
      obtain ⟨workspace, answered, listed⟩ := fits.agents agent member
      exact ⟨workspace, answered, agent, listed, same, connected⟩
  | files workspaceId agentHost =>
      obtain ⟨rfl, agent, member, connected, rfl⟩ := offers
      obtain ⟨workspace, answered, listed⟩ := fits.agents agent member
      obtain ⟨row, clicked, own, name, owner, -⟩ := fits.row
      rw [← name, ← owner]
      exact ⟨row, clicked, own, workspace, answered, agent, listed, connected, rfl⟩
  | app workspaceId workspaceName workspaceOwner app =>
      obtain ⟨rfl, rfl, rfl, member⟩ := offers
      obtain ⟨workspace, answered, listed⟩ := fits.apps app member
      obtain ⟨row, clicked, own, name, owner, -⟩ := fits.row
      exact ⟨row, clicked, own, name, owner, workspace, answered, listed⟩

end WorkspacesPage

/-! ## Runs -/

namespace WorkspacesPage

/-- Everything done so far is in order, and what is under way is for the open page. -/
structure Sound (world : WorkspacesPage) : Prop where
  fits : ∀ page ∈ world.detail, world.Fits page
  own : ∀ page ∈ world.detail, ∀ workspaceId ∈ world.requests, workspaceId = page.workspaceId
  opened : ∀ opened ∈ world.opened, world.Belongs opened
  requested : ∀ build ∈ world.requested, world.Warranted build

variable {world after : WorkspacesPage}

/-- Nothing was clicked at first. -/
theorem sound_new : Sound new := ⟨nofun, nofun, nofun, nofun⟩

/-- The histories carry over; what is new is to be looked at. -/
theorem Sound.grow (sound : world.Sound) (grows : world.Grows after)
    (fits : ∀ page ∈ after.detail, after.Fits page)
    (own : ∀ page ∈ after.detail, ∀ workspaceId ∈ after.requests, workspaceId = page.workspaceId)
    {opened : List Opened} (openedAfter : after.opened = world.opened ++ opened)
    (belong : ∀ entry ∈ opened, after.Belongs entry) {builds : List Build}
    (requestedAfter : after.requested = world.requested ++ builds)
    (warranted : ∀ build ∈ builds, after.Warranted build) : after.Sound where
  fits := fits
  own := own
  opened entry member := by
    rw [openedAfter, List.mem_append] at member
    exact member.elim (fun before => (sound.opened entry before).mono grows) (belong entry)
  requested build member := by
    rw [requestedAfter, List.mem_append] at member
    exact member.elim (fun before => (sound.requested build before).mono grows) (warranted build)

/-- A step that opens nothing and builds nothing. -/
theorem Sound.carry (sound : world.Sound) (grows : world.Grows after)
    (fits : ∀ page ∈ after.detail, after.Fits page)
    (own : ∀ page ∈ after.detail, ∀ workspaceId ∈ after.requests, workspaceId = page.workspaceId)
    (opened : after.opened = world.opened) (requested : after.requested = world.requested) :
    after.Sound :=
  sound.grow grows fits own (opened.trans (List.append_nil _).symm) nofun
    (requested.trans (List.append_nil _).symm) nofun

/-- A click is remembered. -/
theorem grows_click (world : WorkspacesPage) (row : WorkspaceInfo) :
    world.Grows { world with clicked := world.clicked ++ [row] } :=
  ⟨fun _ member => List.mem_append_left _ member, fun _ member => member⟩

/-- Opening a page keeps the books, if no other reply is waited for. -/
theorem Sound.select (sound : world.Sound) (row : WorkspaceInfo)
    (patient : ∀ workspaceId ∈ world.requests, workspaceId = row.id)
    (covered : world.detail = none) : (world.select row).Sound := by
  have grows := grows_click world row
  unfold WorkspacesPage.select
  dsimp only
  split
  · refine sound.carry grows ?_ ?_ rfl rfl
    · simp [covered]
    · simp [covered]
  · refine sound.carry ⟨grows.clicked, grows.answered⟩ ?_ ?_ rfl rfl
    · rintro page ⟨⟩
      exact fits_new (List.mem_append_right _ (List.mem_singleton_self row))
    · rintro page ⟨⟩ workspaceId member
      rcases List.mem_append.mp member with before | same
      · exact patient workspaceId before
      · exact List.mem_singleton.mp same

/-- Builds asked for in the list, of a row that was clicked on. -/
theorem Sound.createBuilds (sound : world.Sound) (row : WorkspaceInfo) (builds : List Build)
    (covered : world.detail = none)
    (warranted : ∀ build ∈ builds,
      Warranted { world with clicked := world.clicked ++ [row] } build) :
    (createBuilds { world with clicked := world.clicked ++ [row] } builds).Sound := by
  have grows := grows_click world row
  refine sound.grow ⟨grows.clicked, grows.answered⟩ ?_ ?_ (List.append_nil _).symm nofun rfl ?_
  · simp [WorkspacesPage.createBuilds, covered]
  · simp [WorkspacesPage.createBuilds, covered]
  · exact fun build member => (warranted build member).mono (.of_eq rfl rfl)

/-- A row's button keeps the books. -/
theorem Sound.toggle (sound : world.Sound) {row : WorkspaceInfo} (covered : world.detail = none)
    (taken : world.toggle row = some after) : after.Sound := by
  have clicked : row ∈ world.clicked ++ [row] :=
    List.mem_append_right _ (List.mem_singleton_self row)
  unfold WorkspacesPage.toggle at taken
  dsimp only at taken
  split at taken
  · rename_i running
    obtain rfl := Option.some.inj taken
    refine sound.createBuilds row _ covered fun build member => ?_
    obtain rfl := List.mem_singleton.mp member
    exact .inl ⟨row, clicked, rfl, congrArg statusToString running⟩
  · rename_i stopped
    obtain ⟨-, taken⟩ := Option.ite_none_left_eq_some.mp taken
    obtain rfl := Option.some.inj taken
    refine sound.createBuilds row _ covered fun build member => ?_
    obtain rfl := List.mem_singleton.mp member
    exact .inl (.inl ⟨row, clicked, rfl, congrArg statusToString stopped⟩)
  · cases taken

/-- An update with a start keeps the books. -/
theorem Sound.updateAndStart (sound : world.Sound) {row : WorkspaceInfo}
    (covered : world.detail = none) (taken : world.updateAndStart row = some after) :
    after.Sound := by
  obtain ⟨⟨outdated, -⟩, rfl⟩ := of_guarded taken
  refine sound.createBuilds row _ covered fun build member => ?_
  have clicked : row ∈ world.clicked ++ [row] :=
    List.mem_append_right _ (List.mem_singleton_self row)
  obtain rfl : build = ⟨row.id, .start⟩ := by simpa using member
  exact .inr ⟨row, clicked, rfl, outdated⟩

/-- An update of a row keeps the books. -/
theorem Sound.update (sound : world.Sound) {row : WorkspaceInfo}
    (covered : world.detail = none) (taken : world.update row = some after) : after.Sound := by
  obtain ⟨outdated, rfl⟩ := of_guarded taken
  refine sound.createBuilds row _ covered fun build member => ?_
  have clicked : row ∈ world.clicked ++ [row] :=
    List.mem_append_right _ (List.mem_singleton_self row)
  obtain rfl := List.mem_singleton.mp member
  exact .inr ⟨row, clicked, rfl, outdated⟩

/-- An answered click on the page keeps the books. -/
theorem Sound.apply (sound : world.Sound) {page : WorkspaceDetailPage}
    (shown : page ∈ world.detail) {outcome : Clicked} (answers : page.Answers outcome) :
    (world.apply outcome).Sound := by
  have fits := sound.fits page shown
  have grows : world.Grows (world.apply outcome) := .of_eq rfl rfl
  refine sound.grow grows ?_ ?_ rfl ?_ rfl ?_
  · intro next member
    exact (fits.of_same (answers.shows next member) (answers.confirming next member)).mono grows
  · intro next member workspaceId pending
    rw [(answers.shows next member).workspaceId]
    exact sound.own page shown workspaceId pending
  · exact fun entry member => (fits.belongs (answers.opened entry member)).mono grows
  · exact fun build member => (fits.warranted (answers.builds build member)).mono grows

/-- An error keeps the books. -/
theorem Sound.requestFailed (sound : world.Sound) (endpoint errorMsg : String) :
    (world.requestFailed endpoint errorMsg).Sound := by
  have grows : world.Grows (world.requestFailed endpoint errorMsg) := .of_eq rfl rfl
  refine sound.carry grows ?_ ?_ rfl rfl
  · intro page member
    obtain ⟨before, shown, rfl⟩ := Option.map_eq_some_iff.mp member
    exact ((sound.fits before shown).requestFailed endpoint errorMsg).mono grows
  · intro page member workspaceId pending
    obtain ⟨before, shown, rfl⟩ := Option.map_eq_some_iff.mp member
    have own := sound.own before shown workspaceId pending
    unfold WorkspaceDetailPage.onRequestFailed
    split
    · exact own
    · exact own

/-- A request for the details keeps the books. -/
theorem Sound.loadDetail (sound : world.Sound) : world.loadDetail.Sound := by
  unfold WorkspacesPage.loadDetail
  split
  · exact sound
  rename_i page shown
  refine sound.carry (.of_eq rfl rfl) ?_ ?_ rfl rfl
  · rintro _ ⟨⟩
    have fits : world.Fits { page with detailLoading := true } :=
      (sound.fits page shown).of_same ⟨rfl, rfl, rfl, rfl, rfl, rfl, rfl⟩ .inl
    exact ⟨fits.row, fits.agents, fits.apps, fits.status, fits.confirmed⟩
  · rintro _ ⟨⟩ workspaceId pending
    rcases List.mem_append.mp pending with before | same
    · exact sound.own page shown workspaceId before
    · exact List.mem_singleton.mp same

/-- The reply is for the page that is open, if there is one. -/
theorem Sound.detailReply (sound : world.Sound) {workspaceId : String}
    (own : ∀ page ∈ world.detail, workspaceId = page.workspaceId)
    (reply : Except String WorkspaceDetail) : (world.detailReply workspaceId reply).Sound := by
  cases reply with
  | error errorMsg => exact sound.requestFailed _ errorMsg
  | ok workspace =>
      have grows : world.Grows (world.detailReply workspaceId (.ok workspace)) :=
        ⟨fun _ member => member, fun _ member => List.mem_append_left _ member⟩
      refine sound.carry grows ?_ ?_ rfl rfl
      · intro page member
        obtain ⟨before, shown, rfl⟩ := Option.map_eq_some_iff.mp member
        refine ((sound.fits before shown).mono grows).received ?_
        rw [← own before shown]
        exact List.mem_append_right _ (List.mem_singleton_self _)
      · intro page member other pending
        obtain ⟨before, shown, rfl⟩ := Option.map_eq_some_iff.mp member
        exact sound.own before shown other pending

/-- Some requests are no longer under way. -/
theorem Sound.forget (sound : world.Sound) {requests : List String} {builds : List Build}
    (fewer : ∀ workspaceId ∈ requests, workspaceId ∈ world.requests) :
    Sound { world with requests := requests, builds := builds } := by
  have grows : world.Grows { world with requests := requests, builds := builds } :=
    .of_eq rfl rfl
  refine sound.carry grows ?_ ?_ rfl rfl
  · exact fun page shown => (sound.fits page shown).mono grows
  · exact fun page shown workspaceId pending =>
      sound.own page shown workspaceId (fewer workspaceId pending)

/-- Every patient event keeps the books. -/
theorem Sound.next (sound : world.Sound) {event : WorkspacesEvent} (patient : world.Patient event)
    (taken : world.next event = some after) : after.Sound := by
  cases event with
  | select row =>
      obtain ⟨covered, rfl⟩ := of_guarded taken
      exact sound.select row patient covered
  | toggle row =>
      obtain ⟨covered, taken⟩ := Option.ite_none_right_eq_some.mp taken
      exact sound.toggle covered taken
  | updateAndStart row =>
      obtain ⟨covered, taken⟩ := Option.ite_none_right_eq_some.mp taken
      exact sound.updateAndStart covered taken
  | update row =>
      obtain ⟨covered, taken⟩ := Option.ite_none_right_eq_some.mp taken
      exact sound.update covered taken
  | page event =>
      obtain ⟨page, shown, taken⟩ := Option.bind_eq_some_iff.mp taken
      obtain ⟨outcome, clicked, rfl⟩ := Option.map_eq_some_iff.mp taken
      exact sound.apply shown (WorkspaceDetailPage.answers_of_click clicked)
  | detailReply request reply =>
      obtain ⟨workspaceId, found, rfl⟩ := Option.map_eq_some_iff.mp taken
      have rest : Sound { world with requests := world.requests.eraseIdx request } :=
        sound.forget fun _ member => List.mem_of_mem_eraseIdx member
      refine rest.detailReply (fun page shown => ?_) reply
      exact sound.own page shown workspaceId (List.mem_of_getElem? found)
  | buildReply build error =>
      obtain ⟨entry, -, rfl⟩ := Option.map_eq_some_iff.mp taken
      have rest : Sound { world with builds := world.builds.eraseIdx build } :=
        sound.forget fun _ member => member
      cases error with
      | some errorMsg => exact rest.requestFailed _ errorMsg
      | none => exact rest.loadDetail
  | requestFailed endpoint errorMsg =>
      obtain rfl := Option.some.inj taken
      exact sound.requestFailed endpoint errorMsg

/-- Two workspaces with one agent each. -/
def row (id name : String) (status : WorkspaceStatus) : WorkspaceInfo :=
  ⟨id, name, "ann", "docker", "", status, true, false, false, 1, .connected, ""⟩

/-- A reply with one agent and one app. -/
def details (status agentId : String) : WorkspaceDetail :=
  ⟨status, [[⟨agentId, "main", "connected", [⟨"Code", "http://localhost", "code", false⟩]⟩]]⟩

/-- The first page is left before its reply comes: the second page shows the agents of the
first workspace, and its terminal is opened on one of them. -/
def leftEarly : List WorkspacesEvent :=
  [.select (row "1" "dev" .running), .page .back, .select (row "2" "web" .stopped),
    .detailReply 0 (.ok (details "running" "a")), .page (.terminal 0), .page .terminalClosed,
    .page .toggle, .page .stopAccepted]

/-- A page that is left before its reply. -/
theorem not_opened_belongs_leftEarly : ∃ world, Runs next new leftEarly world ∧
    ¬ ∀ opened ∈ world.opened, world.Belongs opened := by
  have reached : (replay next new leftEarly).any (fun world =>
      decide (world.opened = [.terminal "2" "a"] ∧
        world.answered = [("1", details "running" "a")])) = true := by
    decide +kernel
  obtain ⟨world, run, observed⟩ := runs_of_replay _ reached
  obtain ⟨opened, answered⟩ := of_decide_eq_true observed
  refine ⟨world, run, fun belong => ?_⟩
  obtain ⟨workspace, member, -⟩ := belong (.terminal "2" "a") (opened ▸ List.mem_singleton_self _)
  rw [answered, List.mem_singleton] at member
  exact absurd (Prod.mk.inj member).1 (by decide)

end WorkspacesPage

end CoderDesktop.Workspaces
