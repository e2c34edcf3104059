import Mathlib.Data.List.DropRight
import Mathlib.Data.List.Perm.Basic
import CoderDesktop.FileSync.RemoteDirectoryPicker
import CoderDesktop.FileSync.TransferPolicy
import CoderDesktop.Settings.LockedSettings

/-!
# The file browser

The page that shows the directories of an agent and asks the transfer manager for transfers.
Its requests share the API client with those of other dialogs: the page takes every listing of
its agent for an answer. Selected is an index, which keeps its place when a listing replaces the
contents. The policy is asked when a dialog is opened and not when it is accepted.
-/

namespace CoderDesktop.FileSync

open Semantics Settings

/-- The agent's reply: the directory and its entries. -/
structure DirectoryListing where
  absolutePathString : String
  contents : List DirectoryEntry
deriving DecidableEq, Repr

/-- The arguments of `AgentApiClient::listDirectory`. -/
structure AgentRequest where
  agentHostname : String
  segments : List (List Char)
  relativity : String
deriving DecidableEq, Repr

/-- The state of `FileBrowserPage.qml`. -/
structure FileBrowserPage where
  currentPath : String
  currentContents : List DirectoryEntry
  isLoading : Bool
  errorMessage : String
  /-- `none` is -1. -/
  selectedIndex : Option Nat
deriving DecidableEq, Repr

/-- The path of a breadcrumb. -/
def absolutePathUpTo (segments : List (List Char)) (index : Nat) : String :=
  String.ofList ('/' :: ['/'].intercalate (segments.take (index + 1)))

/-- The comparison of `sortedContents`: directories first. -/
def listedBefore (localeCompare : String → String → Int) (a b : DirectoryEntry) : Bool :=
  if a.isDir && !b.isDir then true
  else if !a.isDir && b.isDir then false
  else localeCompare a.name b.name ≤ 0

/-- The entries in the order they are shown. -/
def sortedContents (localeCompare : String → String → Int) (contents : List DirectoryEntry) :
    List DirectoryEntry :=
  contents.insertionSort fun a b => listedBefore localeCompare a b

/-- The path of a file URL. -/
def localPath (url : String) : String :=
  if "file:///".toList.isPrefixOf url.toList then String.ofList (url.toList.drop 7)
  else if "file://".toList.isPrefixOf url.toList then String.ofList (url.toList.drop 6)
  else url

/-- The directory with a slash at its end. -/
def slashed (directory : String) : String :=
  if directory.toList.getLast? = some '/' then directory
  else String.ofList (directory.toList ++ ['/'])

/-- `path.split("/").pop()` -/
def fileName (path : String) : List Char := path.toList.rtakeWhile (· ≠ '/')

namespace FileBrowserPage

/-- The page before its first request. -/
def new : FileBrowserPage := ⟨"", [], false, "", none⟩

variable (page : FileBrowserPage) (agentHostname : String)

/-- The segments of the shown path. -/
def cachedSegments : List (List Char) := pathSegments page.currentPath

/-- The page, and the request that is made. -/
def navigateTo (pathString : String) : FileBrowserPage × AgentRequest :=
  ({ page with selectedIndex := none, isLoading := true, errorMessage := "" },
    ⟨agentHostname, pathSegments pathString, "root"⟩)

/-- The home of the agent's user is asked for. -/
def navigateToRoot : FileBrowserPage × AgentRequest :=
  ({ page with selectedIndex := none, isLoading := true, errorMessage := "" },
    ⟨agentHostname, [], "home"⟩)

/-- The page shows the directory of the reply, sorted. -/
def onDirectoryListed (localeCompare : String → String → Int) (listing : DirectoryListing) :
    FileBrowserPage :=
  { page with
    isLoading := false
    errorMessage := ""
    currentPath := listing.absolutePathString
    currentContents := sortedContents localeCompare listing.contents }

/-- The page keeps what it shows and shows the error. -/
def onListDirectoryError (error : String) : FileBrowserPage :=
  { page with
    isLoading := false
    errorMessage := if error = "" then "Failed to list directory" else error }

/-- The entry at the selected index, where there is one. -/
def selected : Option DirectoryEntry :=
  page.selectedIndex.bind fun index => page.currentContents[index]?

/-- The file list can be seen, and clicked. -/
def ListVisible : Prop :=
  page.isLoading = false ∧ page.errorMessage = "" ∧ page.currentContents ≠ []

instance : Decidable page.ListVisible := inferInstanceAs (Decidable (_ ∧ _ ∧ _))

/-- Where a file is uploaded to: the directory selected, or that shown. -/
def uploadDirectory : String :=
  let shown := if page.currentPath = "" then "" else slashed page.currentPath
  match page.selected with
  | some entry => if entry.isDir then slashed entry.absolutePathString else shown
  | none => shown

end FileBrowserPage

/-! ## The page and what it talks to -/

/-- The native dialogs, which are modal. -/
inductive BrowserDialog where
  | closed
  | upload
  | download (remoteFilePath remoteFileName : String)
deriving DecidableEq, Repr

/-- The page, its requests and dialog, and the transfers it starts. -/
structure FileBrowser where
  page : FileBrowserPage
  /-- The requests of the API client that have no reply yet. -/
  outstanding : List AgentRequest
  dialog : BrowserDialog
  transfers : TransferWorld
  /-- History, not a field of the source: the entry that was selected last, and the listings
  of the agent. -/
  clicked : Option DirectoryEntry
  listings : List DirectoryListing

/-- What the user, the agent and the other parts of the application do. -/
inductive BrowserEvent where
  | up
  | root
  | segment (index : Nat)
  | retry
  | select (index : Nat)
  | doubleClick (index : Nat)
  | openFolder
  /-- In the action bar or the menu. -/
  | downloadClicked
  /-- At the top of the page or in the menu. -/
  | uploadClicked
  | fileAccepted (url : String) (fileSize : Option Int) (failsAtOnce : Bool)
  | folderAccepted (url : String) (failsAtOnce : Bool)
  | dismissed
  /-- Another dialog asks an agent. -/
  | otherRequest (request : AgentRequest)
  | directoryListed (request : Nat) (listing : DirectoryListing)
  | listDirectoryError (request : Nat) (error : String)
  | transfer (event : TransferEvent)

/-- The steps of settings and transfers that are not calls. -/
def ownTransfer : TransferEvent → Bool
  | .download _ _ _ _ | .upload _ _ _ _ _ => false
  | .settings _ | .cancelTransfer _ _ | .process _ _ | .removalTimer _ | .cleanupTimeout => true

namespace FileBrowser

variable (localeCompare : String → String → Int) (agentHostname : String)

/-- The page is created for an agent, while others have asked the API client. -/
def startup (settings : SettingsManager) (others : List AgentRequest) : FileBrowser :=
  let made := FileBrowserPage.new.navigateToRoot agentHostname
  ⟨made.1, others ++ [made.2], .closed, .startup settings, none, []⟩

variable (world : FileBrowser)

/-- A request of the page is sent. -/
def navigated (made : FileBrowserPage × AgentRequest) : FileBrowser :=
  { world with page := made.1, outstanding := world.outstanding ++ [made.2] }

/-- The folder dialog opens for an entry. -/
def offer (entry : DirectoryEntry) : FileBrowser :=
  { world with dialog := .download entry.absolutePathString entry.name }

/-- An accepted dialog calls the transfer manager. -/
def accepted (call : TransferEvent) : Option FileBrowser :=
  (world.transfers.next call).map fun transfers =>
    { world with dialog := .closed, transfers := transfers }

/-- What the page does; clicks do nothing while a dialog is open. -/
def next : BrowserEvent → Option FileBrowser
  | .up =>
      let segments := world.page.cachedSegments
      if world.dialog = .closed ∧ segments ≠ [] then
        some (world.navigated
          (if 1 < segments.length then
            world.page.navigateTo agentHostname (absolutePathUpTo segments (segments.length - 2))
          else world.page.navigateToRoot agentHostname))
      else none
  | .root =>
      if world.dialog = .closed then
        some (world.navigated (world.page.navigateToRoot agentHostname))
      else none
  | .segment index =>
      let segments := world.page.cachedSegments
      if world.dialog = .closed ∧ index + 1 < segments.length then
        some (world.navigated
          (world.page.navigateTo agentHostname (absolutePathUpTo segments index)))
      else none
  | .retry =>
      if world.dialog = .closed ∧ world.page.isLoading = false ∧ world.page.errorMessage ≠ "" then
        some (world.navigated
          (if world.page.currentPath ≠ "" then
            world.page.navigateTo agentHostname world.page.currentPath
          else world.page.navigateToRoot agentHostname))
      else none
  | .select index =>
      if world.dialog = .closed ∧ world.page.ListVisible then
        world.page.currentContents[index]?.map fun entry =>
          { world with
            page := { world.page with selectedIndex := some index }
            clicked := some entry }
      else none
  | .doubleClick index =>
      if world.dialog = .closed ∧ world.page.ListVisible then
        world.page.currentContents[index]?.map fun entry =>
          if entry.isDir then
            world.navigated (world.page.navigateTo agentHostname entry.absolutePathString)
          else if world.transfers.settings.disableFileDownload = false then world.offer entry
          else world
      else none
  | .openFolder =>
      if world.dialog = .closed then
        world.page.selected.bind fun entry =>
          if entry.isDir then
            some (world.navigated (world.page.navigateTo agentHostname entry.absolutePathString))
          else none
      else none
  | .downloadClicked =>
      if world.dialog = .closed ∧ world.transfers.settings.disableFileDownload = false then
        world.page.selected.bind fun entry =>
          if entry.isDir then none else some (world.offer entry)
      else none
  | .uploadClicked =>
      if world.dialog = .closed ∧ world.transfers.settings.disableFileUpload = false then
        some { world with dialog := .upload }
      else none
  | .fileAccepted url fileSize failsAtOnce =>
      if world.dialog = .upload then
        let filePath := localPath url
        let remotePath :=
          String.ofList (world.page.uploadDirectory.toList ++ fileName filePath)
        world.accepted (.upload agentHostname filePath remotePath fileSize failsAtOnce)
      else none
  | .folderAccepted url failsAtOnce =>
      match world.dialog with
      | .download remoteFilePath remoteFileName =>
          let filePath :=
            String.ofList ((slashed (localPath url)).toList ++ remoteFileName.toList)
          world.accepted (.download agentHostname remoteFilePath filePath failsAtOnce)
      | .closed | .upload => none
  | .dismissed =>
      if world.dialog ≠ .closed then some { world with dialog := .closed } else none
  | .otherRequest request =>
      some { world with outstanding := world.outstanding ++ [request] }
  | .directoryListed index listing =>
      world.outstanding[index]?.map fun request =>
        let answered := { world with outstanding := world.outstanding.eraseIdx index }
        if request.agentHostname = agentHostname then
          { answered with
            page := world.page.onDirectoryListed localeCompare listing
            listings := world.listings ++ [listing] }
        else answered
  | .listDirectoryError index error =>
      world.outstanding[index]?.map fun request =>
        let answered := { world with outstanding := world.outstanding.eraseIdx index }
        if request.agentHostname = agentHostname then
          { answered with page := world.page.onListDirectoryError error }
        else answered
  | .transfer event =>
      if ownTransfer event then
        (world.transfers.next event).map fun transfers => { world with transfers := transfers }
      else none

/-! ## What a step can do -/

/-- What a navigation leaves of the page, whatever it asks for. -/
def waiting (page : FileBrowserPage) : FileBrowserPage :=
  { page with selectedIndex := none, isLoading := true, errorMessage := "" }

/-- The events by which the page asks its agent. -/
def navigates : BrowserEvent → Bool
  | .up | .root | .segment _ | .retry | .doubleClick _ | .openFolder => true
  | _ => false

/-- Every way a step can go. -/
inductive Step : BrowserEvent → FileBrowser → Prop where
  | navigate {event segments relativity} (navigation : navigates event = true) :
      Step event
        (world.navigated (waiting world.page, ⟨agentHostname, segments, relativity⟩))
  | select {index entry} (visible : world.page.ListVisible)
      (found : world.page.currentContents[index]? = some entry) :
      Step (.select index)
        { world with
          page := { world.page with selectedIndex := some index }
          clicked := some entry }
  | offer {event entry} (found : entry ∈ world.page.currentContents) (file : entry.isDir = false)
      (permitted : world.transfers.settings.disableFileDownload = false) :
      Step event (world.offer entry)
  | ignored {event} : Step event world
  | uploadClicked (permitted : world.transfers.settings.disableFileUpload = false) :
      Step .uploadClicked { world with dialog := .upload }
  | fileAccepted {url fileSize failsAtOnce transfers} (accepting : world.dialog = .upload)
      (called : world.transfers.next (.upload agentHostname (localPath url) (String.ofList
        (world.page.uploadDirectory.toList ++ fileName (localPath url))) fileSize failsAtOnce) =
          some transfers) :
      Step (.fileAccepted url fileSize failsAtOnce)
        { world with dialog := .closed, transfers := transfers }
  | folderAccepted {url failsAtOnce remote name transfers}
      (accepting : world.dialog = .download remote name)
      (called : world.transfers.next (.download agentHostname remote
        (String.ofList ((slashed (localPath url)).toList ++ name.toList)) failsAtOnce) =
          some transfers) :
      Step (.folderAccepted url failsAtOnce)
        { world with dialog := .closed, transfers := transfers }
  | dismissed : Step .dismissed { world with dialog := .closed }
  | otherRequest {request} :
      Step (.otherRequest request) { world with outstanding := world.outstanding ++ [request] }
  | listed {index listing request} (found : world.outstanding[index]? = some request)
      (own : request.agentHostname = agentHostname) :
      Step (.directoryListed index listing)
        { world with
          outstanding := world.outstanding.eraseIdx index
          page := world.page.onDirectoryListed localeCompare listing
          listings := world.listings ++ [listing] }
  | failed {index error request} (found : world.outstanding[index]? = some request)
      (own : request.agentHostname = agentHostname) :
      Step (.listDirectoryError index error)
        { world with
          outstanding := world.outstanding.eraseIdx index
          page := world.page.onListDirectoryError error }
  | answeredOther {event index request} (found : world.outstanding[index]? = some request)
      (other : request.agentHostname ≠ agentHostname) :
      Step event { world with outstanding := world.outstanding.eraseIdx index }
  | transfer {event transfers} (own : ownTransfer event = true)
      (moved : world.transfers.next event = some transfers) :
      Step (.transfer event) { world with transfers := transfers }

variable {localeCompare agentHostname world}

/-- A selected entry is one of those shown. -/
theorem mem_of_selected {page : FileBrowserPage} {entry : DirectoryEntry}
    (selected : page.selected = some entry) : entry ∈ page.currentContents := by
  obtain ⟨index, -, found⟩ := Option.bind_eq_some_iff.mp selected
  exact List.mem_of_getElem? found

/-- Every event is one of the steps listed. -/
theorem step_of_next {event : BrowserEvent} {after : FileBrowser}
    (taken : world.next localeCompare agentHostname event = some after) :
    Step localeCompare agentHostname world event after := by
  cases event with
  | up =>
      obtain ⟨-, rfl⟩ := of_guarded taken
      split <;> exact .navigate rfl
  | root =>
      obtain ⟨-, rfl⟩ := of_guarded taken
      exact .navigate rfl
  | segment index =>
      obtain ⟨-, rfl⟩ := of_guarded taken
      exact .navigate rfl
  | retry =>
      obtain ⟨-, rfl⟩ := of_guarded taken
      split <;> exact .navigate rfl
  | select index =>
      obtain ⟨⟨-, visible⟩, taken⟩ := Option.ite_none_right_eq_some.mp taken
      obtain ⟨entry, found, rfl⟩ := Option.map_eq_some_iff.mp taken
      exact .select visible found
  | doubleClick index =>
      obtain ⟨-, taken⟩ := Option.ite_none_right_eq_some.mp taken
      obtain ⟨entry, found, rfl⟩ := Option.map_eq_some_iff.mp taken
      split
      · exact .navigate rfl
      rename_i file
      split
      · rename_i permitted
        exact .offer (List.mem_of_getElem? found) (Bool.not_eq_true _ ▸ file) permitted
      · exact .ignored
  | openFolder =>
      obtain ⟨-, taken⟩ := Option.ite_none_right_eq_some.mp taken
      obtain ⟨entry, -, taken⟩ := Option.bind_eq_some_iff.mp taken
      obtain ⟨-, rfl⟩ := of_guarded taken
      exact .navigate rfl
  | downloadClicked =>
      obtain ⟨⟨-, permitted⟩, taken⟩ := Option.ite_none_right_eq_some.mp taken
      obtain ⟨entry, selected, taken⟩ := Option.bind_eq_some_iff.mp taken
      obtain ⟨file, taken⟩ := Option.ite_none_left_eq_some.mp taken
      obtain rfl := Option.some.inj taken
      exact .offer (mem_of_selected selected) (Bool.not_eq_true _ ▸ file) permitted
  | uploadClicked =>
      obtain ⟨⟨-, permitted⟩, rfl⟩ := of_guarded taken
      exact .uploadClicked permitted
  | fileAccepted url fileSize failsAtOnce =>
      obtain ⟨accepting, taken⟩ := Option.ite_none_right_eq_some.mp taken
      obtain ⟨transfers, called, rfl⟩ := Option.map_eq_some_iff.mp taken
      exact .fileAccepted accepting called
  | folderAccepted url failsAtOnce =>
      simp only [next] at taken
      split at taken
      · rename_i accepting
        obtain ⟨transfers, called, rfl⟩ := Option.map_eq_some_iff.mp taken
        exact .folderAccepted accepting called
      · cases taken
      · cases taken
  | dismissed =>
      obtain ⟨-, rfl⟩ := of_guarded taken
      exact .dismissed
  | otherRequest request =>
      obtain rfl := Option.some.inj taken
      exact .otherRequest
  | directoryListed index listing =>
      obtain ⟨request, found, rfl⟩ := Option.map_eq_some_iff.mp taken
      split
      · rename_i own
        exact .listed found own
      · rename_i other
        exact .answeredOther found other
  | listDirectoryError index error =>
      obtain ⟨request, found, rfl⟩ := Option.map_eq_some_iff.mp taken
      split
      · rename_i own
        exact .failed found own
      · rename_i other
        exact .answeredOther found other
  | transfer event =>
      obtain ⟨own, taken⟩ := Option.ite_none_right_eq_some.mp taken
      obtain ⟨transfers, moved, rfl⟩ := Option.map_eq_some_iff.mp taken
      exact .transfer own moved

end FileBrowser

/-! ## The processes of a call -/

section Processes

variable {transfers after : TransferWorld}

/-- A call starts at most the scp process of its transfer. -/
theorem started_called {transfer : FileTransfer} {failsAtOnce : Bool}
    {start : ScpProcess × SettingsManager}
    (member : start ∈ (transfers.called
      (transfers.manager.enqueue transfer failsAtOnce)).started) :
    start ∈ transfers.started ∨ start.1 = transfer.scpProcess := by
  unfold TransferWorld.called at member
  rw [enqueue_process] at member
  refine (List.mem_append.mp member).imp id fun new => ?_
  obtain ⟨process, started, rfl⟩ := List.mem_map.mp new
  cases failsAtOnce with
  | true => cases started
  | false => exact List.mem_singleton.mp started

/-- A download starts at most its own scp process. -/
theorem started_download {agentHostname remotePath localPath : String} {failsAtOnce : Bool}
    (called : transfers.next (.download agentHostname remotePath localPath failsAtOnce) =
      some after) : ∀ start ∈ after.started, start ∈ transfers.started ∨
        start.1 = ⟨.remotePath agentHostname remotePath, .localPath localPath⟩ := by
  obtain rfl := Option.some.inj called
  exact fun start member => started_called member

/-- An upload starts at most its own scp process. -/
theorem started_upload {agentHostname localPath remotePath : String} {fileSize : Option Int}
    {failsAtOnce : Bool}
    (called : transfers.next (.upload agentHostname localPath remotePath fileSize failsAtOnce) =
      some after) : ∀ start ∈ after.started, start ∈ transfers.started ∨
        start.1 = ⟨.localPath localPath, .remotePath agentHostname remotePath⟩ := by
  obtain rfl := Option.some.inj called
  exact fun start member => started_called member

/-- The transfers' own steps start nothing. -/
theorem started_ownTransfer {event : TransferEvent} (own : ownTransfer event = true)
    (moved : transfers.next event = some after) : after.started = transfers.started := by
  cases event with
  | download agentHostname remotePath localPath failsAtOnce => cases own
  | upload agentHostname localPath remotePath fileSize failsAtOnce => cases own
  | settings event => rw [← Option.some.inj moved]
  | cancelTransfer id waited => rw [← Option.some.inj moved]
  | process id event => rw [← (of_guarded moved).2]
  | removalTimer id => rw [← (of_guarded moved).2]
  | cleanupTimeout => rw [← Option.some.inj moved]

/-- Transfers leave the policy alone. -/
theorem mdm_transfer {event : TransferEvent} (moved : transfers.next event = some after) :
    after.settings.mdm = transfers.settings.mdm := by
  cases event with
  | settings event =>
      rw [← Option.some.inj moved]
      exact SettingsManager.apply_mdm _ _
  | download agentHostname remotePath localPath failsAtOnce => rw [← Option.some.inj moved]; rfl
  | upload agentHostname localPath remotePath fileSize failsAtOnce =>
      rw [← Option.some.inj moved]
      rfl
  | cancelTransfer id waited => rw [← Option.some.inj moved]
  | process id event => rw [← (of_guarded moved).2]
  | removalTimer id => rw [← (of_guarded moved).2]
  | cleanupTimeout => rw [← Option.some.inj moved]

end Processes

namespace FileBrowser

variable {localeCompare : String → String → Int} {agentHostname : String}
  {world after : FileBrowser} {event : BrowserEvent}

/-! ## Where transfers come from -/

/-- What the page shows is the last listing of its agent. -/
def ShowsLast (world : FileBrowser) : Prop :=
  match world.listings.getLast? with
  | none => world.page.currentPath = "" ∧ world.page.currentContents = []
  | some listing => world.page.currentPath = listing.absolutePathString ∧
      world.page.currentContents.Perm listing.contents

/-- What the page shows and offers comes from the listings of its agent. -/
structure Sourced (world : FileBrowser) : Prop where
  page : world.ShowsLast
  dialog : ∀ remote name, world.dialog = .download remote name →
    ∃ listing ∈ world.listings, ∃ entry ∈ listing.contents, entry.isDir = false ∧
      remote = entry.absolutePathString ∧ name = entry.name

namespace Sourced

/-- An entry shown is one of the last listing. -/
theorem listed_of_mem (sourced : world.Sourced) {entry : DirectoryEntry}
    (member : entry ∈ world.page.currentContents) :
    ∃ listing, world.listings.getLast? = some listing ∧ entry ∈ listing.contents := by
  have shows := sourced.page
  unfold ShowsLast at shows
  cases last : world.listings.getLast? with
  | none =>
      simp only [last] at shows
      rw [shows.2] at member
      exact absurd member List.not_mem_nil
  | some listing =>
      simp only [last] at shows
      exact ⟨listing, rfl, shows.2.mem_iff.mp member⟩

/-- The page and the dialog stay as they are in what the listings say of them. -/
theorem keep (sourced : world.Sourced)
    (path : after.page.currentPath = world.page.currentPath)
    (contents : after.page.currentContents = world.page.currentContents)
    (dialog : ∀ remote name, after.dialog = .download remote name →
      world.dialog = .download remote name)
    (listings : after.listings = world.listings) : after.Sourced where
  page := by
    unfold ShowsLast
    rw [path, contents, listings]
    exact sourced.page
  dialog remote name offered := by
    rw [listings]
    exact sourced.dialog remote name (dialog remote name offered)

/-- A step shows a listing as it comes, and offers what is shown. -/
theorem next (sourced : world.Sourced)
    (taken : world.next localeCompare agentHostname event = some after) : after.Sourced := by
  cases step_of_next taken with
  | navigate navigation => exact sourced.keep rfl rfl (fun _ _ offered => offered) rfl
  | select visible found => exact sourced.keep rfl rfl (fun _ _ offered => offered) rfl
  | @offer _ entry found file permitted =>
      refine ⟨sourced.page, fun remote name offered => ?_⟩
      obtain ⟨rfl, rfl⟩ := BrowserDialog.download.inj offered
      obtain ⟨listing, last, listed⟩ := sourced.listed_of_mem found
      exact ⟨listing, List.mem_of_getLast? last, entry, listed, file, rfl, rfl⟩
  | ignored => exact sourced
  | uploadClicked permitted => exact sourced.keep rfl rfl (fun _ _ offered => nomatch offered) rfl
  | fileAccepted accepting called =>
      exact sourced.keep rfl rfl (fun _ _ offered => nomatch offered) rfl
  | folderAccepted accepting called =>
      exact sourced.keep rfl rfl (fun _ _ offered => nomatch offered) rfl
  | dismissed => exact sourced.keep rfl rfl (fun _ _ offered => nomatch offered) rfl
  | otherRequest => exact sourced.keep rfl rfl (fun _ _ offered => offered) rfl
  | @listed index listing request found own =>
      refine ⟨?_, fun remote name offered => ?_⟩
      · unfold ShowsLast
        rw [List.getLast?_concat]
        exact ⟨rfl, List.perm_insertionSort _ _⟩
      · obtain ⟨old, known, tells⟩ := sourced.dialog remote name offered
        exact ⟨old, List.mem_append_left _ known, tells⟩
  | failed found own => exact sourced.keep rfl rfl (fun _ _ offered => offered) rfl
  | answeredOther found other => exact sourced.keep rfl rfl (fun _ _ offered => offered) rfl
  | transfer own moved => exact sourced.keep rfl rfl (fun _ _ offered => offered) rfl

end Sourced

/-- A home with one file and two directories. -/
def homeListing : DirectoryListing :=
  ⟨"/home/coder", [⟨"notes", "/home/coder/notes", false⟩, ⟨"src", "/home/coder/src", true⟩,
    ⟨"lib", "/home/coder/lib", true⟩]⟩

/-- Texts are compared by their length. -/
def byLength (a b : String) : Int := a.toList.length - b.toList.length

/-- The file behind the directories is fetched. -/
def fetchesNotes : List BrowserEvent :=
  [.directoryListed 0 homeListing, .select 2, .downloadClicked,
    .folderAccepted "file:///tmp" false]

/-- The row selected is the entry that was clicked. -/
def Denotes (world : FileBrowser) : Prop :=
  world.page.selectedIndex ≠ none →
    world.page.selected = world.clicked ∧ world.clicked ≠ none

/-- The agent is asked only by the page, and once at a time. -/
def Patient (agentHostname : String) (world : FileBrowser) (event : BrowserEvent) : Prop :=
  (navigates event = true → world.page.isLoading = false) ∧
    ∀ request, event = .otherRequest request → request.agentHostname ≠ agentHostname

/-- The requests to the agent that have no reply. -/
def pending (agentHostname : String) (world : FileBrowser) : Nat :=
  world.outstanding.countP fun request => request.agentHostname = agentHostname

/-- While a listing is waited for nothing is selected, and none comes at another time. -/
structure Settled (agentHostname : String) (world : FileBrowser) : Prop where
  denotes : world.Denotes
  pending : world.pending agentHostname = if world.page.isLoading then 1 else 0
  unselected : world.page.isLoading = true → world.page.selectedIndex = none

/-- One more request counts if it is to the page's agent. -/
theorem pending_append (world : FileBrowser) (request : AgentRequest) :
    (world.outstanding ++ [request]).countP (fun request => request.agentHostname = agentHostname) =
      world.pending agentHostname +
        if request.agentHostname = agentHostname then 1 else 0 := by
  rw [List.countP_append, List.countP_singleton]
  simp [pending]

/-- An answered request no longer counts. -/
theorem pending_eraseIdx (agentHostname : String) {request : AgentRequest} {index : Nat}
    (found : world.outstanding[index]? = some request) :
    (world.outstanding.eraseIdx index).countP
        (fun request => request.agentHostname = agentHostname) +
      (if request.agentHostname = agentHostname then 1 else 0) =
        world.pending agentHostname := by
  obtain ⟨bound, rfl⟩ := List.getElem?_eq_some_iff.mp found
  have perm := List.getElem_cons_eraseIdx_perm bound
  rw [pending, ← perm.countP_eq, List.countP_cons]
  simp

namespace Settled

/-- Dialogs and transfers do not touch the page. -/
theorem keep (settled : world.Settled agentHostname) (page : after.page = world.page)
    (outstanding : after.outstanding = world.outstanding)
    (clicked : after.clicked = world.clicked) : after.Settled agentHostname where
  denotes := by
    unfold Denotes
    rw [page, clicked]
    exact settled.denotes
  pending := by
    unfold FileBrowser.pending
    rw [page, outstanding]
    exact settled.pending
  unselected := by
    rw [page]
    exact settled.unselected

/-- A reply of the agent is the one that is waited for. -/
theorem answered (settled : world.Settled agentHostname) {request : AgentRequest} {index : Nat}
    (found : world.outstanding[index]? = some request)
    (own : request.agentHostname = agentHostname) :
    world.page.selectedIndex = none ∧
      (world.outstanding.eraseIdx index).countP
        (fun request => request.agentHostname = agentHostname) = 0 := by
  have count := pending_eraseIdx agentHostname found
  rw [if_pos own, settled.pending] at count
  cases loading : world.page.isLoading with
  | false =>
      rw [loading] at count
      exact absurd count (Nat.succ_ne_zero _)
  | true =>
      rw [loading] at count
      exact ⟨settled.unselected loading, Nat.succ.inj count⟩

/-- Every event keeps the page settled, if the user is patient. -/
theorem next (settled : world.Settled agentHostname) (patient : Patient agentHostname world event)
    (taken : world.next localeCompare agentHostname event = some after) :
    after.Settled agentHostname := by
  cases step_of_next taken with
  | navigate navigation =>
      have count := settled.pending
      rw [patient.1 navigation] at count
      refine ⟨fun selected => absurd rfl selected, ?_, fun _ => rfl⟩
      exact (pending_append world _).trans (by rw [count]; simp [navigated, waiting])
  | select visible found =>
      have notLoading : world.page.isLoading = false := visible.1
      refine ⟨fun _ => ⟨found, Option.some_ne_none _⟩, settled.pending, fun loading => ?_⟩
      exact absurd (notLoading.symm.trans loading) Bool.false_ne_true
  | offer found file permitted => exact settled.keep rfl rfl rfl
  | ignored => exact settled
  | uploadClicked permitted => exact settled.keep rfl rfl rfl
  | fileAccepted accepting called => exact settled.keep rfl rfl rfl
  | folderAccepted accepting called => exact settled.keep rfl rfl rfl
  | dismissed => exact settled.keep rfl rfl rfl
  | @otherRequest request =>
      refine ⟨settled.denotes, ?_, settled.unselected⟩
      have other := patient.2 request rfl
      exact (pending_append world request).trans (by rw [if_neg other]; exact settled.pending)
  | listed found own =>
      obtain ⟨unselected, none⟩ := settled.answered found own
      exact ⟨fun selected => absurd unselected selected, none, fun loading => nomatch loading⟩
  | failed found own =>
      obtain ⟨unselected, none⟩ := settled.answered found own
      exact ⟨fun selected => absurd unselected selected, none, fun loading => nomatch loading⟩
  | answeredOther found other =>
      refine ⟨settled.denotes, ?_, settled.unselected⟩
      have count := pending_eraseIdx agentHostname found
      rw [if_neg other] at count
      exact count.trans settled.pending
  | transfer own moved => exact settled.keep rfl rfl rfl

end Settled

/-- At startup the page waits for its first listing. -/
theorem settled_startup (settings : SettingsManager) {others : List AgentRequest}
    (elsewhere : ∀ request ∈ others, request.agentHostname ≠ agentHostname) :
    (startup agentHostname settings others).Settled agentHostname where
  denotes selected := absurd rfl selected
  pending := by
    have none : others.countP (fun request => request.agentHostname = agentHostname) = 0 :=
      List.countP_eq_zero.mpr fun request member same =>
        elsewhere request member (of_decide_eq_true same)
    simp [pending, startup, none, FileBrowserPage.navigateToRoot, List.countP_append]
  unselected _ := rfl

/-- In a run in which the agent is asked by nobody else and only once at a time, the row that is
selected is the entry that was clicked, whatever was listed since. -/
theorem selected_was_clicked (settings : SettingsManager) {others : List AgentRequest}
    (elsewhere : ∀ request ∈ others, request.agentHostname ≠ agentHostname)
    {events : List BrowserEvent}
    (run : Runs (next localeCompare agentHostname) (startup agentHostname settings others)
      events world)
    (patient : Conforms (next localeCompare agentHostname) (Patient agentHostname)
      (startup agentHostname settings others) events) :
    world.page.selectedIndex = none ∨
      (world.page.selected = world.clicked ∧ world.clicked ≠ none) := by
  have settled : world.Settled agentHostname :=
    run.induct (fun _ world => world.Settled agentHostname) (settled_startup settings elsewhere)
      (fun _ _ _ _ _ settled patient taken => settled.next patient taken) patient
  exact or_iff_not_imp_left.mpr settled.denotes

/-- A file is clicked and is the one selected. -/
theorem selected_was_clicked_notes :
    ∃ world, Runs (next byLength "main.dev.coder")
      (startup "main.dev.coder" ⟨.parse none, fun _ => none⟩ []) (fetchesNotes.take 2) world ∧
      world.page.selectedIndex ≠ none ∧
      (world.page.selectedIndex = none ∨
        (world.page.selected = world.clicked ∧ world.clicked ≠ none)) := by
  have reached : (replay (next byLength "main.dev.coder")
      (startup "main.dev.coder" ⟨.parse none, fun _ => none⟩ []) (fetchesNotes.take 2)).any
        (fun world => decide (world.page.selectedIndex ≠ none)) = true := by
    decide +kernel
  obtain ⟨world, run, observed⟩ := runs_of_replay _ reached
  have patient : Conforms (next byLength "main.dev.coder") (Patient "main.dev.coder")
      (startup "main.dev.coder" ⟨.parse none, fun _ => none⟩ []) (fetchesNotes.take 2) := by
    refine fun _ _ => ⟨⟨(nomatch ·), fun _ same => nomatch same⟩, fun _ _ => ⟨⟨(nomatch ·),
      fun _ same => nomatch same⟩, trivial⟩⟩
  exact ⟨world, run, of_decide_eq_true observed,
    selected_was_clicked ⟨.parse none, fun _ => none⟩ (fun _ => List.not_mem_nil.elim) run patient⟩

/-- Asked twice, the agent lists the parent directory last, and what is selected is not what was
clicked. -/
example : (replay (next byLength "main.dev.coder")
    (startup "main.dev.coder" ⟨.parse none, fun _ => none⟩ [])
    [.directoryListed 0 homeListing, .root, .up, .directoryListed 0 homeListing, .select 1,
      .directoryListed 0 ⟨"/home", [⟨"coder", "/home/coder", true⟩,
        ⟨"backup", "/home/backup", true⟩]⟩]).map
      (fun world => (world.page.selected.map DirectoryEntry.name,
        world.clicked.map DirectoryEntry.name)) = some (some "backup", some "lib") := by
  decide +kernel

/-! ## The policy -/

/-- What the policy forbids is neither offered nor done. -/
structure Forbids (policy : MdmConfigManager) (world : FileBrowser) : Prop where
  mdm : world.transfers.settings.mdm = policy
  upload : policy.value "disableFileUpload" = .bool true →
    world.dialog ≠ .upload ∧ ∀ start ∈ world.transfers.started, start.1.uploads = false
  download : policy.value "disableFileDownload" = .bool true →
    (∀ remote name, world.dialog ≠ .download remote name) ∧
      ∀ start ∈ world.transfers.started, start.1.downloads = false

/-- A policy that is in force sets the flag. -/
theorem flag_of_policy {settings : SettingsManager} {key : String}
    (enabled : settings.mdm.enabled = true) (set : settings.mdm.value key = .bool true) :
    settings.flag key = true := by
  rw [SettingsManager.flag, SettingsManager.resolve_of_valid enabled (by rw [set]; rfl), set]
  rfl

namespace Forbids

variable {policy : MdmConfigManager}

/-- Every event keeps what the policy forbids from being offered and from being done. -/
theorem next (enabled : policy.enabled = true) (forbids : world.Forbids policy)
    (taken : world.next localeCompare agentHostname event = some after) :
    after.Forbids policy := by
  have flag {key : String} (set : policy.value key = .bool true) :
      world.transfers.settings.flag key = true :=
    flag_of_policy (forbids.mdm ▸ enabled) (forbids.mdm ▸ set)
  cases step_of_next taken with
  | navigate navigation => exact ⟨forbids.mdm, forbids.upload, forbids.download⟩
  | select visible found => exact ⟨forbids.mdm, forbids.upload, forbids.download⟩
  | offer found file permitted =>
      refine ⟨forbids.mdm, fun set => ⟨(nomatch ·), (forbids.upload set).2⟩, fun set => ?_⟩
      exact absurd ((flag set).symm.trans permitted) (Bool.false_ne_true ∘ Eq.symm)
  | ignored => exact forbids
  | uploadClicked permitted =>
      refine ⟨forbids.mdm, fun set => ?_, fun set => ⟨fun _ _ => (nomatch ·),
        (forbids.download set).2⟩⟩
      exact absurd ((flag set).symm.trans permitted) (Bool.false_ne_true ∘ Eq.symm)
  | fileAccepted accepting called =>
      refine ⟨(mdm_transfer called).trans forbids.mdm, fun set => ?_, fun set => ?_⟩
      · exact absurd accepting (forbids.upload set).1
      · refine ⟨fun _ _ => (nomatch ·), fun start member => ?_⟩
        rcases started_upload called start member with old | new
        · exact (forbids.download set).2 start old
        · rw [new]
          rfl
  | folderAccepted accepting called =>
      refine ⟨(mdm_transfer called).trans forbids.mdm, fun set => ?_, fun set => ?_⟩
      · refine ⟨(nomatch ·), fun start member => ?_⟩
        rcases started_download called start member with old | new
        · exact (forbids.upload set).2 start old
        · rw [new]
          rfl
      · exact absurd accepting ((forbids.download set).1 _ _)
  | dismissed =>
      exact ⟨forbids.mdm, fun set => ⟨(nomatch ·), (forbids.upload set).2⟩,
        fun set => ⟨fun _ _ => (nomatch ·), (forbids.download set).2⟩⟩
  | otherRequest => exact ⟨forbids.mdm, forbids.upload, forbids.download⟩
  | listed found own => exact ⟨forbids.mdm, forbids.upload, forbids.download⟩
  | failed found own => exact ⟨forbids.mdm, forbids.upload, forbids.download⟩
  | answeredOther found other => exact ⟨forbids.mdm, forbids.upload, forbids.download⟩
  | transfer own moved =>
      have same := started_ownTransfer own moved
      refine ⟨(mdm_transfer moved).trans forbids.mdm, fun set => ?_, fun set => ?_⟩
      · exact ⟨(forbids.upload set).1, same ▸ (forbids.upload set).2⟩
      · exact ⟨(forbids.download set).1, same ▸ (forbids.download set).2⟩

end Forbids

/-- Under a policy that forbids uploads or downloads no process is started in this direction,
whatever the user sets, clicks and accepts. -/
theorem policy_blocks_transfers (policy : Option Json)
    (userSettings : String → Option QVariant) (others : List AgentRequest)
    (enabled : (MdmConfigManager.parse policy).enabled = true) {events : List BrowserEvent}
    (run : Runs (next localeCompare agentHostname)
      (startup agentHostname (.start policy userSettings) others) events world) :
    ((MdmConfigManager.parse policy).value "disableFileUpload" = .bool true →
        ∀ start ∈ world.transfers.started, start.1.uploads = false) ∧
      ((MdmConfigManager.parse policy).value "disableFileDownload" = .bool true →
        ∀ start ∈ world.transfers.started, start.1.downloads = false) := by
  have forbids : world.Forbids (.parse policy) := by
    refine run.invariant ⟨rfl, fun _ => ⟨(nomatch ·), fun _ => List.not_mem_nil.elim⟩,
      fun _ => ⟨fun _ _ => (nomatch ·), fun _ => List.not_mem_nil.elim⟩⟩ ?_
    exact fun _ _ _ forbids taken => forbids.next enabled taken
  exact ⟨fun set => (forbids.upload set).2, fun set => (forbids.download set).2⟩

/-- A policy that forbids uploads, without a lock. -/
def noUploads : Option Json :=
  some (.object [("version", .number 1), ("settings", .object [("disableFileUpload",
    .object [("value", .bool true), ("locked", .bool false)])])])

/-- A policy against uploads, which the user tries to override. -/
theorem policy_blocks_transfers_notes :
    ∃ world, Runs (next byLength "main.dev.coder")
      (startup "main.dev.coder" (.start noUploads fun _ => none) [])
      (.transfer (.settings (.setUserPreference "disableFileUpload" (.bool false))) ::
        fetchesNotes) world ∧ world.transfers.started ≠ [] ∧
      ∀ start ∈ world.transfers.started, start.1.uploads = false := by
  have reached : (replay (next byLength "main.dev.coder")
      (startup "main.dev.coder" (.start noUploads fun _ => none) [])
      (.transfer (.settings (.setUserPreference "disableFileUpload" (.bool false))) ::
        fetchesNotes)).any (fun world => !world.transfers.started.isEmpty) = true := by
    decide +kernel
  obtain ⟨world, run, observed⟩ := runs_of_replay _ reached
  have some : world.transfers.started ≠ [] := by simpa using observed
  exact ⟨world, run, some,
    (policy_blocks_transfers noUploads _ _ (by decide) run).1 rfl⟩

end FileBrowser

end CoderDesktop.FileSync
