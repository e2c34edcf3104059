import Mathlib.Data.List.Lex
import CoderDesktop.Apps.AppDiscovery
import CoderDesktop.Collections.Sorting
import CoderDesktop.Dlp.LaunchPolicy
import CoderDesktop.Semantics.Run

/-!
# The application picker

`AppModel` lists what the last scan found, sorted and filtered, and the launch page with its
dialog starts what is clicked. Scans run on other threads and end in any order; while one is
waited for nothing can be clicked, but a dialog that is open stays so.
-/

namespace CoderDesktop.Apps

open Encoding Collections Semantics

/-- What the code takes from its libraries: a text as `Qt::CaseInsensitive` looks at it, and
`std::sort`. -/
structure Library where
  folded : Text → List Nat
  sort : (AppEntry → AppEntry → Bool) → List AppEntry → List AppEntry

/-- The applications found, and those the filters leave. -/
structure AppModel where
  allApps : List AppEntry
  filteredApps : List AppEntry
  searchQuery : Text
  categoryFilter : Text
  loading : Bool

variable (library : Library)

/-- `QString::contains` with `Qt::CaseInsensitive` -/
def Library.contains (text query : Text) : Bool :=
  decide (library.folded query <:+: library.folded text)

/-- By category and then by name. -/
def Library.precedes : AppEntry → AppEntry → Bool :=
  lessByKeys (fun app => library.folded app.category) fun app => library.folded app.name

namespace AppModel

/-- The model before the first scan. -/
def new : AppModel := ⟨[], [], [], [], false⟩

/-- The body of the loop of `applyFilters` gets to its end. -/
def Passes (model : AppModel) (app : AppEntry) : Prop :=
  ¬ (model.categoryFilter ≠ [] ∧ app.category ≠ model.categoryFilter) ∧
    (model.searchQuery ≠ [] →
      library.contains app.name model.searchQuery ∨ library.contains app.exec model.searchQuery ∨
        library.contains app.category model.searchQuery)

instance (model : AppModel) (app : AppEntry) : Decidable (model.Passes library app) :=
  inferInstanceAs (Decidable (_ ∧ _))

/-- The rows shown are those of all that pass. -/
def applyFilters (model : AppModel) : AppModel :=
  { model with filteredApps := model.allApps.filter (model.Passes library) }

/-- Another query filters the rows anew. -/
def setSearchQuery (model : AppModel) (query : Text) : AppModel :=
  if model.searchQuery = query then model
  else applyFilters library { model with searchQuery := query }

/-- Another category filters the rows anew. -/
def setCategoryFilter (model : AppModel) (category : Text) : AppModel :=
  if model.categoryFilter = category then model
  else applyFilters library { model with categoryFilter := category }

/-- `refresh`, apart from the scan it starts. -/
def refresh (model : AppModel) : AppModel := { model with loading := true }

/-- The handler of `scanComplete`. -/
def scanComplete (model : AppModel) (apps : List AppEntry) : AppModel :=
  { applyFilters library { model with allApps := library.sort library.precedes apps } with
    loading := false }

end AppModel

/-! ## The dialog -/

/-- The boxes of the dialog. -/
inductive CheckBox where
  | pid
  | ipc
  | net
  | fs
  | home
deriving DecidableEq, Repr

/-- The check boxes of the sandbox options. -/
structure SandboxChecks where
  pid : Bool
  ipc : Bool
  net : Bool
  fs : Bool
  home : Bool
deriving DecidableEq, Repr

/-- One box is set, the others stay. -/
def SandboxChecks.set (checks : SandboxChecks) (checked : Bool) : CheckBox → SandboxChecks
  | .pid => { checks with pid := checked }
  | .ipc => { checks with ipc := checked }
  | .net => { checks with net := checked }
  | .fs => { checks with fs := checked }
  | .home => { checks with home := checked }

/-- The applications for which the dialog takes Electron's defaults. -/
def electronIds : List String := ["code", "code-insiders", "cursor", "codium", "vscode"]

/-- The applications for which the dialog takes JetBrains' defaults. -/
def jetBrainsIds : List String :=
  ["idea", "goland", "pycharm", "webstorm", "clion", "phpstorm", "rider", "rubymine", "datagrip"]

/-- The boxes as `setDefaults` checks them. -/
def defaultChecks (appCategory appId : Text) : SandboxChecks :=
  if appCategory = "Browser".toList ∨ electronIds.any fun id => id.toList = appId then
    ⟨false, false, false, false, false⟩
  else if jetBrainsIds.any fun id => id.toList = appId then
    ⟨false, true, false, false, true⟩
  else
    ⟨true, true, false, false, false⟩

/-- The fields of the dialog. -/
structure LaunchDialog where
  opened : Bool
  appName : Text
  appExec : Text
  appId : Text
  appCategory : Text
  workspace : Text
  checks : SandboxChecks

namespace LaunchDialog

/-- The dialog before it is opened. -/
def new : LaunchDialog where
  opened := false
  appName := []
  appExec := []
  appId := []
  appCategory := []
  workspace := []
  checks := ⟨false, false, false, false, false⟩

/-- The boxes as they are for the application, and no workspace. -/
def setDefaults (dialog : LaunchDialog) : LaunchDialog :=
  { dialog with workspace := [], checks := defaultChecks dialog.appCategory dialog.appId }

/-- The handler of a click on an application; `open` shows the dialog. -/
def openFor (dialog : LaunchDialog) (app : AppEntry) : LaunchDialog :=
  { setDefaults { dialog with
      appName := app.name
      appExec := app.exec
      appId := app.id
      appCategory := app.category } with opened := true }

/-- The arguments of `launchRequested`. -/
def route (dialog : LaunchDialog) : Dlp.LaunchRoute :=
  .launchDialog (String.ofList dialog.appExec) (String.ofList dialog.appName)
    (String.ofList dialog.workspace) dialog.checks.pid dialog.checks.ipc dialog.checks.net
    dialog.checks.fs dialog.checks.home

end LaunchDialog

/-! ## The page -/

/-- The model, its scans, the dialog and what was launched from it. -/
structure AppPicker where
  model : AppModel
  /-- The scans that have not completed. -/
  scans : Nat
  dialog : LaunchDialog
  launched : List Dlp.LaunchRoute

/-- What the user does, and the end of a scan. -/
inductive PickerEvent where
  | refresh
  /-- A scan completes that found the machine like this. -/
  | scanComplete (host : Host)
  | search (text : Text)
  | selectCategory (category : Text)
  | click (row : Nat)
  | check (box : CheckBox) (checked : Bool)
  | editWorkspace (text : Text)
  | cancel
  | launch

namespace AppPicker

/-- `main` refreshes the model. -/
def startup : AppPicker := ⟨AppModel.new.refresh, 1, .new, []⟩

/-- The dialog is modal: the rest of the page is out of reach while it is open. -/
def next (picker : AppPicker) : PickerEvent → Option AppPicker
  | .refresh =>
      if ¬ picker.dialog.opened then
        some { picker with model := picker.model.refresh, scans := picker.scans + 1 }
      else none
  | .scanComplete host =>
      if 0 < picker.scans then
        some { picker with
          model := picker.model.scanComplete library (scan host)
          scans := picker.scans - 1 }
      else none
  | .search text =>
      if ¬ picker.dialog.opened then
        some { picker with model := picker.model.setSearchQuery library text }
      else none
  | .selectCategory category =>
      if ¬ picker.dialog.opened then
        some { picker with model := picker.model.setCategoryFilter library category }
      else none
  | .click row =>
      if ¬ picker.dialog.opened ∧ ¬ picker.model.loading then
        picker.model.filteredApps[row]?.map fun app =>
          { picker with dialog := picker.dialog.openFor app }
      else none
  | .check box checked =>
      if picker.dialog.opened then
        some { picker with
          dialog := { picker.dialog with checks := picker.dialog.checks.set checked box } }
      else none
  | .editWorkspace text =>
      if picker.dialog.opened then
        some { picker with dialog := { picker.dialog with workspace := text } }
      else none
  | .cancel =>
      if picker.dialog.opened then
        some { picker with dialog := { picker.dialog with opened := false } }
      else none
  | .launch =>
      if picker.dialog.opened then
        some { picker with
          launched := picker.launched ++ [picker.dialog.route]
          dialog := { picker.dialog with opened := false } }
      else none

end AppPicker

/-! ## The rows -/

/-- The machine a scan found. -/
def scannedHost : PickerEvent → Option Host
  | .scanComplete host => some host
  | _ => none

/-- The machine as the last completed scan found it. -/
def lastScanned (events : List PickerEvent) : Option Host :=
  (events.filterMap scannedHost).getLast?

/-- Only a scan that completes changes which was the last. -/
theorem lastScanned_append {event : PickerEvent} (other : scannedHost event = none)
    (events : List PickerEvent) : lastScanned (events ++ [event]) = lastScanned events := by
  rw [lastScanned, List.filterMap_append, List.filterMap_cons_none other, List.filterMap_nil,
    List.append_nil]
  rfl

/-- A scan that completes is the last one. -/
theorem lastScanned_append_scanComplete (events : List PickerEvent) (host : Host) :
    lastScanned (events ++ [.scanComplete host]) = some host := by
  rw [lastScanned, List.filterMap_append]
  exact List.getLast?_concat

/-- The rows are those applications of the last scan that pass the filters. -/
structure Listed (events : List PickerEvent) (model : AppModel) : Prop where
  filtered : model.filteredApps = model.allApps.filter (model.Passes library)
  all : model.allApps =
    (lastScanned events).elim [] fun host => library.sort library.precedes (scan host)

namespace Listed

variable {library} {events : List PickerEvent} {model : AppModel}

/-- Other events do not change what the model lists. -/
theorem append (listed : Listed library events model) {event : PickerEvent}
    (other : scannedHost event = none) : Listed library (events ++ [event]) model where
  filtered := listed.filtered
  all := by
    rw [lastScanned_append other]
    exact listed.all

/-- A search lists what it finds among the same apps. -/
theorem setSearchQuery (listed : Listed library events model) (query : Text) :
    Listed library events (model.setSearchQuery library query) := by
  unfold AppModel.setSearchQuery
  split
  · exact listed
  · exact ⟨rfl, listed.all⟩

/-- A filter lists what it leaves of the same apps. -/
theorem setCategoryFilter (listed : Listed library events model) (category : Text) :
    Listed library events (model.setCategoryFilter library category) := by
  unfold AppModel.setCategoryFilter
  split
  · exact listed
  · exact ⟨rfl, listed.all⟩

/-- A completed scan lists what it found. -/
theorem scanComplete (host : Host) :
    Listed library (events ++ [.scanComplete host]) (model.scanComplete library (scan host)) where
  filtered := rfl
  all := by
    rw [lastScanned_append_scanComplete]
    rfl

end Listed

/-- The rows show what the machine has: each application once, in order, if it passes. -/
structure Shows (host : Host) (model : AppModel) : Prop where
  nodup : (model.filteredApps.map AppEntry.id).Nodup
  sorted : model.filteredApps.Pairwise fun app later => library.precedes later app = false
  mem : ∀ app, app ∈ model.filteredApps ↔ app ∈ scan host ∧ model.Passes library app

variable {library} in
/-- A model that lists the last scan shows it sorted. -/
theorem Listed.shows (sorts : Sorts library.sort) {events : List PickerEvent} {model : AppModel}
    (listed : Listed library events model) {host : Host} (last : lastScanned events = some host) :
    Shows library host model := by
  have all : model.allApps = library.sort library.precedes (scan host) := by
    rw [listed.all, last]
    rfl
  have perm : model.allApps.Perm (scan host) :=
    all ▸ sorts.perm strictWeakOrder_lessByKeys (scan host)
  have kept : model.filteredApps.Sublist model.allApps :=
    listed.filtered ▸ List.filter_sublist
  refine ⟨?_, ?_, fun app => ?_⟩
  · have ids : (model.allApps.map AppEntry.id).Nodup :=
      (perm.map AppEntry.id).nodup_iff.mpr (nodup_scan host)
    exact ids.sublist (kept.map AppEntry.id)
  · have inOrder : model.allApps.Pairwise fun app later => library.precedes later app = false :=
      all ▸ sorts.sorted strictWeakOrder_lessByKeys (scan host)
    exact inOrder.sublist kept
  · rw [listed.filtered, List.mem_filter, perm.mem_iff, decide_eq_true_iff]

namespace AppPicker

variable {library} {events : List PickerEvent} {picker : AppPicker}

/-- While the list is loading there is a scan to wait for. -/
def Waits (picker : AppPicker) : Prop := picker.model.loading = true → 0 < picker.scans

/-- A search does not change the loading flag. -/
theorem loading_setSearchQuery (model : AppModel) (query : Text) :
    (model.setSearchQuery library query).loading = model.loading := by
  unfold AppModel.setSearchQuery
  split <;> rfl

/-- A filter does not change the loading flag. -/
theorem loading_setCategoryFilter (model : AppModel) (category : Text) :
    (model.setCategoryFilter library category).loading = model.loading := by
  unfold AppModel.setCategoryFilter
  split <;> rfl

/-- Every event keeps the model with the last scan. -/
theorem listed_next (listed : Listed library events picker.model) (waits : picker.Waits)
    {event : PickerEvent} {after : AppPicker} (taken : picker.next library event = some after) :
    Listed library (events ++ [event]) after.model ∧ after.Waits := by
  cases event with
  | refresh =>
      obtain ⟨-, rfl⟩ := of_guarded taken
      exact ⟨⟨listed.filtered, (listed.append rfl).all⟩, fun _ => Nat.succ_pos _⟩
  | scanComplete host =>
      obtain ⟨-, rfl⟩ := of_guarded taken
      exact ⟨.scanComplete host, fun loading => nomatch loading⟩
  | search text =>
      obtain ⟨-, rfl⟩ := of_guarded taken
      refine ⟨(listed.setSearchQuery text).append rfl, fun loading => waits ?_⟩
      rwa [← loading_setSearchQuery]
  | selectCategory category =>
      obtain ⟨-, rfl⟩ := of_guarded taken
      refine ⟨(listed.setCategoryFilter category).append rfl, fun loading => waits ?_⟩
      rwa [← loading_setCategoryFilter]
  | click row =>
      obtain ⟨-, taken⟩ := Option.ite_none_right_eq_some.mp taken
      obtain ⟨app, -, rfl⟩ := Option.map_eq_some_iff.mp taken
      exact ⟨listed.append rfl, waits⟩
  | check box checked =>
      obtain ⟨-, rfl⟩ := of_guarded taken
      exact ⟨listed.append rfl, waits⟩
  | editWorkspace text =>
      obtain ⟨-, rfl⟩ := of_guarded taken
      exact ⟨listed.append rfl, waits⟩
  | cancel =>
      obtain ⟨-, rfl⟩ := of_guarded taken
      exact ⟨listed.append rfl, waits⟩
  | launch =>
      obtain ⟨-, rfl⟩ := of_guarded taken
      exact ⟨listed.append rfl, waits⟩

/-- Every run keeps the model with the last scan. -/
theorem listed_of_runs (run : Runs (next library) startup events picker) :
    Listed library events picker.model ∧ picker.Waits :=
  run.induct (fun events picker => Listed library events picker.model ∧ picker.Waits)
    ⟨⟨rfl, rfl⟩, fun _ => Nat.zero_lt_one⟩
    (fun _ _ _ _ _ held _ taken => listed_next held.1 held.2 taken) (conforms_true events)

/-- In every run the rows are the applications that the last completed scan found and that pass
the filters, each once and in order, and the list is loading only while a scan is to come. -/
theorem rows_of_lastScanned (sorts : Sorts library.sort)
    (run : Runs (next library) startup events picker) :
    (picker.model.loading = true → 0 < picker.scans) ∧
      (lastScanned events = none → picker.model.filteredApps = []) ∧
        ∀ host, lastScanned events = some host → Shows library host picker.model := by
  obtain ⟨listed, waits⟩ := listed_of_runs run
  refine ⟨waits, fun none => ?_, fun host last => listed.shows sorts last⟩
  rw [listed.filtered, listed.all, none]
  rfl

/-- Case is ignored in ASCII, and the sort is an insertion sort. -/
def asciiLibrary : Library where
  folded text := text.map fun char => char.toLower.toNat
  sort less list := list.insertionSort fun entry later => less later entry = false

/-- The machine with two known binaries. -/
def withBinaries : Host :=
  { flatpakHost with
    findExecutable := fun binary =>
      if binary = "kate".toList ∨ binary = "foot".toList then "/usr/bin/".toList ++ binary
      else [] }

/-- Three apps are found and shown by their names. -/
theorem rows_of_lastScanned_sorted :
    ∃ events picker, Runs (next asciiLibrary) startup events picker ∧
      picker.model.filteredApps.map AppEntry.name =
        ["Kate".toList, "GIMP".toList, "Foot".toList] ∧
      Shows asciiLibrary withBinaries picker.model := by
  have reached : (replay (next asciiLibrary) startup
      [.refresh, .scanComplete withBinaries, .search "T".toList]).any (fun picker =>
        decide (picker.model.filteredApps.map AppEntry.name =
          ["Kate".toList, "GIMP".toList, "Foot".toList])) = true := by
    decide +kernel
  obtain ⟨picker, run, observed⟩ := runs_of_replay _ reached
  exact ⟨_, picker, run, of_decide_eq_true observed,
    (rows_of_lastScanned sorts_insertionSort run).2.2 withBinaries rfl⟩

/-! ## The launches -/

end AppPicker

/-- What an event does to an open dialog that stays open. -/
def LaunchDialog.edit (dialog : LaunchDialog) : PickerEvent → LaunchDialog
  | .check box checked => { dialog with checks := dialog.checks.set checked box }
  | .editWorkspace text => { dialog with workspace := text }
  | _ => dialog

/-- Edits of the dialog do not touch the command. -/
theorem LaunchDialog.appExec_foldl_edit (events : List PickerEvent) (dialog : LaunchDialog) :
    (events.foldl edit dialog).appExec = dialog.appExec := by
  induction events generalizing dialog with
  | nil => rfl
  | cons event rest inductionHypothesis =>
      rw [List.foldl_cons, inductionHypothesis]
      cases event <;> rfl

/-- The boxes that are not touched keep their defaults. -/
theorem LaunchDialog.checks_foldl_edit {events : List PickerEvent}
    (untouched : ∀ box checked, .check box checked ∉ events) (dialog : LaunchDialog) :
    (events.foldl edit dialog).checks = dialog.checks := by
  induction events generalizing dialog with
  | nil => rfl
  | cons event rest inductionHypothesis =>
      rw [List.foldl_cons, inductionHypothesis fun box checked member =>
        untouched box checked (List.mem_cons_of_mem _ member)]
      cases event with
      | check box checked => exact absurd List.mem_cons_self (untouched box checked)
      | _ => rfl

namespace AppPicker

variable {library} {events : List PickerEvent} {picker : AppPicker}

variable (library) in
/-- After the events the row is one of the application, and can be clicked. -/
def Clickable (events : List PickerEvent) (row : Nat) (app : AppEntry) : Prop :=
  ∃ picker, Runs (next library) startup events picker ∧ picker.model.loading = false ∧
    picker.model.filteredApps[row]? = some app

variable (library) in
/-- The dialog is that of the last click with the edits since. -/
def Opened (events : List PickerEvent) (dialog : LaunchDialog) : Prop :=
  ∃ first row during app, events = first ++ .click row :: during ∧
    Clickable library first row app ∧
      dialog = during.foldl .edit (LaunchDialog.new.openFor app)

variable (library) in
/-- The route is that of a dialog which a click opened. -/
def Chosen (events : List PickerEvent) (route : Dlp.LaunchRoute) : Prop :=
  ∃ before dialog after, events = before ++ .launch :: after ∧ Opened library before dialog ∧
    route = dialog.route

/-- An edit leaves the dialog opened for the row that was clicked. -/
theorem Opened.edit {dialog : LaunchDialog} (opened : Opened library events dialog)
    (event : PickerEvent) : Opened library (events ++ [event]) (dialog.edit event) := by
  obtain ⟨first, row, during, app, rfl, clickable, rfl⟩ := opened
  refine ⟨first, row, during ++ [event], app, ?_, clickable, ?_⟩
  · rw [List.append_assoc, List.cons_append]
  · rw [List.foldl_append, List.foldl_cons, List.foldl_nil]

/-- Later events do not change how a launch was chosen. -/
theorem Chosen.append {route : Dlp.LaunchRoute} (chosen : Chosen library events route)
    (event : PickerEvent) : Chosen library (events ++ [event]) route := by
  obtain ⟨before, dialog, after, rfl, opened, rfl⟩ := chosen
  refine ⟨before, dialog, after ++ [event], ?_, opened, rfl⟩
  rw [List.append_assoc, List.cons_append]

variable (library) in
/-- The open dialog and the launches of the past come from clicks. -/
structure Traced (events : List PickerEvent) (picker : AppPicker) : Prop where
  dialog : picker.dialog.opened = true → Opened library events picker.dialog
  launched : ∀ route ∈ picker.launched, Chosen library events route

/-- Every event keeps dialog and launches traced to a click. -/
theorem Traced.next (run : Runs (next library) startup events picker)
    (traced : Traced library events picker) {event : PickerEvent} {after : AppPicker}
    (taken : picker.next library event = some after) :
    Traced library (events ++ [event]) after := by
  have old : ∀ route ∈ picker.launched, Chosen library (events ++ [event]) route :=
    fun route member => (traced.launched route member).append event
  cases event with
  | refresh | search text | selectCategory category =>
      obtain ⟨closed, rfl⟩ := of_guarded taken
      exact ⟨fun opened => absurd opened closed, old⟩
  | scanComplete host =>
      obtain ⟨-, rfl⟩ := of_guarded taken
      exact ⟨fun opened => (traced.dialog opened).edit (.scanComplete host), old⟩
  | click row =>
      obtain ⟨⟨-, ready⟩, taken⟩ := Option.ite_none_right_eq_some.mp taken
      obtain ⟨app, found, rfl⟩ := Option.map_eq_some_iff.mp taken
      refine ⟨fun _ => ⟨events, row, [], app, rfl, ⟨picker, run, ?_, found⟩, rfl⟩, old⟩
      exact Bool.not_eq_true _ ▸ ready
  | check box checked =>
      obtain ⟨opened, rfl⟩ := of_guarded taken
      exact ⟨fun _ => (traced.dialog opened).edit (.check box checked), old⟩
  | editWorkspace text =>
      obtain ⟨opened, rfl⟩ := of_guarded taken
      exact ⟨fun _ => (traced.dialog opened).edit (.editWorkspace text), old⟩
  | cancel =>
      obtain ⟨-, rfl⟩ := of_guarded taken
      exact ⟨(nomatch ·), old⟩
  | launch =>
      obtain ⟨opened, rfl⟩ := of_guarded taken
      refine ⟨(nomatch ·), fun route member => ?_⟩
      rcases List.mem_append.mp member with before | last
      · exact old route before
      · obtain rfl := List.mem_singleton.mp last
        exact ⟨events, picker.dialog, [], rfl, traced.dialog opened, rfl⟩

/-- Every launch of a run goes back to a click on a row: the command is that of an application
which the last scan before the click found and which passed the filters, and the boxes are the
defaults for it unless they were touched in the dialog. -/
theorem launched_was_clicked (sorts : Sorts library.sort)
    (run : Runs (next library) startup events picker) :
    ∀ route ∈ picker.launched, ∃ first row during after app host shown dialog,
      events = first ++ .click row :: (during ++ .launch :: after) ∧
        Runs (next library) startup first shown ∧ lastScanned first = some host ∧
        app ∈ scan host ∧ shown.model.Passes library app ∧
        dialog = during.foldl .edit (LaunchDialog.new.openFor app) ∧ route = dialog.route ∧
        dialog.appExec = app.exec ∧
        ((∀ box checked, .check box checked ∉ during) →
          dialog.checks = defaultChecks app.category app.id) := by
  have traced : Traced library events picker :=
    run.induct (Traced library)
      ⟨fun opened => absurd opened Bool.false_ne_true, fun _ => List.not_mem_nil.elim⟩
      (fun _ _ _ _ prior traced _ taken => traced.next prior taken) (conforms_true events)
  intro route member
  obtain ⟨before, dialog, after, rfl, opened, rfl⟩ := traced.launched route member
  obtain ⟨first, row, during, app, rfl, ⟨shown, earlier, -, found⟩, rfl⟩ := opened
  have listed := (listed_of_runs earlier).1
  have among : app ∈ shown.model.filteredApps := List.mem_of_getElem? found
  obtain ⟨host, last⟩ : ∃ host, lastScanned first = some host := by
    cases last : lastScanned first with
    | some host => exact ⟨host, rfl⟩
    | none =>
        rw [listed.filtered, listed.all, last] at among
        exact absurd among List.not_mem_nil
  obtain ⟨inScan, passes⟩ := ((listed.shows sorts last).mem app).mp among
  refine ⟨first, row, during, after, app, host, shown, _, ?_, earlier, last, inScan, passes, rfl,
    rfl, LaunchDialog.appExec_foldl_edit during _, fun untouched => ?_⟩
  · rw [List.append_assoc, List.cons_append]
  · exact LaunchDialog.checks_foldl_edit untouched _

/-- Kate is started from its dialog, the search having been left, while a scan completes. -/
def launchesKate : List PickerEvent :=
  [.refresh, .scanComplete withBinaries, .search "KA".toList, .click 0, .scanComplete flatpakHost,
    .editWorkspace "/home/user".toList, .launch]

/-- Kate is clicked, edited and launched. -/
theorem launched_was_clicked_kate :
    ∃ picker, Runs (next asciiLibrary) startup launchesKate picker ∧
      ∃ route ∈ picker.launched, ∃ first row during after app host shown dialog,
        launchesKate = first ++ .click row :: (during ++ .launch :: after) ∧
          Runs (next asciiLibrary) startup first shown ∧ lastScanned first = some host ∧
          app ∈ scan host ∧ shown.model.Passes asciiLibrary app ∧
          dialog = during.foldl .edit (LaunchDialog.new.openFor app) ∧ route = dialog.route ∧
          dialog.appExec = app.exec ∧
          ((∀ box checked, .check box checked ∉ during) →
            dialog.checks = defaultChecks app.category app.id) := by
  have reached : (replay (next asciiLibrary) startup launchesKate).any (fun picker =>
      decide (.launchDialog "kate" "Kate" "/home/user" true true false false false ∈
        picker.launched)) = true := by
    decide +kernel
  obtain ⟨picker, run, observed⟩ := runs_of_replay _ reached
  have launched := of_decide_eq_true observed
  exact ⟨picker, run, _, launched, launched_was_clicked sorts_insertionSort run _ launched⟩

end AppPicker

end CoderDesktop.Apps
