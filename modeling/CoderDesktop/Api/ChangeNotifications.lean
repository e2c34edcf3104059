import CoderDesktop.Api.PollingController
import CoderDesktop.Models.RowView
import CoderDesktop.Semantics.Run

/-!
# Notifications of changes

`Watched` counts, next to the controller, the successful replies of each kind since the
last `start`. Both kinds are held back until the first reply of the workspaces: the
controller has one flag for both, which only that reply clears. From then on a reply asks
for a notification of each item whose status differs from the row shown before.
-/

namespace CoderDesktop.Api

open Semantics Settings Models

/-! ## What has changed -/

/-- The row shown for an id; the last one, should there be several. -/
def lastRow {Row : Type} (key : Row → String) (rows : List Row) (id : String) : Option Row :=
  (rows.filter fun row => key row = id).getLast?

/-- The last row with a key is the first one from behind. -/
theorem reverse_find?_eq_lastRow {Row : Type} (key : Row → String) (rows : List Row)
    (id : String) : rows.reverse.find? (fun row => key row = id) = lastRow key rows id := by
  rw [lastRow, List.getLast?_eq_head?_reverse, ← List.filter_reverse, List.head?_filter]

/-- The workspace was shown with another status. -/
def workspaceChanged (rows : List WorkspaceInfo) (ws : WorkspaceInfo) : Bool :=
  (lastRow WorkspaceInfo.id rows ws.id).any fun old => old.status ≠ ws.status

/-- The task was shown with another status or current state. -/
def taskChanged (rows : List TaskInfo) (task : TaskInfo) : Bool :=
  (lastRow TaskInfo.id rows task.id).any fun old =>
    old.status ≠ task.status ∨ old.currentState ≠ task.currentState

/-- What is shown for a workspace that has changed. -/
def workspaceNotification (ws : WorkspaceInfo) : Notification :=
  ⟨"Workspace: " ++ ws.name, "Status changed", "WorkspaceState"⟩

/-- What is shown for a task that has changed, under its display name if it has one. -/
def taskNotification (task : TaskInfo) : Notification :=
  ⟨"Task: " ++ (if task.displayName = "" then task.name else task.displayName),
    "Status changed", "TaskUpdate"⟩

/-- Comparing one by one finds the rows for which the comparison says so. -/
theorem filterMap_bind_ite {Row Old Told : Type} (find : Row → Option Old)
    (differs : Row → Old → Prop) [∀ row old, Decidable (differs row old)] (tell : Row → Told)
    (rows : List Row) :
    (rows.filterMap fun row => (find row).bind fun old =>
        if differs row old then some (tell row) else none) =
      (rows.filter fun row => (find row).any fun old => differs row old).map tell := by
  induction rows with
  | nil => rfl
  | cons row rest inductionHypothesis =>
      rw [List.filterMap_cons, inductionHypothesis, List.filter_cons]
      cases find row with
      | none => rfl
      | some old => by_cases different : differs row old <;> simp [different]

namespace PollingController

variable (controller : PollingController)

/-- A notification for each item of a reply that was shown differently. -/
def changes (doc : Json) : Resource → List Notification
  | .workspaces =>
      ((workspaceRows (receivedWorkspaces doc)).filter
        (workspaceChanged controller.workspaceModel.rows)).map workspaceNotification
  | .tasks =>
      ((taskRows (receivedTasks doc)).filter
        (taskChanged controller.taskModel.rows)).map taskNotification

/-- What a reply asks for: nothing at first, and every change later. -/
theorem notifications_handleReply (enabled : controller.settings.notificationsEnabled = true)
    (resource : Resource) (doc : Json) (saves : Bool) :
    (controller.handleReply resource (.ok doc) saves).2 =
      if controller.firstFetch then [] else controller.changes doc resource := by
  cases resource with
  | workspaces =>
      change controller.detectWorkspaceChanges _ = _
      simp only [detectWorkspaceChanges, enabled, Bool.true_eq_false, or_false]
      split
      · rfl
      · simp only [reverse_find?_eq_lastRow, filterMap_bind_ite]
        rfl
  | tasks =>
      change controller.detectTaskChanges _ = _
      simp only [detectTaskChanges, enabled, Bool.true_eq_false, or_false]
      split
      · rfl
      · simp only [reverse_find?_eq_lastRow, filterMap_bind_ite]
        rfl

/-! ## The flag -/

@[simp] theorem firstFetch_loadCache (opens : Resource → Bool) :
    (controller.loadCache opens).firstFetch = controller.firstFetch := by
  unfold loadCache
  cases controller.cached opens .workspaces <;> cases controller.cached opens .tasks <;> rfl

@[simp] theorem firstFetch_start (opens : Resource → Bool) :
    (controller.start opens).firstFetch = true :=
  firstFetch_loadCache _ opens

@[simp] theorem firstFetch_saveCache (resource : Resource) (arr : List Json) (saves : Bool) :
    (controller.saveCache resource arr saves).firstFetch = controller.firstFetch := by
  unfold saveCache
  split <;> rfl

@[simp] theorem firstFetch_settingsChanged (settings : PollingSettings)
    (removes : Resource → Bool) :
    (controller.settingsChanged settings removes).firstFetch = controller.firstFetch := by
  unfold settingsChanged
  split <;> rfl

/-- A successful reply of the workspaces clears the flag, and nothing else does. -/
theorem firstFetch_handleReply (resource : Resource) (reply : Except String Json)
    (saves : Bool) :
    (controller.handleReply resource reply saves).1.firstFetch =
      (controller.firstFetch && !(decide (resource = .workspaces) && reply.isOk)) := by
  cases reply with
  | error err =>
      simp only [Except.isOk, Except.toBool, Bool.and_false, Bool.not_false, Bool.and_true]
      cases resource <;> rfl
  | ok doc =>
      cases resource with
      | workspaces => simp [handleReply, handleWorkspacesReceived, Except.isOk, Except.toBool]
      | tasks =>
          simp only [handleReply, handleTasksReceived, firstFetch_saveCache, reduceCtorEq,
            decide_false, Bool.false_and, Bool.not_false, Bool.and_true]
          rfl

end PollingController

/-! ## Runs -/

/-- The controller, and the successful replies of each kind since the last `start`. -/
structure Watched where
  controller : PollingController
  replies : Resource → Nat

namespace Watched

/-- No reply has come yet. -/
def new (settings : PollingSettings) (cache : String → Resource → Option (List Json)) : Watched :=
  ⟨.new settings cache, fun _ => 0⟩

/-- A new controller starts counting too. -/
def repliesAfter (world : Watched) : PollingEvent → Resource → Nat
  | .start _ | .restart _ => fun _ => 0
  | .replied index (.ok _) _ =>
      match world.controller.requests[index]? with
      | some request =>
          Function.update world.replies request.resource (world.replies request.resource + 1)
      | none => world.replies
  | .replied _ (.error _) _ | .stop | .tick | .refreshNow | .setBaseUrl _ | .setSessionToken _
  | .settingsChanged _ _ => world.replies

/-- A step of the controller, with the replies counted. -/
def next (world : Watched) (event : PollingEvent) : Option Watched :=
  (world.controller.step event).map fun result => ⟨result.1, world.repliesAfter event⟩

/-- With notifications on, a step asks for those of a successful reply's changes once a
reply of the kind `gate` names has come since the last `start`, and for none before. -/
structure Exact (gate : Resource → Resource) (world : Watched) : Prop where
  reply : ∀ index request doc saves after notifications,
    world.controller.requests[index]? = some request →
    world.controller.settings.notificationsEnabled = true →
    world.controller.step (.replied index (.ok doc) saves) = some (after, notifications) →
    notifications = if world.replies (gate request.resource) = 0 then []
      else world.controller.changes doc request.resource
  others : ∀ event after notifications,
    (∀ index doc saves, event ≠ .replied index (.ok doc) saves) →
    world.controller.step event = some (after, notifications) → notifications = []

/-- The flag tells whether a reply of the workspaces has come. -/
def FlagCounts (world : Watched) : Prop :=
  world.controller.firstFetch = decide (world.replies .workspaces = 0)

/-- The flag counts the fetches of both kinds, step by step. -/
theorem FlagCounts.step {world after : Watched} {event : PollingEvent}
    (counts : world.FlagCounts) (taken : world.next event = some after) : after.FlagCounts := by
  obtain ⟨⟨controller, notifications⟩, stepped, rfl⟩ := Option.map_eq_some_iff.mp taken
  unfold FlagCounts
  cases event with
  | start opens =>
      obtain ⟨rfl, -⟩ := Prod.mk.inj (Option.some.inj stepped)
      simp [repliesAfter]
  | restart settings =>
      obtain ⟨rfl, -⟩ := Prod.mk.inj (Option.some.inj stepped)
      rfl
  | tick =>
      simp only [PollingController.step] at stepped
      split at stepped
      · obtain ⟨rfl, -⟩ := Prod.mk.inj (Option.some.inj stepped)
        exact counts
      · cases stepped
  | stop | refreshNow | setBaseUrl url | setSessionToken token =>
      obtain ⟨rfl, -⟩ := Prod.mk.inj (Option.some.inj stepped)
      exact counts
  | settingsChanged settings removes =>
      obtain ⟨rfl, -⟩ := Prod.mk.inj (Option.some.inj stepped)
      rw [PollingController.firstFetch_settingsChanged]
      exact counts
  | replied index reply saves =>
      obtain ⟨request, found, handled⟩ := Option.map_eq_some_iff.mp stepped
      have flag := PollingController.firstFetch_handleReply
        { world.controller with requests := world.controller.requests.eraseIdx index }
        request.resource reply saves
      rw [handled] at flag
      rw [flag, counts]
      cases reply with
      | error err =>
          rw [Except.isOk, Except.toBool, Bool.and_false, Bool.not_false, Bool.and_true]
          rfl
      | ok doc =>
          simp only [repliesAfter, found]
          by_cases workspaces : request.resource = .workspaces
          · rw [workspaces, Function.update_self]
            simp [Except.isOk, Except.toBool]
          · rw [Function.update_of_ne (Ne.symm workspaces)]
            simp [workspaces]

/-- Only a successful reply asks for notifications. -/
theorem no_notifications {controller after : PollingController} {event : PollingEvent}
    {notifications : List Notification}
    (noReply : ∀ index doc saves, event ≠ .replied index (.ok doc) saves)
    (stepped : controller.step event = some (after, notifications)) : notifications = [] := by
  cases event with
  | start opens | stop | refreshNow | setBaseUrl url | setSessionToken token
  | settingsChanged settings removes | restart settings =>
      exact (Prod.mk.inj (Option.some.inj stepped)).2.symm
  | tick =>
      simp only [PollingController.step] at stepped
      split at stepped
      · exact (Prod.mk.inj (Option.some.inj stepped)).2.symm
      · cases stepped
  | replied index reply saves =>
      cases reply with
      | ok doc => exact absurd rfl (noReply index doc saves)
      | error err =>
          obtain ⟨request, -, handled⟩ := Option.map_eq_some_iff.mp stepped
          exact (Prod.mk.inj handled).2.symm

/-- With such a flag the change notifications are exact. -/
theorem FlagCounts.exact {world : Watched} (counts : world.FlagCounts) :
    world.Exact fun _ => .workspaces where
  reply := by
    intro index request doc saves after notifications found enabled stepped
    have handled : PollingController.handleReply
        { world.controller with requests := world.controller.requests.eraseIdx index }
        request.resource (.ok doc) saves = (after, notifications) := by
      simpa [PollingController.step, found] using stepped
    have asked := PollingController.notifications_handleReply
      { world.controller with requests := world.controller.requests.eraseIdx index } enabled
      request.resource doc saves
    rw [handled] at asked
    change notifications = _ at asked
    rw [asked, counts]
    by_cases none : world.replies .workspaces = 0
    · rw [if_pos none, if_pos (decide_eq_true none)]
    · rw [if_neg none, if_neg (by simpa using none)]
      cases request.resource <;> rfl
  others := fun _ _ _ => no_notifications

/-- In every run, the first reply of the workspaces after a `start` opens the notifications
of both kinds: until then, itself included, none is asked for, and from then on every reply
asks for those of its changes. -/
theorem exact_of_runs (settings : PollingSettings)
    (cache : String → Resource → Option (List Json)) {events : List PollingEvent}
    {world : Watched} (run : Runs next (new settings cache) events world) :
    world.Exact fun _ => .workspaces := by
  have counts : world.FlagCounts := by
    refine run.invariant ?_ fun _ _ _ counts taken => counts.step taken
    rfl
  exact counts.exact

/-- A task in the given status, as the server sends it. -/
def taskInStatus (status : String) : Json :=
  .object [("id", .string "1"), ("name", .string "build"), ("status", .string status)]

/-- With a task in the cache, the first reply of the tasks after a `start` asks for a
notification if it comes after that of the workspaces. -/
theorem first_tasks_reply_notifies :
    ¬ ∀ world, Visits next
        (new ⟨true, 10, false⟩ fun _ resource =>
          if resource = .tasks then some [taskInStatus "pending"] else none)
        [.start fun _ => true, .replied 0 (.ok (.object [])) false] world →
      world.Exact fun resource => resource := by
  refine not_visits_of_replay (fun world =>
    world.replies .tasks = 0 ∧
      world.controller.settings.notificationsEnabled = true ∧
      world.controller.requests[0]? = some ⟨.tasks, ""⟩ ∧
      (world.controller.step (.replied 0 (.ok (.array [taskInStatus "active"])) false)).map
        Prod.snd = some [⟨"Task: build", "Status changed", "TaskUpdate"⟩]) (by decide +kernel) ?_
  intro world reached opened
  obtain ⟨noReply, enabled, found, notified⟩ := of_decide_eq_true reached
  obtain ⟨⟨after, notifications⟩, stepped, rfl⟩ := Option.map_eq_some_iff.mp notified
  have silent := opened.reply 0 _ _ _ _ _ found enabled stepped
  rw [if_pos noReply] at silent
  cases silent

/-- Polling that was started and answered by the workspaces. -/
theorem exact_of_answered_workspaces : ∃ world,
    Runs next (new ⟨true, 10, false⟩ fun _ _ => none)
      [.start fun _ => true, .replied 0 (.ok (.object [])) false] world ∧
    world.replies .workspaces = 1 ∧ world.Exact fun _ => .workspaces := by
  refine (runs_of_replay (fun world => world.replies .workspaces = 1) (by decide +kernel)).imp
    fun world ⟨run, answered⟩ => ⟨run, of_decide_eq_true answered, ?_⟩
  exact exact_of_runs _ _ run

end Watched

end CoderDesktop.Api
