import CoderDesktop.Api.CacheOrigin

/-!
# Which reply is shown

`Sequenced` numbers the requests of a polling controller in the order they are sent and
records, for each resource, the newest request that has been answered. A reply is shown
when it arrives, whatever has been shown since its request was sent; the newest answer
stays in place as long as no older one comes after it.
-/

namespace CoderDesktop.Api

open Semantics Settings Models

/-- A timer tick is `refreshNow`. -/
inductive RefreshEvent where
  | refreshNow
  | replied (request : Nat) (reply : Except String Json) (saves : Bool)

/-- A request that was answered, and what was received. -/
structure Received where
  number : Nat
  arr : List Json

/-- The controller with its requests numbered in the order in which they were sent. -/
structure Sequenced where
  controller : PollingController
  /-- The numbers of the requests under way. -/
  numbers : List Nat
  /-- How many requests were sent. -/
  sent : Nat
  /-- Of the requests answered successfully, the one sent last. -/
  newest : Resource → Option Received

/-- Both arrays show the same rows, in some order. -/
def Resource.SameRows : Resource → List Json → List Json → Prop
  | .workspaces, left, right => (workspaceRows left).Perm (workspaceRows right)
  | .tasks, left, right => (taskRows left).Perm (taskRows right)

/-- No id occurs twice. -/
def Resource.Distinct : Resource → List Json → Prop
  | .workspaces, arr => ((workspaceRows arr).map (·.id)).Nodup
  | .tasks, arr => ((taskRows arr).map (·.id)).Nodup

/-- The models list no id twice. -/
structure PollingController.DistinctIds (controller : PollingController) : Prop where
  workspaces : (controller.workspaceModel.rows.map (·.id)).Nodup
  tasks : (controller.taskModel.rows.map (·.id)).Nodup

namespace Sequenced

/-- Nothing has been asked for yet; the models may show anything. -/
def start (controller : PollingController) : Sequenced :=
  ⟨{ controller with requests := [] }, [], 0, fun _ => none⟩

/-- A later request takes over. -/
def answered (newest : Option Received) (received : Received) : Option Received :=
  if newest.all (·.number < received.number) then some received else newest

/-- The newest answers after a reply; a failed one brings none. -/
def newestAfter (world : Sequenced) (request : Request) (number : Nat) :
    Except String Json → Resource → Option Received
  | .error _ => world.newest
  | .ok doc => Function.update world.newest request.resource
      (answered (world.newest request.resource) ⟨number, received request.resource doc⟩)

/-- A refresh sends two requests; a reply takes one away, with its number. -/
def next (world : Sequenced) : RefreshEvent → Option Sequenced
  | .refreshNow =>
      some { world with
        controller := world.controller.refreshNow
        numbers := world.numbers ++ [world.sent, world.sent + 1]
        sent := world.sent + 2 }
  | .replied index reply saves =>
      world.controller.requests[index]?.bind fun request =>
        world.numbers[index]?.bind fun number =>
          (world.controller.step (.replied index reply saves)).map fun result =>
            { world with
              controller := result.1
              numbers := world.numbers.eraseIdx index
              newest := world.newestAfter request number reply }

/-- Each model shows what the newest answer brought. -/
structure ShowsNewest (world : Sequenced) : Prop where
  workspaces : ∀ answer ∈ world.newest .workspaces,
    world.controller.workspaceModel.rows.Perm (workspaceRows answer.arr)
  tasks : ∀ answer ∈ world.newest .tasks,
    world.controller.taskModel.rows.Perm (taskRows answer.arr)

/-- A reply lists no id twice, and is newer than those that came before or brings the
same as the newest. -/
def InOrder (world : Sequenced) : RefreshEvent → Prop
  | .replied index (.ok doc) _ =>
      ∀ request ∈ world.controller.requests[index]?, ∀ number ∈ world.numbers[index]?,
        request.resource.Distinct (received request.resource doc) ∧
          ∀ answer ∈ world.newest request.resource, answer.number < number ∨
            request.resource.SameRows (received request.resource doc) answer.arr
  | .refreshNow | .replied _ (.error _) _ => True

end Sequenced

/-! ## What a reply does to the requests and the rows -/

namespace PollingController

variable (controller : PollingController)

/-- An error leaves the rows as they are. -/
theorem rows_requestFailed (resource : Resource) (msg : String) :
    (controller.requestFailed resource msg).workspaceModel.rows =
        controller.workspaceModel.rows ∧
      (controller.requestFailed resource msg).taskModel.rows = controller.taskModel.rows := by
  cases resource with
  | workspaces => exact ⟨rfl, rfl⟩
  | tasks => exact ⟨rfl, rfl⟩

end PollingController

namespace Sequenced

/-! ## One reply -/

/-- What a reply that is in order leaves as the newest answer shows the same rows. -/
theorem sameRows_answered {resource : Resource} {newest : Option Received} {number : Nat}
    {arr : List Json} (inOrder : ∀ answer ∈ newest, answer.number < number ∨
      resource.SameRows arr answer.arr) :
    ∀ answer ∈ answered newest ⟨number, arr⟩, resource.SameRows arr answer.arr := by
  intro answer member
  unfold answered at member
  split at member
  · obtain rfl := Option.some.inj member
    cases resource with
    | workspaces => exact List.Perm.refl _
    | tasks => exact List.Perm.refl _
  · rename_i notNewer
    rcases inOrder answer member with newer | same
    · rw [Option.mem_def.mp member] at notNewer
      simp [newer] at notNewer
    · exact same

variable {world after : Sequenced}

/-- Before any reply there is nothing newer. -/
theorem start_showsNewest (controller : PollingController) : (start controller).ShowsNewest :=
  ⟨nofun, nofun⟩

/-- A reply in order makes its model show what it brings, and the newest answer shows
the same. -/
theorem ShowsNewest.replied (shows : world.ShowsNewest)
    (distinct : world.controller.DistinctIds) {request : Request} {number : Nat} {doc : Json}
    {saves : Bool} (controller : PollingController)
    (workspaceModel : controller.workspaceModel = world.controller.workspaceModel)
    (taskModel : controller.taskModel = world.controller.taskModel)
    (noRepeat : request.resource.Distinct (received request.resource doc))
    (inOrder : ∀ answer ∈ world.newest request.resource, answer.number < number ∨
      request.resource.SameRows (received request.resource doc) answer.arr)
    (numbers : List Nat) :
    ShowsNewest ⟨(controller.handleReply request.resource (.ok doc) saves).1, numbers, world.sent,
        world.newestAfter request number (.ok doc)⟩ ∧
      (controller.handleReply request.resource (.ok doc) saves).1.DistinctIds := by
  have same := sameRows_answered inOrder
  obtain ⟨resource, baseUrl⟩ := request
  cases resource with
  | workspaces =>
      have shown : (controller.handleReply .workspaces (.ok doc) saves).1.workspaceModel.rows.Perm
          (workspaceRows (received .workspaces doc)) := by
        rw [PollingController.workspaceRows_handleReply, if_pos rfl, workspaceModel]
        exact setRows_perm noRepeat distinct.workspaces
      have kept : (controller.handleReply .workspaces (.ok doc) saves).1.taskModel.rows =
          world.controller.taskModel.rows := by
        rw [PollingController.taskRows_handleReply, if_neg nofun, taskModel]
      refine ⟨⟨fun answer member => ?_, fun answer member => ?_⟩, ?_, ?_⟩
      · simp only [newestAfter, Function.update_self] at member
        exact shown.trans (same answer member)
      · simp only [newestAfter, Function.update_of_ne (show Resource.tasks ≠ .workspaces from
          nofun)] at member
        exact kept ▸ shows.tasks answer member
      · exact (shown.map _).nodup_iff.mpr noRepeat
      · exact kept ▸ distinct.tasks
  | tasks =>
      have shown : (controller.handleReply .tasks (.ok doc) saves).1.taskModel.rows.Perm
          (taskRows (received .tasks doc)) := by
        rw [PollingController.taskRows_handleReply, if_pos rfl, taskModel]
        exact setRows_perm noRepeat distinct.tasks
      have kept : (controller.handleReply .tasks (.ok doc) saves).1.workspaceModel.rows =
          world.controller.workspaceModel.rows := by
        rw [PollingController.workspaceRows_handleReply, if_neg nofun, workspaceModel]
      refine ⟨⟨fun answer member => ?_, fun answer member => ?_⟩, ?_, ?_⟩
      · simp only [newestAfter, Function.update_of_ne (show Resource.workspaces ≠ .tasks from
          nofun)] at member
        exact kept ▸ shows.workspaces answer member
      · simp only [newestAfter, Function.update_self] at member
        exact shown.trans (same answer member)
      · exact kept ▸ distinct.workspaces
      · exact (shown.map _).nodup_iff.mpr noRepeat

/-- A reply that arrives in order leaves the newest one shown. -/
theorem ShowsNewest.step (shows : world.ShowsNewest) (distinct : world.controller.DistinctIds)
    {event : RefreshEvent} (allowed : world.InOrder event)
    (taken : world.next event = some after) :
    after.ShowsNewest ∧ after.controller.DistinctIds := by
  cases event with
  | refreshNow =>
      obtain rfl := Option.some.inj taken
      exact ⟨⟨shows.workspaces, shows.tasks⟩, ⟨distinct.workspaces, distinct.tasks⟩⟩
  | replied index reply saves =>
      obtain ⟨request, found, taken⟩ := Option.bind_eq_some_iff.mp taken
      obtain ⟨number, numbered, taken⟩ := Option.bind_eq_some_iff.mp taken
      obtain ⟨result, step, rfl⟩ := Option.map_eq_some_iff.mp taken
      simp only [PollingController.step, found, Option.map_some, Option.some.injEq] at step
      subst step
      cases reply with
      | error msg =>
          obtain ⟨workspaces, tasks⟩ := PollingController.rows_requestFailed
            { world.controller with
              requests := world.controller.requests.eraseIdx index } request.resource msg
          exact ⟨⟨fun answer member => workspaces ▸ shows.workspaces answer member,
              fun answer member => tasks ▸ shows.tasks answer member⟩,
            ⟨workspaces ▸ distinct.workspaces, tasks ▸ distinct.tasks⟩⟩
      | ok doc =>
          obtain ⟨noRepeat, inOrder⟩ := allowed request found number numbered
          exact shows.replied distinct { world.controller with
            requests := world.controller.requests.eraseIdx index } rfl rfl noRepeat inOrder _

/-! ## Results -/

/-- In every run whose successful replies come in the order of their requests, each
model shows what the newest answered request brought. -/
theorem showsNewest_of_inOrder (controller : PollingController)
    (distinct : controller.DistinctIds) (events : List RefreshEvent)
    (conforms : Conforms next InOrder (start controller) events) :
    ∀ world, Visits next (start controller) events world → world.ShowsNewest := by
  rintro world ⟨before, rest, rfl, run⟩
  exact (run.induct (fun _ state => state.ShowsNewest ∧ state.controller.DistinctIds)
    ⟨start_showsNewest controller, ⟨distinct.workspaces, distinct.tasks⟩⟩
    (fun _ _ _ _ _ holds allowed taken => holds.1.step holds.2 allowed taken)
    conforms.ofAppend).1

/-- A reply with one workspace of this name. -/
def docOf (name : String) : Json :=
  .object [("workspaces", .array [.object [("id", .string "1"), ("name", .string name)]])]

/-- The ids of the example's replies are distinct. -/
theorem docOf_distinct (name : String) :
    Resource.workspaces.Distinct (received .workspaces (docOf name)) :=
  List.nodup_singleton _

/-- A controller that caches nothing, with notifications. -/
def polled : PollingController := .new ⟨true, 10, false⟩ fun _ _ => none

/-- The reply to the first request comes after the reply to the second. -/
theorem older_reply_overwrites_newer :
    ¬ ∀ world, Visits next (start polled)
        [.refreshNow, .refreshNow, .replied 2 (.ok (docOf "new")) true,
          .replied 0 (.ok (docOf "old")) true] world → world.ShowsNewest := by
  refine not_visits_of_replay (fun world =>
    world.controller.workspaceModel.rows.map (·.name) = ["old"] ∧
      (world.newest .workspaces).any fun answer =>
        (workspaceRows answer.arr).map (·.name) = ["new"]) (by decide) ?_
  intro world reached shows
  obtain ⟨shown, brought⟩ := of_decide_eq_true reached
  obtain ⟨answer, member, names⟩ := (Option.any_eq_true _ _).mp brought
  have same := (shows.workspaces answer member).map (·.name)
  rw [shown, of_decide_eq_true names] at same
  exact absurd (same.mem_iff.mp List.mem_cons_self) (by decide)

/-- Two requests, answered in the order they were sent. -/
theorem showsNewest_of_inOrder_twice : ∃ world, Runs next (start polled)
    [.refreshNow, .refreshNow, .replied 0 (.ok (docOf "old")) true,
      .replied 1 (.ok (docOf "new")) true] world ∧
    world.controller.workspaceModel.rows.map (·.name) = ["new"] ∧ world.ShowsNewest := by
  refine (runs_of_replay (fun world =>
    world.controller.workspaceModel.rows.map (·.name) = ["new"]) (by decide)).imp
      fun world ⟨run, shown⟩ => ⟨run, of_decide_eq_true shown, ?_⟩
  refine showsNewest_of_inOrder polled ⟨List.nodup_nil, List.nodup_nil⟩ _ ?_ world run.visits
  intro _ taken
  obtain rfl := Option.some.inj taken
  refine ⟨trivial, fun _ taken => ?_⟩
  obtain rfl := Option.some.inj taken
  refine ⟨trivial, fun _ taken => ?_⟩
  obtain rfl := Option.some.inj taken
  refine ⟨fun request found number numbered => ?_, fun _ taken => ?_⟩
  · obtain rfl := Option.some.inj found
    exact ⟨docOf_distinct _, nofun⟩
  obtain rfl := Option.some.inj taken
  refine ⟨fun request found number numbered => ?_, trivial⟩
  obtain rfl := Option.some.inj found
  obtain rfl := Option.some.inj numbered
  refine ⟨docOf_distinct _, fun answer member => .inl ?_⟩
  obtain rfl := Option.some.inj member
  decide

end Sequenced

end CoderDesktop.Api
