import CoderDesktop.Auth.SchemeProbing

/-!
# Where login tokens come from

`TokenWorld` numbers the flows and records, for every call of `SessionManager::login`,
the page its token is from. Cookies and script results are taken on trust while a flow
is active, so a token is used where it comes from exactly when nothing but the pages
of that flow brings one.
-/

namespace CoderDesktop.Auth

open Semantics

/-- A login, and where its token came from. -/
structure LoginCall where
  url : String
  token : String
  /-- The page of the event that caused the call. -/
  page : Option Page
  /-- The flow at the time of the call. -/
  flow : Nat
deriving DecidableEq, Repr

/-- The page an event comes from. -/
def LoginFlowEvent.page : LoginFlowEvent → Option Page
  | .cookieAdded page _ | .jsTokenResult page _ => some page
  | .startFlow _ | .cancelFlow | .probeFinished _ _ => none

/-- The URL and the token of each call of `login`. -/
def loggedIn (actions : List LoginFlowAction) : List (String × String) :=
  actions.filterMap fun
    | .login url token => some (url, token)
    | .continueStartFlow _ | .clearCookies | .probingChanged | .probeFailed _ | .loginUrlChanged
    | .flowActiveChanged | .externalBrowserOpened _ | .tokenObtained _ _ => none

/-- The controller, with its flows and logins. -/
structure TokenWorld where
  controller : LoginFlowController
  /-- The number of flows begun. -/
  flow : Nat
  logins : List LoginCall
deriving DecidableEq, Repr

namespace TokenWorld

/-- No flow was begun yet. -/
def new (webEngine : Bool) : TokenWorld := ⟨.new webEngine, 0, []⟩

/-- Every entry of `continueStartFlow` begins a flow. -/
def record (world : TokenWorld) (event : LoginFlowEvent)
    (result : LoginFlowController × List LoginFlowAction) : TokenWorld where
  controller := result.1
  flow := world.flow + (entered result.2).length
  logins := world.logins ++ (loggedIn result.2).map fun call =>
    ⟨call.1, call.2, event.page, world.flow⟩

/-- A step of the controller, with its history. -/
def next (world : TokenWorld) (event : LoginFlowEvent) : Option TokenWorld :=
  (world.controller.step event).map (world.record event)

/-- Tokens come from the deployment they are used for, within the flow, and a flow
uses one. -/
structure Confined (world : TokenWorld) : Prop where
  origin : ∀ call ∈ world.logins, call.page = some ⟨call.url, call.flow⟩
  once : (world.logins.map (·.flow)).Nodup

/-- A token that comes while a flow is active is from a page of its deployment, loaded
in this flow. -/
def FromActiveFlow (world : TokenWorld) : LoginFlowEvent → Prop
  | .cookieAdded page cookie =>
      world.controller.flowActive = true → cookie.name = kSessionCookieName →
        Data.fromUtf8 cookie.value ≠ "" → page = ⟨world.controller.deploymentUrl, world.flow⟩
  | .jsTokenResult page token =>
      world.controller.flowActive = true → token ≠ "" →
        page = ⟨world.controller.deploymentUrl, world.flow⟩
  | .startFlow _ | .cancelFlow | .probeFinished _ _ => True

/-- An active flow has used no token, and pages are shown by WebEngine. -/
structure Counted (world : TokenWorld) : Prop where
  engine : world.controller.flowActive = true → world.controller.webEngine = true
  begun : ∀ call ∈ world.logins, call.flow ≤ world.flow
  unused : world.controller.flowActive = true → ∀ call ∈ world.logins, call.flow ≠ world.flow
  once : (world.logins.map (·.flow)).Nodup

end TokenWorld

/-! ## What the handlers do to the flow -/

/-- A handler that neither begins nor ends a flow with a token. -/
structure Silent (controller : LoginFlowController)
    (result : LoginFlowController × List LoginFlowAction) : Prop where
  entered : entered result.2 = []
  loggedIn : loggedIn result.2 = []
  flowActive : result.1.flowActive = true → controller.flowActive = true
  webEngine : result.1.webEngine = controller.webEngine

/-- A handler that begins a flow. -/
structure Begins (controller : LoginFlowController)
    (result : LoginFlowController × List LoginFlowAction) : Prop where
  entered : (entered result.2).length = 1
  loggedIn : loggedIn result.2 = []
  flowActive : result.1.flowActive = true → controller.webEngine = true
  webEngine : result.1.webEngine = controller.webEngine

namespace LoginFlowController

variable (controller : LoginFlowController)

/-- Going on to a URL begins a flow, seen from an earlier controller. -/
theorem begins_continueStartFlow (url : String) (before : LoginFlowController)
    (engine : before.webEngine = controller.webEngine)
    (inactive : controller.webEngine = false → controller.flowActive = false) :
    Begins before (controller.continueStartFlow url) := by
  unfold continueStartFlow
  split
  · rename_i hasEngine
    exact ⟨rfl, rfl, fun _ => engine.trans hasEngine, engine.symm⟩
  · rename_i noEngine
    refine ⟨rfl, rfl, fun active => ?_, engine.symm⟩
    have off := inactive (Bool.eq_false_iff.mpr noEngine)
    exact absurd (off.symm.trans active) Bool.false_ne_true

/-- A token is used while a flow is active, and ends it. -/
theorem capture_cases (token : String) :
    ((controller.flowActive = false ∨ token = "") ∧ controller.capture token = (controller, [])) ∨
    (controller.flowActive = true ∧ token ≠ "" ∧
      (controller.capture token).1.flowActive = false ∧
      entered (controller.capture token).2 = [] ∧
      loggedIn (controller.capture token).2 = [(controller.deploymentUrl, token)]) := by
  unfold capture
  by_cases inactive : controller.flowActive = false
  · exact .inl ⟨.inl inactive, if_pos inactive⟩
  by_cases blank : token = ""
  · exact .inl ⟨.inr blank, by rw [if_neg inactive, if_pos blank]⟩
  · refine .inr ⟨Bool.not_eq_false _ ▸ inactive, blank, ?_⟩
    rw [if_neg inactive, if_neg blank]
    unfold clearCookies
    split
    · exact ⟨rfl, rfl, rfl⟩
    · exact ⟨rfl, rfl, rfl⟩

section Flow

variable {controller}
variable (engine : controller.flowActive = true → controller.webEngine = true)

include engine

/-- Going on to a URL begins a flow. -/
theorem begins_continue (url : String) : Begins controller (controller.continueStartFlow url) :=
  controller.begins_continueStartFlow url controller rfl fun noEngine =>
    Bool.eq_false_iff.mpr fun active =>
      absurd (noEngine.symm.trans (engine active)) Bool.false_ne_true

/-- `startFlow` begins a flow or is silent. -/
theorem startFlow_flow (deploymentUrl : String) :
    Silent controller (controller.startFlow deploymentUrl) ∨
      Begins controller (controller.startFlow deploymentUrl) := by
  unfold startFlow
  by_cases blank : Api.normalised deploymentUrl = ""
  · exact .inl ⟨by simp [blank, entered], by simp [blank, loggedIn], by simp [blank],
      by simp [blank]⟩
  simp only [if_neg blank]
  split
  · have begins := @begins_continue { controller with
      starts := controller.starts + 1 } engine (Api.normalised deploymentUrl)
    exact .inr ⟨begins.entered, begins.loggedIn, begins.flowActive, begins.webEngine⟩
  · exact .inl ⟨rfl, rfl, id, rfl⟩

/-- The end of a probe begins a flow or is silent. -/
theorem probeFinished_flow (probe : Probe) (error : ReplyError) :
    Silent controller (controller.probeFinished probe error) ∨
      Begins controller (controller.probeFinished probe error) := by
  rcases controller.probeFinished_cases probe error with
    ⟨-, handled⟩ | ⟨-, -, handled⟩ | ⟨-, -, -, handled⟩ | ⟨-, -, -, handled⟩
  · rw [handled]
    exact .inl ⟨rfl, rfl, id, rfl⟩
  · rw [handled]
    have begins := @begins_continue { controller with probing := false } engine
      (probe.scheme.text ++ controller.pendingHost)
    exact .inr ⟨begins.entered, begins.loggedIn, begins.flowActive, begins.webEngine⟩
  · rw [handled]
    exact .inl ⟨rfl, rfl, id, rfl⟩
  · rw [handled]
    exact .inl ⟨rfl, rfl, id, rfl⟩

end Flow

/-- Cancelling is silent. -/
theorem cancelFlow_flow : Silent controller controller.cancelFlow := by
  unfold cancelFlow clearCookies
  refine ⟨?_, ?_, nofun, rfl⟩
  · split <;> split <;> rfl
  · split <;> split <;> rfl

end LoginFlowController

/-! ## Flows and the tokens they used -/

namespace TokenWorld

variable {world after : TokenWorld}

/-- No flow has begun. -/
theorem counted_new (webEngine : Bool) : (new webEngine).Counted where
  engine := nofun
  begun := nofun
  unused := nofun
  once := List.nodup_nil

/-- Without a login nothing is recorded. -/
theorem logins_record_of_nil (event : LoginFlowEvent)
    {result : LoginFlowController × List LoginFlowAction} (none : loggedIn result.2 = []) :
    (world.record event result).logins = world.logins := by
  simp [record, none]

/-- A silent step keeps the count. -/
theorem Counted.silent (counted : world.Counted) (event : LoginFlowEvent)
    {result : LoginFlowController × List LoginFlowAction}
    (silent : Silent world.controller result) : (world.record event result).Counted := by
  have same : (world.record event result).logins = world.logins :=
    logins_record_of_nil event silent.loggedIn
  have flow : (world.record event result).flow = world.flow := by simp [record, silent.entered]
  refine ⟨fun active => ?_, ?_, fun active => ?_, ?_⟩
  · exact silent.webEngine.trans (counted.engine (silent.flowActive active))
  · rw [same, flow]
    exact counted.begun
  · rw [same, flow]
    exact counted.unused (silent.flowActive active)
  · rw [same]
    exact counted.once

/-- The beginning of a flow is counted. -/
theorem Counted.begins (counted : world.Counted) (event : LoginFlowEvent)
    {result : LoginFlowController × List LoginFlowAction}
    (begins : Begins world.controller result) : (world.record event result).Counted := by
  have same : (world.record event result).logins = world.logins :=
    logins_record_of_nil event begins.loggedIn
  have flow : (world.record event result).flow = world.flow + 1 := by
    simp [record, begins.entered]
  refine ⟨fun active => begins.webEngine.trans (begins.flowActive active), ?_, ?_, ?_⟩
  · rw [same, flow]
    exact fun call member => Nat.le_succ_of_le (counted.begun call member)
  · rw [same, flow]
    intro _ call member
    have earlier := counted.begun call member
    omega
  · rw [same]
    exact counted.once

/-- A captured token keeps the count. -/
theorem Counted.captured (counted : world.Counted) (event : LoginFlowEvent) (token : String) :
    (world.record event (world.controller.capture token)).Counted := by
  rcases world.controller.capture_cases token with
    ⟨-, ignored⟩ | ⟨active, -, ended, none, logged⟩
  · rw [ignored]
    exact counted.silent event ⟨rfl, rfl, id, rfl⟩
  · have flow : (world.record event (world.controller.capture token)).flow = world.flow := by
      simp [record, none]
    have logins : (world.record event (world.controller.capture token)).logins =
        world.logins ++ [⟨world.controller.deploymentUrl, token, event.page, world.flow⟩] := by
      simp [record, logged]
    have finished : ¬ (world.record event (world.controller.capture token)).controller.flowActive =
        true := by
      rw [record, ended]
      exact Bool.false_ne_true
    refine ⟨fun still => absurd still finished, ?_, fun still => absurd still finished, ?_⟩
    · rw [flow, logins]
      intro call member
      rcases List.mem_append.mp member with old | new
      · exact counted.begun call old
      · obtain rfl := List.mem_singleton.mp new
        exact Nat.le_refl _
    · rw [logins, List.map_append, List.nodup_append]
      refine ⟨counted.once, by simp, ?_⟩
      rintro earlier old flow new rfl
      obtain ⟨call, member, rfl⟩ := List.mem_map.mp old
      exact counted.unused active call member (List.mem_singleton.mp new)

/-- Every step keeps the count. -/
theorem Counted.step (counted : world.Counted) {event : LoginFlowEvent}
    (taken : world.next event = some after) : after.Counted := by
  obtain ⟨result, step, rfl⟩ := Option.map_eq_some_iff.mp taken
  cases event with
  | startFlow deploymentUrl =>
      obtain rfl := Option.some.inj step
      rcases LoginFlowController.startFlow_flow counted.engine deploymentUrl with silent | begins
      · exact counted.silent _ silent
      · exact counted.begins _ begins
  | cancelFlow =>
      obtain rfl := Option.some.inj step
      exact counted.silent _ world.controller.cancelFlow_flow
  | probeFinished index error =>
      obtain ⟨probe, -, rfl⟩ := Option.map_eq_some_iff.mp step
      rcases @LoginFlowController.probeFinished_flow { world.controller with
          probes := world.controller.probes.eraseIdx index } counted.engine probe error with
        silent | begins
      · exact counted.silent _ ⟨silent.entered, silent.loggedIn, silent.flowActive,
          silent.webEngine⟩
      · exact counted.begins _ ⟨begins.entered, begins.loggedIn, begins.flowActive,
          begins.webEngine⟩
  | cookieAdded page cookie =>
      obtain rfl := Option.some.inj step
      unfold LoginFlowController.handleCookieAdded
      split
      · exact counted.silent _ ⟨rfl, rfl, id, rfl⟩
      split
      · exact counted.silent _ ⟨rfl, rfl, id, rfl⟩
      · exact counted.captured _ _
  | jsTokenResult page token =>
      obtain rfl := Option.some.inj step
      exact counted.captured _ _

/-! ## Origins -/

/-- Only the new calls matter: a flow never uses two tokens. -/
theorem confined_record_iff (counted : world.Counted) (confined : world.Confined)
    {event : LoginFlowEvent} {result : LoginFlowController × List LoginFlowAction}
    (taken : world.next event = some (world.record event result)) :
    (world.record event result).Confined ↔
      ∀ call ∈ loggedIn result.2, event.page = some ⟨call.1, world.flow⟩ := by
  constructor
  · intro after call member
    exact after.origin ⟨call.1, call.2, event.page, world.flow⟩
      (List.mem_append_right _ (List.mem_map.mpr ⟨call, member, rfl⟩))
  · intro fresh
    refine ⟨fun call member => ?_, (counted.step taken).once⟩
    rcases List.mem_append.mp member with old | new
    · exact confined.origin call old
    · obtain ⟨logged, isLogged, rfl⟩ := List.mem_map.mp new
      exact fresh logged isLogged

/-- What a capture logs in with is the page's, exactly when there is no login or the page is the
flow's. -/
theorem captured_iff (page : Option Page) (token : String) :
    (∀ call ∈ loggedIn (world.controller.capture token).2,
        page = some ⟨call.1, world.flow⟩) ↔
      (world.controller.flowActive = true → token ≠ "" →
        page = some ⟨world.controller.deploymentUrl, world.flow⟩) := by
  rcases world.controller.capture_cases token with
    ⟨inactive | blank, ignored⟩ | ⟨active, present, -, -, logged⟩
  · rw [ignored]
    exact iff_of_true nofun fun active =>
      absurd (inactive.symm.trans active) Bool.false_ne_true
  · rw [ignored]
    exact iff_of_true nofun fun _ present => absurd blank present
  · rw [logged, List.forall_mem_singleton]
    exact ⟨fun same _ _ => same, fun same => same active present⟩

/-- What decides, at each step, whether a token is used where it comes from. -/
theorem confined_step_iff {event : LoginFlowEvent} (counted : world.Counted)
    (confined : world.Confined) (taken : world.next event = some after) :
    after.Confined ↔ world.FromActiveFlow event := by
  obtain ⟨result, step, rfl⟩ := Option.map_eq_some_iff.mp taken
  rw [confined_record_iff counted confined taken]
  cases event with
  | startFlow deploymentUrl =>
      obtain rfl := Option.some.inj step
      refine iff_of_true ?_ trivial
      rcases LoginFlowController.startFlow_flow counted.engine deploymentUrl with silent | begins
      · rw [silent.loggedIn]
        exact nofun
      · rw [begins.loggedIn]
        exact nofun
  | cancelFlow =>
      obtain rfl := Option.some.inj step
      rw [world.controller.cancelFlow_flow.loggedIn]
      exact iff_of_true nofun trivial
  | probeFinished index error =>
      obtain ⟨probe, -, rfl⟩ := Option.map_eq_some_iff.mp step
      refine iff_of_true ?_ trivial
      rcases @LoginFlowController.probeFinished_flow { world.controller with
          probes := world.controller.probes.eraseIdx index } counted.engine probe error with
        silent | begins
      · rw [silent.loggedIn]
        exact nofun
      · rw [begins.loggedIn]
        exact nofun
  | cookieAdded page cookie =>
      obtain rfl := Option.some.inj step
      unfold LoginFlowController.handleCookieAdded
      by_cases noEngine : world.controller.webEngine = false
      · rw [if_pos noEngine]
        refine iff_of_true nofun fun active => ?_
        exact absurd (noEngine.symm.trans (counted.engine active)) Bool.false_ne_true
      by_cases other : cookie.name ≠ kSessionCookieName
      · rw [if_neg noEngine, if_pos other]
        exact iff_of_true nofun fun _ same => absurd same other
      · rw [if_neg noEngine, if_neg other]
        refine (captured_iff (some page) _).trans ?_
        simp only [FromActiveFlow, Option.some.injEq, Decidable.not_not.mp other, true_implies]
  | jsTokenResult page token =>
      obtain rfl := Option.some.inj step
      refine (captured_iff (some page) token).trans ?_
      simp only [FromActiveFlow, Option.some.injEq]

/-- In every run, tokens are used only for the deployment and within the flow they come
from, one in a flow, exactly when no other page brings one while a flow is active. -/
theorem confined_iff_fromActiveFlow (webEngine : Bool) (events : List LoginFlowEvent) :
    (∀ world, Visits next (new webEngine) events world → world.Confined) ↔
      Conforms next FromActiveFlow (new webEngine) events :=
  visits_iff_conforms Counted Confined (fun _ _ _ counted taken => counted.step taken)
    (fun _ _ _ => confined_step_iff) (counted_new webEngine) ⟨nofun, List.nodup_nil⟩ events

/-- A script of a cancelled flow's page is answered after the next flow has begun. -/
theorem token_of_cancelled_flow_is_used :
    ¬ ∀ world, Visits next (new true)
        [.startFlow "https://a.coder.com", .cancelFlow, .startFlow "https://b.coder.com",
          .jsTokenResult ⟨"https://a.coder.com", 1⟩ "a-token"] world → world.Confined := by
  refine not_visits_of_replay (fun world => world.logins = [⟨"https://b.coder.com", "a-token",
    some ⟨"https://a.coder.com", 1⟩, 2⟩]) (by decide) ?_
  intro world reached confined
  have logins : world.logins = _ := of_decide_eq_true reached
  have same := confined.origin _ (logins ▸ List.mem_singleton.mpr rfl)
  exact absurd same (by decide)

end TokenWorld

end CoderDesktop.Auth
