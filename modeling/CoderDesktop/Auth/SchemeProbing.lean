import CoderDesktop.Auth.LoginFlowController
import CoderDesktop.Semantics.Run

/-!
# Evidence for a scheme

`ProbeWorld` records, next to the controller, what the most recent `startFlow` was
given, how every probe was answered, and each entry of `continueStartFlow` from a
reply. A reply is acted on whenever some probe is pending, so the evidence is that of
the deployment asked for exactly when replies to older flows come too late.
-/

namespace CoderDesktop.Auth

open Semantics

/-- How a probe was answered. -/
structure Answer where
  start : Nat
  scheme : Scheme
  host : String
  answered : Bool
deriving DecidableEq, Repr

/-- What the reply says of the probe. -/
def Probe.answer (probe : Probe) (error : ReplyError) : Answer :=
  ⟨probe.start, probe.scheme, probe.host, error.answered⟩

/-- An entry of `continueStartFlow` from a reply, with what was known by then. -/
structure Resolution where
  resolvedBaseUrl : String
  /-- The most recent `startFlow`, and what it was given. -/
  start : Nat
  host : String
  answers : List Answer
deriving DecidableEq, Repr

/-- The host is the one asked for. It answered over https, or did not and answered
over http instead. -/
def Resolution.Sound (resolution : Resolution) : Prop :=
  (resolution.resolvedBaseUrl = Scheme.https.text ++ resolution.host ∧
      ⟨resolution.start, .https, resolution.host, true⟩ ∈ resolution.answers) ∨
    (resolution.resolvedBaseUrl = Scheme.http.text ++ resolution.host ∧
      ⟨resolution.start, .https, resolution.host, false⟩ ∈ resolution.answers ∧
      ⟨resolution.start, .http, resolution.host, true⟩ ∈ resolution.answers)

/-- The URLs `continueStartFlow` was entered with. -/
def entered (actions : List LoginFlowAction) : List String :=
  actions.filterMap fun
    | .continueStartFlow resolvedBaseUrl => some resolvedBaseUrl
    | .login _ _ | .clearCookies | .probingChanged | .probeFailed _ | .loginUrlChanged
    | .flowActiveChanged | .externalBrowserOpened _ | .tokenObtained _ _ => none

/-- The controller, with what was entered, answered and resolved. -/
structure ProbeWorld where
  controller : LoginFlowController
  /-- What the most recent `startFlow` was given, without trailing slashes. -/
  host : String
  answers : List Answer
  resolutions : List Resolution
deriving DecidableEq, Repr

namespace ProbeWorld

/-- Nothing was entered yet. -/
def new (webEngine : Bool) : ProbeWorld := ⟨.new webEngine, "", [], []⟩

/-- What was entered last, after an event. -/
def hostAfter (world : ProbeWorld) : LoginFlowEvent → String
  | .startFlow deploymentUrl =>
      if Api.normalised deploymentUrl = "" then world.host else Api.normalised deploymentUrl
  | .cancelFlow | .probeFinished _ _ | .cookieAdded _ _ | .jsTokenResult _ _ => world.host

/-- The answers so far, after an event. -/
def answersAfter (world : ProbeWorld) : LoginFlowEvent → List Answer
  | .probeFinished index error =>
      world.answers ++ world.controller.probes[index]?.toList.map (·.answer error)
  | .startFlow _ | .cancelFlow | .cookieAdded _ _ | .jsTokenResult _ _ => world.answers

/-- What a reply resolves. -/
def resolutionsOf (world : ProbeWorld) (actions : List LoginFlowAction) :
    LoginFlowEvent → List Resolution
  | .probeFinished index error =>
      (entered actions).map fun resolvedBaseUrl =>
        ⟨resolvedBaseUrl, world.controller.starts, world.host,
          world.answersAfter (.probeFinished index error)⟩
  | .startFlow _ | .cancelFlow | .cookieAdded _ _ | .jsTokenResult _ _ => []

/-- A step of the controller, with its history. -/
def next (world : ProbeWorld) (event : LoginFlowEvent) : Option ProbeWorld :=
  (world.controller.step event).map fun result =>
    { controller := result.1
      host := world.hostAfter event
      answers := world.answersAfter event
      resolutions := world.resolutions ++ world.resolutionsOf result.2 event }

/-- No scheme was taken on another host's evidence. -/
def Undeceived (world : ProbeWorld) : Prop :=
  ∀ resolution ∈ world.resolutions, resolution.Sound

/-- A server's answer that comes while a probe is pending goes back to the most recent
`startFlow`. -/
def AnswersLatest (world : ProbeWorld) : LoginFlowEvent → Prop
  | .probeFinished index error =>
      ∀ probe ∈ world.controller.probes[index]?, world.controller.probing = true →
        error.answered = true → probe.start = world.controller.starts
  | .startFlow _ | .cancelFlow | .cookieAdded _ _ | .jsTokenResult _ _ => True

/-- The probes of the most recent `startFlow` are for its host. While one is pending,
none of them has been answered by a server. -/
structure Tracks (world : ProbeWorld) : Prop where
  starts : ∀ probe ∈ world.controller.probes, probe.start ≤ world.controller.starts
  answers : ∀ answer ∈ world.answers, answer.start ≤ world.controller.starts
  latest : ∀ probe ∈ world.controller.probes, probe.start = world.controller.starts →
    probe.host = world.host ∧
      (world.controller.probing = true → world.controller.pendingHost = world.host) ∧
      (probe.scheme = .http →
        ⟨world.controller.starts, .https, world.host, false⟩ ∈ world.answers)
  pending : world.controller.probing = true →
    ∀ answer ∈ world.answers, answer.start = world.controller.starts → answer.answered = false

end ProbeWorld

/-! ## What the handlers do to the probes -/

namespace LoginFlowController

variable (controller : LoginFlowController)

@[simp] theorem probes_continueStartFlow (url : String) :
    (controller.continueStartFlow url).1.probes = controller.probes := by
  unfold continueStartFlow
  split <;> rfl

@[simp] theorem probing_continueStartFlow (url : String) :
    (controller.continueStartFlow url).1.probing = controller.probing := by
  unfold continueStartFlow
  split <;> rfl

@[simp] theorem starts_continueStartFlow (url : String) :
    (controller.continueStartFlow url).1.starts = controller.starts := by
  unfold continueStartFlow
  split <;> rfl

/-- The flow goes on to exactly one URL. -/
theorem entered_continueStartFlow (url : String) :
    entered (controller.continueStartFlow url).2 = [url] := by
  unfold continueStartFlow
  split <;> rfl

@[simp] theorem probes_resolved (scheme : Scheme) :
    (controller.resolved scheme).1.probes = controller.probes := by simp [resolved]

@[simp] theorem probing_resolved (scheme : Scheme) :
    (controller.resolved scheme).1.probing = false := by simp [resolved]

@[simp] theorem starts_resolved (scheme : Scheme) :
    (controller.resolved scheme).1.starts = controller.starts := by simp [resolved]

/-- A resolved scheme stands before the host that is pending then. -/
theorem entered_resolved (scheme : Scheme) :
    entered (controller.resolved scheme).2 = [scheme.text ++ controller.pendingHost] :=
  entered_continueStartFlow { controller with probing := false } _

/-- A token, or none, leaves the probes alone. -/
theorem capture_probes (token : String) :
    (controller.capture token).1.probes = controller.probes ∧
      (controller.capture token).1.probing = controller.probing ∧
      (controller.capture token).1.pendingHost = controller.pendingHost ∧
      (controller.capture token).1.starts = controller.starts := by
  unfold capture
  split
  · exact ⟨rfl, rfl, rfl, rfl⟩
  split
  · exact ⟨rfl, rfl, rfl, rfl⟩
  · exact ⟨rfl, rfl, rfl, rfl⟩

/-- A cookie leaves the probes alone. -/
theorem handleCookieAdded_probes (cookie : Cookie) :
    (controller.handleCookieAdded cookie).1.probes = controller.probes ∧
      (controller.handleCookieAdded cookie).1.probing = controller.probing ∧
      (controller.handleCookieAdded cookie).1.pendingHost = controller.pendingHost ∧
      (controller.handleCookieAdded cookie).1.starts = controller.starts := by
  unfold handleCookieAdded
  split
  · exact ⟨rfl, rfl, rfl, rfl⟩
  split
  · exact ⟨rfl, rfl, rfl, rfl⟩
  · exact controller.capture_probes _

/-- What a reply does while a probe is pending, and that it does nothing otherwise. -/
theorem probeFinished_cases (probe : Probe) (error : ReplyError) :
    (controller.probing = false ∧ controller.probeFinished probe error = (controller, [])) ∨
    (controller.probing = true ∧ error.answered = true ∧
      controller.probeFinished probe error = controller.resolved probe.scheme) ∨
    (controller.probing = true ∧ error.answered = false ∧ probe.scheme = .https ∧
      controller.probeFinished probe error =
        ({ controller with
            probes := controller.probes ++ [⟨.http, controller.pendingHost, probe.start⟩] },
          [])) ∨
    (controller.probing = true ∧ error.answered = false ∧ probe.scheme = .http ∧
      controller.probeFinished probe error =
        ({ controller with probing := false },
          [.probingChanged,
            .probeFailed "Could not reach server. Check the URL and try again."])) := by
  cases probing : controller.probing with
  | false =>
      refine .inl ⟨rfl, ?_⟩
      cases scheme : probe.scheme <;>
        simp [probeFinished, scheme, httpsFinished, httpFinished, probing]
  | true =>
      cases answered : error.answered with
      | true =>
          refine .inr (.inl ⟨rfl, rfl, ?_⟩)
          cases scheme : probe.scheme <;>
            simp [probeFinished, scheme, httpsFinished, httpFinished, probing, answered]
      | false =>
          cases scheme : probe.scheme with
          | https =>
              refine .inr (.inr (.inl ⟨rfl, rfl, rfl, ?_⟩))
              simp [probeFinished, scheme, httpsFinished, probing, answered]
          | http =>
              refine .inr (.inr (.inr ⟨rfl, rfl, rfl, ?_⟩))
              simp [probeFinished, scheme, httpFinished, probing, answered]

end LoginFlowController

/-! ## Tracking the most recent call -/

namespace ProbeWorld

variable {world after : ProbeWorld}

/-- Nothing is probed at first. -/
theorem tracks_new (webEngine : Bool) : (new webEngine).Tracks where
  starts := nofun
  answers := nofun
  latest := nofun
  pending := nofun

/-- A step that sends nothing, starts nothing, and at most learns an answer. -/
theorem Tracks.of_le (tracks : world.Tracks) {controller : LoginFlowController}
    {answers : List Answer} {resolutions : List Resolution}
    (probes : controller.probes ⊆ world.controller.probes)
    (starts : controller.starts = world.controller.starts)
    (pending : controller.probing = true → world.controller.probing = true ∧
      controller.pendingHost = world.controller.pendingHost)
    (known : world.answers ⊆ answers)
    (learnt : ∀ answer ∈ answers, answer ∈ world.answers ∨
      answer.start ≤ world.controller.starts ∧
        (controller.probing = true → answer.start = world.controller.starts →
          answer.answered = false)) :
    Tracks ⟨controller, world.host, answers, resolutions⟩ where
  starts probe member := starts ▸ tracks.starts probe (probes member)
  answers answer member := by
    rcases learnt answer member with old | ⟨le, -⟩
    · exact starts ▸ tracks.answers answer old
    · exact starts ▸ le
  latest probe member isLatest := by
    obtain ⟨host, pendingHost, failed⟩ :=
      tracks.latest probe (probes member) (isLatest.trans starts)
    refine ⟨host, fun probing => ?_, fun isHttp => ?_⟩
    · exact (pending probing).2.trans (pendingHost (pending probing).1)
    · exact starts ▸ known (failed isHttp)
  pending probing answer member isLatest := by
    rcases learnt answer member with old | ⟨-, unanswered⟩
    · exact tracks.pending (pending probing).1 answer old (isLatest.trans starts)
    · exact unanswered probing (isLatest.trans starts)

/-- Nothing sent before a call goes back to it. -/
theorem Tracks.started (tracks : world.Tracks) {controller : LoginFlowController} {host : String}
    {resolutions : List Resolution} (starts : controller.starts = world.controller.starts + 1)
    (probes : ∀ probe ∈ controller.probes, probe ∈ world.controller.probes ∨
      probe = ⟨.https, host, controller.starts⟩ ∧ controller.pendingHost = host) :
    Tracks ⟨controller, host, world.answers, resolutions⟩ where
  starts probe member := by
    rcases probes probe member with old | ⟨rfl, -⟩
    · have earlier := tracks.starts probe old
      show probe.start ≤ controller.starts
      omega
    · exact Nat.le_refl _
  answers answer member := by
    have earlier := tracks.answers answer member
    show answer.start ≤ controller.starts
    omega
  latest probe member isLatest := by
    rcases probes probe member with old | ⟨rfl, pendingHost⟩
    · have earlier := tracks.starts probe old
      have latest : probe.start = controller.starts := isLatest
      omega
    · exact ⟨rfl, fun _ => pendingHost, nofun⟩
  pending _ answer member isLatest := by
    have earlier := tracks.answers answer member
    have latest : answer.start = controller.starts := isLatest
    omega

/-- A https probe fails, and a http probe follows it. -/
theorem Tracks.followed (tracks : world.Tracks) {probe : Probe} {error : ReplyError}
    {probes : List Probe} {resolutions : List Resolution}
    (member : probe ∈ world.controller.probes) (isHttps : probe.scheme = .https)
    (probing : world.controller.probing = true) (failed : error.answered = false)
    (fewer : probes ⊆ world.controller.probes) :
    Tracks ⟨{ world.controller with
        probes := probes ++ [⟨.http, world.controller.pendingHost, probe.start⟩] },
      world.host, world.answers ++ [probe.answer error], resolutions⟩ where
  starts other otherMember := by
    rcases List.mem_append.mp otherMember with old | new
    · exact tracks.starts other (fewer old)
    · obtain rfl := List.mem_singleton.mp new
      exact tracks.starts probe member
  answers answer answerMember := by
    rcases List.mem_append.mp answerMember with old | new
    · exact tracks.answers answer old
    · obtain rfl := List.mem_singleton.mp new
      exact tracks.starts probe member
  latest other otherMember isLatest := by
    rcases List.mem_append.mp otherMember with old | new
    · obtain ⟨host, pendingHost, evidence⟩ := tracks.latest other (fewer old) isLatest
      exact ⟨host, pendingHost, fun isHttp => List.mem_append_left _ (evidence isHttp)⟩
    · obtain rfl := List.mem_singleton.mp new
      obtain ⟨host, pendingHost, -⟩ := tracks.latest probe member isLatest
      refine ⟨pendingHost probing, pendingHost, fun _ => List.mem_append_right _ ?_⟩
      -- the failed probe is the evidence
      have start : probe.start = world.controller.starts := isLatest
      simp [Probe.answer, start, isHttps, host, failed]
  pending _ answer answerMember isLatest := by
    rcases List.mem_append.mp answerMember with old | new
    · exact tracks.pending probing answer old isLatest
    · obtain rfl := List.mem_singleton.mp new
      exact failed

/-- The answer of a probe is recorded with it. -/
theorem Tracks.answered (tracks : world.Tracks) {index : Nat} {probe : Probe}
    {resolutions : List Resolution} (found : world.controller.probes[index]? = some probe)
    (error : ReplyError) :
    Tracks ⟨({ world.controller with
        probes := world.controller.probes.eraseIdx index }.probeFinished probe error).1,
      world.host, world.answers ++ [probe.answer error], resolutions⟩ := by
  have member := List.mem_of_getElem? found
  have fewer : world.controller.probes.eraseIdx index ⊆ world.controller.probes :=
    List.eraseIdx_subset
  have le := tracks.starts probe member
  rcases LoginFlowController.probeFinished_cases { world.controller with
      probes := world.controller.probes.eraseIdx index } probe error with
    ⟨idle, handled⟩ | ⟨probing, answered, handled⟩ | ⟨probing, failed, isHttps, handled⟩ |
      ⟨probing, failed, isHttp, handled⟩
  · rw [handled]
    refine tracks.of_le fewer rfl (fun probing => ⟨probing, rfl⟩) (List.subset_append_left _ _) ?_
    intro answer answerMember
    rcases List.mem_append.mp answerMember with old | new
    · exact .inl old
    · obtain rfl := List.mem_singleton.mp new
      refine .inr ⟨le, fun probing => ?_⟩
      exact absurd (idle.symm.trans probing) Bool.false_ne_true
  · rw [handled]
    refine tracks.of_le (by simpa using fewer) (by simp) (by simp) (List.subset_append_left _ _) ?_
    intro answer answerMember
    rcases List.mem_append.mp answerMember with old | new
    · exact .inl old
    · obtain rfl := List.mem_singleton.mp new
      exact .inr ⟨le, by simp⟩
  · rw [handled]
    exact tracks.followed member isHttps probing failed fewer
  · rw [handled]
    refine tracks.of_le fewer rfl nofun (List.subset_append_left _ _) ?_
    intro answer answerMember
    rcases List.mem_append.mp answerMember with old | new
    · exact .inl old
    · obtain rfl := List.mem_singleton.mp new
      exact .inr ⟨le, nofun⟩

/-- Every step keeps the record. -/
theorem Tracks.step (tracks : world.Tracks) {event : LoginFlowEvent}
    (taken : world.next event = some after) : after.Tracks := by
  obtain ⟨⟨controller, actions⟩, step, rfl⟩ := Option.map_eq_some_iff.mp taken
  cases event with
  | startFlow deploymentUrl =>
      obtain rfl := congrArg Prod.fst (Option.some.inj step)
      by_cases blank : Api.normalised deploymentUrl = ""
      · simp only [LoginFlowController.startFlow, hostAfter, answersAfter, if_pos blank]
        exact tracks.of_le (List.Subset.refl _) rfl (fun probing => ⟨probing, rfl⟩)
          (List.Subset.refl _) fun _ => .inl
      · simp only [LoginFlowController.startFlow, hostAfter, answersAfter, if_neg blank]
        split
        · exact tracks.started (by simp) fun probe member => .inl (by simpa using member)
        · refine tracks.started rfl fun probe member => ?_
          rcases List.mem_append.mp member with old | new
          · exact .inl old
          · exact .inr ⟨List.mem_singleton.mp new, rfl⟩
  | cancelFlow =>
      obtain rfl := congrArg Prod.fst (Option.some.inj step)
      exact tracks.of_le (List.Subset.refl _) rfl nofun (List.Subset.refl _) fun _ => .inl
  | probeFinished index error =>
      obtain ⟨probe, found, handled⟩ := Option.map_eq_some_iff.mp step
      obtain rfl := congrArg Prod.fst handled
      simp only [hostAfter, answersAfter, found]
      exact tracks.answered found error
  | cookieAdded page cookie =>
      obtain rfl := congrArg Prod.fst (Option.some.inj step)
      obtain ⟨probes, probing, pendingHost, starts⟩ :=
        world.controller.handleCookieAdded_probes cookie
      exact tracks.of_le (probes ▸ List.Subset.refl _) starts
        (fun still => ⟨probing ▸ still, pendingHost⟩) (List.Subset.refl _) fun _ => .inl
  | jsTokenResult page token =>
      obtain rfl := congrArg Prod.fst (Option.some.inj step)
      obtain ⟨probes, probing, pendingHost, starts⟩ := world.controller.capture_probes token
      exact tracks.of_le (probes ▸ List.Subset.refl _) starts
        (fun still => ⟨probing ▸ still, pendingHost⟩) (List.Subset.refl _) fun _ => .inl

/-! ## Evidence -/

/-- While a probe is pending, a server's answer is evidence for the deployment asked
for exactly when it goes back to the most recent call. -/
theorem Tracks.sound_iff (tracks : world.Tracks) {probe : Probe} {error : ReplyError}
    (member : probe ∈ world.controller.probes) (probing : world.controller.probing = true)
    (answered : error.answered = true) :
    Resolution.Sound ⟨probe.scheme.text ++ world.controller.pendingHost, world.controller.starts,
      world.host, world.answers ++ [probe.answer error]⟩ ↔
        probe.start = world.controller.starts := by
  constructor
  · intro sound
    have learnt : ∀ scheme, (⟨world.controller.starts, scheme, world.host, true⟩ : Answer) ∈
        world.answers ++ [probe.answer error] → probe.start = world.controller.starts := by
      intro scheme known
      rcases List.mem_append.mp known with old | new
      · exact absurd (tracks.pending probing _ old rfl).symm Bool.false_ne_true
      · exact (congrArg Answer.start (List.mem_singleton.mp new)).symm
    rcases sound with ⟨-, known⟩ | ⟨-, -, known⟩
    · exact learnt _ known
    · exact learnt _ known
  · intro isLatest
    obtain ⟨host, pendingHost, failed⟩ := tracks.latest probe member isLatest
    have answer : probe.answer error =
        ⟨world.controller.starts, probe.scheme, world.host, true⟩ := by
      simp [Probe.answer, isLatest, host, answered]
    rw [answer, pendingHost probing]
    cases scheme : probe.scheme with
    | https => exact .inl ⟨rfl, List.mem_append_right _ (List.mem_singleton.mpr rfl)⟩
    | http =>
        exact .inr ⟨rfl, List.mem_append_left _ (failed scheme),
          List.mem_append_right _ (List.mem_singleton.mpr rfl)⟩

/-- More resolutions deceive nobody exactly when each is sound. -/
theorem undeceived_append (undeceived : world.Undeceived) {controller : LoginFlowController}
    {host : String} {answers : List Answer} (more : List Resolution) :
    Undeceived ⟨controller, host, answers, world.resolutions ++ more⟩ ↔
      ∀ resolution ∈ more, resolution.Sound := by
  simp only [Undeceived, List.mem_append]
  constructor
  · intro all resolution member
    exact all resolution (.inr member)
  · rintro sound resolution (old | new)
    · exact undeceived resolution old
    · exact sound resolution new

/-- What decides, at each step, whether a scheme is taken on evidence. -/
theorem undeceived_step_iff {event : LoginFlowEvent} (tracks : world.Tracks)
    (undeceived : world.Undeceived) (taken : world.next event = some after) :
    after.Undeceived ↔ world.AnswersLatest event := by
  obtain ⟨⟨controller, actions⟩, step, rfl⟩ := Option.map_eq_some_iff.mp taken
  refine (undeceived_append undeceived _).trans ?_
  cases event with
  | startFlow deploymentUrl => exact iff_of_true nofun trivial
  | cancelFlow => exact iff_of_true nofun trivial
  | cookieAdded page cookie => exact iff_of_true nofun trivial
  | jsTokenResult page token => exact iff_of_true nofun trivial
  | probeFinished index error =>
      obtain ⟨probe, found, handled⟩ := Option.map_eq_some_iff.mp step
      obtain rfl := congrArg Prod.snd handled
      simp only [resolutionsOf, answersAfter, AnswersLatest, found, Option.toList_some,
        List.map_cons, List.map_nil, Option.mem_some_iff, forall_eq']
      rcases LoginFlowController.probeFinished_cases { world.controller with
          probes := world.controller.probes.eraseIdx index } probe error with
        ⟨idle, handled⟩ | ⟨probing, answered, handled⟩ | ⟨-, failed, -, handled⟩ |
          ⟨-, failed, -, handled⟩
      · rw [handled]
        exact iff_of_true nofun fun probing =>
          absurd (idle.symm.trans probing) Bool.false_ne_true
      · rw [handled, LoginFlowController.entered_resolved]
        simp only [List.map_cons, List.map_nil, List.forall_mem_singleton]
        rw [tracks.sound_iff (List.mem_of_getElem? found) probing answered]
        exact ⟨fun isLatest _ _ => isLatest, fun isLatest => isLatest probing answered⟩
      · rw [handled]
        exact iff_of_true nofun fun _ answered =>
          absurd (failed.symm.trans answered) Bool.false_ne_true
      · rw [handled]
        exact iff_of_true nofun fun _ answered =>
          absurd (failed.symm.trans answered) Bool.false_ne_true

/-- In every run, schemes are taken on the evidence of the deployment asked for exactly
when no server's answer to an older flow's probe comes while a probe is pending. -/
theorem undeceived_iff_answersLatest (webEngine : Bool) (events : List LoginFlowEvent) :
    (∀ world, Visits next (new webEngine) events world → world.Undeceived) ↔
      Conforms next AnswersLatest (new webEngine) events :=
  visits_iff_conforms Tracks Undeceived (fun _ _ _ tracks taken => tracks.step taken)
    (fun _ _ _ => undeceived_step_iff) (tracks_new webEngine) nofun events

/-- A flow is cancelled; the failure of its host sends the next one to http, before
its https probe is answered. -/
theorem failure_of_another_host_downgrades :
    ¬ ∀ world, Visits next (new true)
        [.startFlow "down.example.com", .cancelFlow, .startFlow "dev.coder.com",
          .probeFinished 0 .other, .probeFinished 1 .noError] world → world.Undeceived := by
  refine not_visits_of_replay (fun world => world.resolutions.any fun resolution =>
    resolution.resolvedBaseUrl = "http://dev.coder.com" ∧ resolution.host = "dev.coder.com" ∧
      ⟨resolution.start, .https, resolution.host, false⟩ ∉ resolution.answers) (by decide) ?_
  intro world reached undeceived
  obtain ⟨resolution, member, downgraded⟩ := List.any_eq_true.mp reached
  obtain ⟨url, host, noFailure⟩ := of_decide_eq_true downgraded
  rcases undeceived resolution member with ⟨secure, -⟩ | ⟨-, failed, -⟩
  · rw [url, host] at secure
    exact absurd secure (by decide)
  · exact noFailure failed

end ProbeWorld

end CoderDesktop.Auth
