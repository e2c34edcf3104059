import CoderDesktop.Data.SessionManager
import CoderDesktop.Dlp.Fleet
import CoderDesktop.Dlp.PolicyRuns
import CoderDesktop.Dlp.WatermarkExtraction

/-!
# Whose watermark a frame carries

`AccountWorld` runs the session, the settings and the compositors of the running
applications together, wired as in `main`: the account goes into the watermark when
`authStateChanged` finds the client with a token. The world remembers the account that
was handed out last and, for every commit of a compositor, the account and the settings
at that moment. Logging out hands out nothing, so frames go on naming the last account.
-/

namespace CoderDesktop.Dlp

open Data Encoding Semantics Settings

/-- `"%1@%2"` with the user's name and the deployment's URL. -/
def accountOf (session : SessionManager) : String :=
  session.activeDeployment.username ++ "@" ++ session.activeDeployment.url

/-- `updateWatermarkIdentity` in `main`. -/
def Fleet.updateWatermarkIdentity (session : SessionManager) (fleet : Fleet) : Fleet :=
  if session.client.isAuthenticated then fleet.setWatermarkIdentity (accountOf session) else fleet

/-- What wlroots asks of a compositor. -/
inductive DisplayEvent where
  | newOutput
  | frame (outcome : FrameOutcome)
  | requestState (state : OutputState)
  | destroy

/-- The event as the compositor's output handlers see it. -/
def DisplayEvent.output : DisplayEvent → OutputEvent
  | .newOutput => .newOutput
  | .frame outcome => .frame outcome
  | .requestState state => .requestState state
  | .destroy => .destroy

/-- A commit with what was known when it was made. -/
structure CommitRecord where
  /-- The account handed out last. -/
  account : Option String
  /-- The settings asked for the watermark. -/
  required : Bool
  /-- The policy of the compositor had it switched on. -/
  enabled : Bool
  entry : Commit

/-- The session, the settings and the compositors, as `main.cpp` connects them. -/
structure AccountWorld where
  session : SessionManager
  settings : SettingsManager
  fleet : Fleet
  /-- History: the account that was handed out last. -/
  account : Option String
  /-- History: the commits of all compositors. -/
  records : List CommitRecord

/-- The session and the settings move on, apps come and go, compositors are dispatched. -/
inductive AccountEvent where
  | session (event : SessionEvent)
  | settings (event : SettingsEvent)
  | launchApp (request : LaunchRequest) (outcome : LaunchOutcome)
  | stopApp (pid : Int)
  | stopAll
  | checkChildProcesses (exited : Nat → Bool) (clients : Nat → Nat)
  /-- A compositor is dispatched. -/
  | display (index : Nat) (event : DisplayEvent)

namespace AccountWorld

/-- The account that is handed out when the session says that it changed. -/
def handedOut (session : SessionManager) (former : Option String) : Option String :=
  if session.client.isAuthenticated then some (accountOf session) else former

/-- The application starts with the session it restores. -/
def startup (session : SessionManager) (settings : SettingsManager) : AccountWorld where
  session := session
  settings := settings
  fleet := Fleet.new.updateWatermarkIdentity session
  account := handedOut session none
  records := []

/-- The commits a compositor added. -/
def committed (world : AccountWorld) (before after : DlpCompositor) : List CommitRecord :=
  (after.commits.drop before.commits.length).map fun entry =>
    ⟨world.account, world.settings.dlpWatermark, before.policy.watermarkEnabled, entry⟩

/-- A session that changed hands out its account, changed settings reach the fleet. -/
def next (world : AccountWorld) : AccountEvent → Option AccountWorld
  | .session event =>
      (world.session.step event).map fun (session, signals) =>
        if .authStateChanged ∈ signals then
          { world with
            session := session
            fleet := world.fleet.updateWatermarkIdentity session
            account := handedOut session world.account }
        else { world with session := session }
  | .settings event =>
      let applied := world.settings.apply event
      some { world with
        settings := applied.1
        fleet := if applied.2 then world.fleet.onSettingsChanged applied.1 else world.fleet }
  | .launchApp request outcome =>
      some { world with fleet := world.fleet.launchApp request outcome }
  | .stopApp pid => some { world with fleet := world.fleet.stopApp pid }
  | .stopAll => some { world with fleet := world.fleet.stopAll }
  | .checkChildProcesses exited clients =>
      some { world with fleet := world.fleet.checkChildProcesses exited clients }
  | .display index event =>
      match world.fleet.compositors[index]? with
      | none => none
      | some comp =>
          (comp.next event.output).map fun after =>
            { world with
              fleet := { world.fleet with compositors := world.fleet.compositors.set index after }
              records := world.records ++ world.committed comp after }

/-- The part of the world the policies depend on. -/
def dlp (world : AccountWorld) : DlpWorld := ⟨world.settings, world.fleet.manager⟩

end AccountWorld

/-- The application is launched while the cached policy is the one asked for. -/
def LaunchesCurrent (world : AccountWorld) : AccountEvent → Prop
  | .launchApp _ outcome =>
      outcome.succeeds → world.fleet.manager.currentPolicy = policyOf world.settings
  | .session _ | .settings _ | .stopApp _ | .stopAll | .checkChildProcesses _ _ | .display _ _ =>
      True

instance (world : AccountWorld) (event : AccountEvent) : Decidable (LaunchesCurrent world event) :=
  match event with
  | .launchApp _ outcome =>
      inferInstanceAs (Decidable (outcome.succeeds →
        world.fleet.manager.currentPolicy = policyOf world.settings))
  | .session _ | .settings _ | .stopApp _ | .stopAll | .checkChildProcesses _ _ | .display _ _ =>
      .isTrue trivial

/-! ## What a compositor does between two calls of the manager -/

/-- Drawing leaves what a compositor was given. -/
theorem DlpCompositor.given_next {comp after : DlpCompositor} {event : DisplayEvent}
    (taken : comp.next event.output = some after) : after.given = comp.given := by
  cases event with
  | newOutput =>
      obtain ⟨-, taken⟩ := Option.ite_none_left_eq_some.mp taken
      obtain rfl := Option.some.inj taken
      rfl
  | frame outcome =>
      obtain ⟨-, rfl⟩ := of_guarded taken
      unfold handleOutputFrame
      repeat' split
      all_goals rfl
  | requestState state =>
      obtain ⟨-, rfl⟩ := of_guarded taken
      rfl
  | destroy =>
      obtain ⟨-, rfl⟩ := of_guarded taken
      rfl

/-- A commit a compositor may make: of the outside, or a frame that is marked exactly when the
watermark is in force. -/
def Commit.MadeBy (comp : DlpCompositor) (entry : Commit) : Prop :=
  (∃ buffer, entry = .requested buffer) ∨
    (∃ buffer, entry = .frame buffer none comp.watermarkInForce ∧
      (comp.watermarkInForce = true → buffer = none)) ∨
    ∃ buffer, comp.watermarkInForce = true ∧
      entry = .frame (some (dlpWatermarkApply buffer comp.watermark).1)
        (some (dlpWatermarkApply buffer comp.watermark).2) true

/-- What a step commits was made by the compositor before it. -/
theorem DlpCompositor.madeBy_next {comp after : DlpCompositor} {event : DisplayEvent}
    (taken : comp.next event.output = some after) :
    ∀ entry ∈ after.commits.drop comp.commits.length, entry.MadeBy comp := by
  have added (entry : Commit) (made : entry.MadeBy comp) :
      ∀ other ∈ (comp.commit entry).commits.drop comp.commits.length, other.MadeBy comp := by
    simpa [commit] using made
  have unchanged : ∀ other ∈ comp.commits.drop comp.commits.length, other.MadeBy comp := by
    simp
  cases event with
  | newOutput =>
      obtain ⟨-, taken⟩ := Option.ite_none_left_eq_some.mp taken
      obtain rfl := Option.some.inj taken
      exact unchanged
  | frame outcome =>
      obtain ⟨-, rfl⟩ := of_guarded taken
      obtain ⟨sceneOutput, built⟩ := outcome
      cases sceneOutput with
      | false => exact unchanged
      | true =>
          cases inForce : comp.watermarkInForce with
          | false =>
              cases built with
              | none => simp [handleOutputFrame, inForce]
              | some state =>
                  simp only [handleOutputFrame, inForce, Bool.not_true, Bool.false_eq_true,
                    if_false]
                  exact added _ (.inr (.inl ⟨state.buffer, by rw [inForce], by simp [inForce]⟩))
          | true =>
              rcases built with _ | ⟨_ | buffer⟩
              · simp [handleOutputFrame, inForce]
              · simp only [handleOutputFrame, inForce, Bool.not_true, Bool.false_eq_true,
                  if_false, if_true]
                exact added _ (.inr (.inl ⟨none, by rw [inForce], fun _ => rfl⟩))
              · simp only [handleOutputFrame, inForce, Bool.not_true, Bool.false_eq_true,
                  if_false, if_true]
                exact added _ (.inr (.inr ⟨buffer, inForce, rfl⟩))
  | requestState state =>
      obtain ⟨-, rfl⟩ := of_guarded taken
      exact added _ (.inl ⟨state.buffer, rfl⟩)
  | destroy =>
      obtain ⟨-, rfl⟩ := of_guarded taken
      exact unchanged

/-! ## Who the compositors name -/

/-- Every compositor, and every one to come, names the account. -/
structure Fleet.Names (fleet : Fleet) (account : Option String) : Prop where
  nonempty : account ≠ some ""
  identity : fleet.manager.watermarkIdentity = account.getD ""
  compositors : ∀ comp ∈ fleet.compositors, comp.watermark = watermarkOf account

/-- The fleet after an operation that hands out no identity. -/
structure Fleet.KeepsIdentity (fleet after : Fleet) : Prop where
  identity : after.manager.watermarkIdentity = fleet.manager.watermarkIdentity
  compositors : ∀ comp ∈ after.compositors, ∃ old ∈ fleet.compositors,
    comp.watermark = old.watermark

namespace Fleet.KeepsIdentity

variable {fleet after : Fleet}

/-- A fleet keeps its own identity. -/
theorem refl (fleet : Fleet) : fleet.KeepsIdentity fleet :=
  ⟨rfl, fun comp member => ⟨comp, member, rfl⟩⟩

/-- An identity kept twice is kept. -/
theorem trans {first second third : Fleet} (left : first.KeepsIdentity second)
    (right : second.KeepsIdentity third) : first.KeepsIdentity third := by
  refine ⟨right.identity.trans left.identity, fun comp member => ?_⟩
  obtain ⟨middle, middleMember, same⟩ := right.compositors comp member
  obtain ⟨old, oldMember, same'⟩ := left.compositors middle middleMember
  exact ⟨old, oldMember, same.trans same'⟩

/-- What keeps the identity keeps naming the account. -/
theorem names {account : Option String} (keeps : fleet.KeepsIdentity after)
    (names : fleet.Names account) : after.Names account where
  nonempty := names.nonempty
  identity := keeps.identity.trans names.identity
  compositors comp member := by
    obtain ⟨old, oldMember, same⟩ := keeps.compositors comp member
    exact same.trans (names.compositors old oldMember)

/-- A removal keeps the identity. -/
theorem removeApp (fleet : Fleet) (index : Nat) : fleet.KeepsIdentity (fleet.removeApp index) := by
  refine ⟨?_, fun comp member => ⟨comp, (List.eraseIdx_sublist _ _).subset member, rfl⟩⟩
  unfold Fleet.removeApp DlpCompositorManager.removeApp
  dsimp only
  split <;> rfl

/-- Stopping an app keeps the identity. -/
theorem stopApp (fleet : Fleet) (pid : Int) : fleet.KeepsIdentity (fleet.stopApp pid) := by
  unfold Fleet.stopApp
  split
  · exact removeApp fleet _
  · exact refl fleet

/-- Stopping all apps keeps the identity. -/
theorem stopAll (fleet : Fleet) : fleet.KeepsIdentity fleet.stopAll :=
  ⟨rfl, fun _ => List.not_mem_nil.elim⟩

/-- Changed settings keep the identity. -/
theorem onSettingsChanged (fleet : Fleet) (settings : SettingsManager) :
    fleet.KeepsIdentity (fleet.onSettingsChanged settings) := by
  unfold Fleet.onSettingsChanged
  split
  · refine ⟨rfl, fun comp member => ?_⟩
    obtain ⟨old, oldMember, rfl⟩ := List.mem_map.mp member
    exact ⟨old, oldMember, rfl⟩
  · exact refl fleet

/-- Checking one child keeps the identity. -/
theorem checkChild (fleet : Fleet) (index : Nat) (exited : Bool) (clients : Nat) :
    fleet.KeepsIdentity (fleet.checkChild index exited clients) := by
  have polled (apps : List RunningApp) :
      fleet.KeepsIdentity { fleet with manager := { fleet.manager with apps } } :=
    ⟨rfl, fun comp member => ⟨comp, member, rfl⟩⟩
  unfold Fleet.checkChild
  split
  · exact refl fleet
  · dsimp only
    split
    · exact (polled _).trans (removeApp _ index)
    · exact polled _

/-- Checking all children keeps the identity. -/
theorem checkChildProcesses (fleet : Fleet) (exited : Nat → Bool) (clients : Nat → Nat) :
    fleet.KeepsIdentity (fleet.checkChildProcesses exited clients) := by
  unfold Fleet.checkChildProcesses
  generalize (List.range fleet.manager.apps.length).reverse = indices
  induction indices using List.reverseRecOn with
  | nil => exact refl fleet
  | append_singleton indices index inductionHypothesis =>
      rw [List.foldl_append]
      exact inductionHypothesis.trans (checkChild _ _ _ _)

/-- A compositor draws. -/
theorem setCompositor {index : Nat} {before drawn : DlpCompositor}
    (found : fleet.compositors[index]? = some before) (same : drawn.given = before.given) :
    fleet.KeepsIdentity { fleet with compositors := fleet.compositors.set index drawn } := by
  refine ⟨rfl, fun comp member => ?_⟩
  rcases List.mem_or_eq_of_mem_set member with old | rfl
  · exact ⟨comp, old, rfl⟩
  · exact ⟨before, List.mem_of_getElem? found, congrArg Given.watermark same⟩

end Fleet.KeepsIdentity

namespace Fleet.Names

variable {fleet : Fleet} {account : Option String}

/-- An empty fleet names nobody. -/
theorem new : Fleet.new.Names none := ⟨nofun, rfl, fun _ => List.not_mem_nil.elim⟩

/-- The text of an account holds an `@`. -/
theorem accountOf_ne_empty (session : SessionManager) : accountOf session ≠ "" := by
  intro empty
  have length := congrArg (fun text : String => text.toList.length) empty
  simp [accountOf, String.toList_append] at length

/-- The session's account is named, if it hands one out. -/
theorem updateWatermarkIdentity (names : fleet.Names account) (session : SessionManager) :
    (fleet.updateWatermarkIdentity session).Names (AccountWorld.handedOut session account) := by
  unfold Fleet.updateWatermarkIdentity AccountWorld.handedOut
  split
  · refine ⟨fun same => accountOf_ne_empty session (Option.some.inj same), rfl,
      fun comp member => ?_⟩
    obtain ⟨old, -, rfl⟩ := List.mem_map.mp member
    rfl
  · exact names

/-- A launch names the account. -/
theorem launchApp (names : fleet.Names account) (request : LaunchRequest)
    (outcome : LaunchOutcome) : (fleet.launchApp request outcome).Names account := by
  have identity : (fleet.launchApp request outcome).manager.watermarkIdentity =
      fleet.manager.watermarkIdentity := by
    unfold Fleet.launchApp DlpCompositorManager.launchApp
    dsimp only
    repeat' split
    all_goals rfl
  refine ⟨names.nonempty, identity.trans names.identity, fun comp member => ?_⟩
  unfold Fleet.launchApp at member
  dsimp only at member
  split at member
  · rcases List.mem_append.mp member with old | fresh
    · exact names.compositors comp old
    · obtain rfl := List.mem_singleton.mp fresh
      have given := congrArg Given.watermark (given_freshCompositor fleet.manager)
      rw [names.identity] at given
      cases account with
      | none => exact given
      | some account =>
          have named : account ≠ "" := fun empty => names.nonempty (congrArg some empty)
          simpa [named, DlpCompositor.given] using given
  · exact names.compositors comp member

end Fleet.Names

/-- A step hands out no identity, launches an application, or follows the session. -/
theorem AccountWorld.next_fleet {world after : AccountWorld} {event : AccountEvent}
    (taken : world.next event = some after) :
    (after.account = world.account ∧ world.fleet.KeepsIdentity after.fleet) ∨
      (after.account = world.account ∧ ∃ request outcome,
        after.fleet = world.fleet.launchApp request outcome) ∨
      ∃ session, after.account = handedOut session world.account ∧
        after.fleet = world.fleet.updateWatermarkIdentity session := by
  cases event with
  | session event =>
      obtain ⟨⟨session, signals⟩, -, shape⟩ := Option.map_eq_some_iff.mp taken
      dsimp only at shape
      split at shape
      · subst shape
        exact .inr (.inr ⟨session, rfl, rfl⟩)
      · subst shape
        exact .inl ⟨rfl, .refl _⟩
  | settings event =>
      obtain rfl := Option.some.inj taken
      refine .inl ⟨rfl, ?_⟩
      dsimp only
      split
      · exact .onSettingsChanged _ _
      · exact .refl _
  | launchApp request outcome =>
      obtain rfl := Option.some.inj taken
      exact .inr (.inl ⟨rfl, request, outcome, rfl⟩)
  | stopApp pid =>
      obtain rfl := Option.some.inj taken
      exact .inl ⟨rfl, .stopApp _ pid⟩
  | stopAll =>
      obtain rfl := Option.some.inj taken
      exact .inl ⟨rfl, .stopAll _⟩
  | checkChildProcesses exited clients =>
      obtain rfl := Option.some.inj taken
      exact .inl ⟨rfl, .checkChildProcesses _ exited clients⟩
  | display index event =>
      unfold next at taken
      dsimp only at taken
      split at taken
      · cases taken
      · obtain ⟨drawn, step, rfl⟩ := Option.map_eq_some_iff.mp taken
        exact .inl ⟨rfl, .setCompositor ‹_› (DlpCompositor.given_next step)⟩

/-- Every step keeps the account named. -/
theorem AccountWorld.names_next {world after : AccountWorld} {event : AccountEvent}
    (names : world.fleet.Names world.account) (taken : world.next event = some after) :
    after.fleet.Names after.account := by
  rcases next_fleet taken with ⟨same, keeps⟩ | ⟨same, request, outcome, launched⟩ |
    ⟨session, same, followed⟩
  · exact same ▸ keeps.names names
  · rw [same, launched]
    exact names.launchApp request outcome
  · rw [same, followed]
    exact names.updateWatermarkIdentity session

/-! ## What the frames carry -/

/-- A frame is marked where the watermark is in force, its buffer permitting, and what is
marked names the account. -/
structure CommitRecord.Attributed (record : CommitRecord) : Prop where
  inForce : ∀ buffer marked inForce, record.entry = .frame buffer marked inForce →
    inForce = (record.enabled && record.account.isSome)
  marks : ∀ buffer marked, record.entry = .frame (some buffer) marked true →
    marked = some buffer.markable
  carries : ∀ buffer marked image, record.entry = .frame (some buffer) marked true →
    buffer.access = some image → 0 ≤ blueOffset image.format → 4 * buffer.width ≤ image.stride →
    ∃ account, record.account = some account ∧
      Carries (watermarkOf (some account)) buffer.width buffer.height image

/-- A watermark has an identity exactly when there is an account. -/
theorem hasIdentity_watermarkOf (account : Option String) :
    (watermarkOf account).hasIdentity = account.isSome := by
  cases account <;> rfl

/-- Marking leaves the format, so the buffer can be marked afterwards exactly if it could be
before. -/
theorem markable_dlpWatermarkApply (buffer : WlrBuffer) (state : WatermarkState) :
    (dlpWatermarkApply buffer state).1.markable = buffer.markable := by
  cases applied : (dlpWatermarkApply buffer state).2 with
  | false => rw [dlpWatermarkApply_of_failed applied]
  | true =>
      rw [dlpWatermarkApply_result, Bool.and_eq_true] at applied
      obtain ⟨identified, markable⟩ := applied
      obtain ⟨mapped, accessed, supported⟩ := (Option.any_eq_true _ _).mp markable
      rw [dlpWatermarkApply_eq accessed identified (of_decide_eq_true supported), markable]
      simpa [WlrBuffer.markable, marked] using of_decide_eq_true supported

/-- What a compositor that names the account commits is attributed to it. -/
theorem attributed_of_madeBy {comp : DlpCompositor} {account : Option String} {required : Bool}
    {entry : Commit} (named : comp.watermark = watermarkOf account) (made : entry.MadeBy comp) :
    CommitRecord.Attributed ⟨account, required, comp.policy.watermarkEnabled, entry⟩ := by
  have force : comp.watermarkInForce = (comp.policy.watermarkEnabled && account.isSome) := by
    rw [DlpCompositor.watermarkInForce, named, hasIdentity_watermarkOf]
  rcases made with ⟨buffer, rfl⟩ | ⟨buffer, rfl, blank⟩ | ⟨buffer, inForce, rfl⟩
  · exact ⟨nofun, nofun, nofun⟩
  · refine ⟨fun other marked inForce same => ?_, fun other marked same => ?_,
      fun other marked image same => ?_⟩
    · cases same
      exact force
    all_goals
      obtain ⟨rfl, -, isForce⟩ := Commit.frame.inj same
      cases blank isForce
  · have identified : comp.watermark.hasIdentity = true := ((Bool.and_eq_true _ _).mp inForce).2
    refine ⟨fun other marked also same => ?_, fun other marked same => ?_,
      fun other marked image same accessed supported padded => ?_⟩
    · cases same
      exact inForce ▸ force
    · cases same
      rw [dlpWatermarkApply_result, identified, Bool.true_and, markable_dlpWatermarkApply]
    · cases same
      have markable : (dlpWatermarkApply buffer comp.watermark).1.markable = true := by
        simpa [WlrBuffer.markable, accessed] using supported
      rw [markable_dlpWatermarkApply] at markable
      obtain ⟨mapped, before, known⟩ := (Option.any_eq_true _ _).mp markable
      have applied := dlpWatermarkApply_eq before identified (of_decide_eq_true known)
      rw [applied] at accessed padded ⊢
      obtain rfl := Option.some.inj accessed
      rw [named, hasIdentity_watermarkOf] at identified
      obtain ⟨account, rfl⟩ := Option.isSome_iff_exists.mp identified
      exact ⟨account, rfl, named ▸ carries_marked comp.watermark _ padded⟩

namespace AccountWorld

/-- Only a compositor that is dispatched commits. -/
theorem next_records {world after : AccountWorld} {event : AccountEvent}
    (taken : world.next event = some after) :
    after.records = world.records ∨
      ∃ comp drawn event, comp ∈ world.fleet.compositors ∧
        comp.next (DisplayEvent.output event) = some drawn ∧
        after.records = world.records ++ world.committed comp drawn := by
  cases event with
  | session event =>
      obtain ⟨⟨session, signals⟩, -, shape⟩ := Option.map_eq_some_iff.mp taken
      dsimp only at shape
      split at shape <;> subst shape <;> exact .inl rfl
  | display index event =>
      unfold next at taken
      dsimp only at taken
      split at taken
      · cases taken
      · rename_i comp found
        obtain ⟨drawn, step, rfl⟩ := Option.map_eq_some_iff.mp taken
        exact .inr ⟨comp, drawn, event, List.mem_of_getElem? found, step, rfl⟩
  | settings _ | launchApp _ _ | stopApp _ | stopAll | checkChildProcesses _ _ =>
      obtain rfl := Option.some.inj taken
      exact .inl rfl

/-- The compositors name the account, and so did every frame. -/
structure Attributes (world : AccountWorld) : Prop where
  names : world.fleet.Names world.account
  records : ∀ record ∈ world.records, record.Attributed

/-- No commit was made at first. -/
theorem Attributes.startup (session : SessionManager) (settings : SettingsManager) :
    (startup session settings).Attributes :=
  ⟨Fleet.Names.new.updateWatermarkIdentity session, fun _ => List.not_mem_nil.elim⟩

/-- Every step attributes its commits. -/
theorem Attributes.next {world after : AccountWorld} {event : AccountEvent}
    (attributes : world.Attributes) (taken : world.next event = some after) :
    after.Attributes := by
  refine ⟨names_next attributes.names taken, fun record member => ?_⟩
  rcases next_records taken with same | ⟨comp, drawn, event, owned, step, added⟩
  · exact attributes.records record (same ▸ member)
  · rw [added, List.mem_append] at member
    rcases member with old | fresh
    · exact attributes.records record old
    · obtain ⟨entry, isNew, rfl⟩ := List.mem_map.mp fresh
      exact attributed_of_madeBy (attributes.names.compositors comp owned)
        (DlpCompositor.madeBy_next step entry isNew)

end AccountWorld

/-- Whatever happens to session, settings and applications, every frame of every compositor
is marked if its policy asks for it and an account is known, and carries the account handed
out last. -/
theorem frames_attributed (session : SessionManager) (settings : SettingsManager)
    {events : List AccountEvent} {world : AccountWorld}
    (run : Runs AccountWorld.next (.startup session settings) events world) :
    ∀ record ∈ world.records, record.Attributed :=
  (run.invariant (.startup session settings)
    fun _ _ _ attributes taken => AccountWorld.Attributes.next attributes taken).records

/-! ## The watermark the settings ask for -/

/-- An identity keeps the policies. -/
theorem manager_updateWatermarkIdentity (fleet : Fleet) (session : SessionManager) :
    KeepsPolicies fleet.manager (fleet.updateWatermarkIdentity session).manager := by
  unfold Fleet.updateWatermarkIdentity
  split
  · exact .setWatermarkIdentity _ _
  · exact .refl _

namespace AccountWorld

/-- For the policies, a step is one of the settings and the manager, or none. -/
theorem next_dlp {world after : AccountWorld} {event : AccountEvent}
    (taken : world.next event = some after) :
    (after.settings = world.settings ∧
        KeepsPolicies world.fleet.manager after.fleet.manager) ∨
      ∃ dlpEvent, world.dlp.next dlpEvent = some after.dlp ∧
        (LaunchesUpToDate world.dlp dlpEvent ↔ LaunchesCurrent world event) := by
  cases event with
  | session event =>
      obtain ⟨⟨session, signals⟩, -, shape⟩ := Option.map_eq_some_iff.mp taken
      dsimp only at shape
      split at shape
      · subst shape
        exact .inl ⟨rfl, manager_updateWatermarkIdentity _ _⟩
      · subst shape
        exact .inl ⟨rfl, .refl _⟩
  | settings event =>
      obtain rfl := Option.some.inj taken
      refine .inr ⟨.settings event, ?_, Iff.rfl⟩
      by_cases changed : (world.settings.apply event).2 = true <;>
        simp [DlpWorld.next, dlp, changed]
  | launchApp request outcome =>
      obtain rfl := Option.some.inj taken
      exact .inr ⟨.launchApp request outcome, rfl, Iff.rfl⟩
  | stopApp pid =>
      obtain rfl := Option.some.inj taken
      exact .inr ⟨.stopApp pid, by simp [DlpWorld.next, dlp], Iff.rfl⟩
  | stopAll =>
      obtain rfl := Option.some.inj taken
      exact .inr ⟨.stopAll, rfl, Iff.rfl⟩
  | checkChildProcesses exited clients =>
      obtain rfl := Option.some.inj taken
      exact .inr ⟨.checkChildProcesses exited clients, by simp [DlpWorld.next, dlp], Iff.rfl⟩
  | display index event =>
      unfold next at taken
      dsimp only at taken
      split at taken
      · cases taken
      · obtain ⟨drawn, -, rfl⟩ := Option.map_eq_some_iff.mp taken
        exact .inl ⟨rfl, .refl _⟩

/-- Every step keeps the fleet with its manager. -/
theorem mirrored_next {world after : AccountWorld} {event : AccountEvent}
    (mirrored : world.fleet.Mirrored) (taken : world.next event = some after) :
    after.fleet.Mirrored := by
  cases event with
  | session event =>
      obtain ⟨⟨session, signals⟩, -, shape⟩ := Option.map_eq_some_iff.mp taken
      dsimp only at shape
      split at shape
      · subst shape
        dsimp only
        unfold Fleet.updateWatermarkIdentity
        split
        · exact mirrored.setWatermarkIdentity _
        · exact mirrored
      · subst shape
        exact mirrored
  | settings event =>
      obtain rfl := Option.some.inj taken
      dsimp only
      split
      · exact mirrored.onSettingsChanged _
      · exact mirrored
  | launchApp request outcome =>
      obtain rfl := Option.some.inj taken
      exact mirrored.launchApp request outcome
  | stopApp pid =>
      obtain rfl := Option.some.inj taken
      exact mirrored.stopApp pid
  | stopAll =>
      obtain rfl := Option.some.inj taken
      exact .stopAll
  | checkChildProcesses exited clients =>
      obtain rfl := Option.some.inj taken
      exact mirrored.checkChildProcesses exited clients
  | display index event =>
      unfold next at taken
      dsimp only at taken
      split at taken
      · cases taken
      · obtain ⟨drawn, step, rfl⟩ := Option.map_eq_some_iff.mp taken
        exact mirrored.setCompositor ‹_› (DlpCompositor.given_next step)

/-- An empty fleet mirrors its manager. -/
theorem mirrored_startup (session : SessionManager) (settings : SettingsManager) :
    (startup session settings).fleet.Mirrored := by
  unfold startup Fleet.updateWatermarkIdentity
  dsimp only
  split <;> rfl

/-- Every run keeps the fleet with its manager. -/
theorem mirrored_of_runs {session : SessionManager} {settings : SettingsManager}
    {events : List AccountEvent} {world : AccountWorld}
    (run : Runs next (startup session settings) events world) : world.fleet.Mirrored := by
  induction run with
  | refl => exact mirrored_startup session settings
  | step _ taken inductionHypothesis => exact mirrored_next inductionHypothesis taken

/-- The compositors have the policy of the settings, and had it at every commit since
the former ones. -/
structure Enforces (former : List CommitRecord) (world : AccountWorld) : Prop where
  mirrored : world.fleet.Mirrored
  governed : Governed world.dlp
  records : ∃ since, world.records = former ++ since ∧
    ∀ record ∈ since, record.enabled = record.required

/-- Every step with current launches enforces the policy. -/
theorem Enforces.next {former : List CommitRecord} {world after : AccountWorld}
    {event : AccountEvent} (enforces : world.Enforces former)
    (current : LaunchesCurrent world event) (taken : world.next event = some after) :
    after.Enforces former := by
  obtain ⟨mirrored, governed, since, shape, same⟩ := enforces
  refine ⟨mirrored_next mirrored taken, ?_, ?_⟩
  · rcases next_dlp taken with ⟨same, keeps⟩ | ⟨dlpEvent, step, upToDate⟩
    · unfold dlp
      rw [same]
      exact keeps.governed governed
    · exact (governed_step_iff governed step).mpr (upToDate.mpr current)
  · rcases next_records taken with none | ⟨comp, drawn, event, owned, -, added⟩
    · exact ⟨since, none.trans shape, same⟩
    · refine ⟨since ++ world.committed comp drawn, by rw [added, shape, List.append_assoc],
        fun record member => ?_⟩
      rcases List.mem_append.mp member with old | fresh
      · exact same record old
      · obtain ⟨entry, -, rfl⟩ := List.mem_map.mp fresh
        -- The compositor is the one of some application, and has its policy.
        have given : comp.given ∈ world.fleet.manager.apps.map RunningApp.given :=
          mirrored ▸ List.mem_map_of_mem owned
        obtain ⟨app, isApp, alike⟩ := List.mem_map.mp given
        have policy : comp.policy = policyOf world.settings :=
          (congrArg Given.policy alike).symm.trans (governed app isApp)
        exact congrArg CoderDlpPolicy.watermarkEnabled policy

/-- A change of the settings makes up for launches under an outdated policy. -/
theorem governed_of_changed {world after : AccountWorld} {event : SettingsEvent}
    (changed : (world.settings.apply event).2 = true)
    (taken : world.next (.settings event) = some after) : Governed after.dlp := by
  obtain rfl := Option.some.inj taken
  simpa [dlp, changed, Governed] using
    (onSettingsChanged_apps (world.settings.apply event).1 world.fleet.manager).1

end AccountWorld

/-- Once the applications have the policy the settings ask for, and as long as every launch
finds the cached policy up to date, each frame drawn while the settings ask for the watermark
and some account was signed in carries the account that was handed out last, if its memory can
be mapped and its format is known. -/
theorem required_frames_carry (session : SessionManager) (settings : SettingsManager)
    {before events : List AccountEvent} {start world : AccountWorld}
    (reached : Runs AccountWorld.next (.startup session settings) before start)
    (governed : Governed start.dlp) (run : Runs AccountWorld.next start events world)
    (current : Conforms AccountWorld.next LaunchesCurrent start events) :
    ∀ record ∈ world.records.drop start.records.length, record.required = true →
      ∀ account ∈ record.account, ∀ buffer marked inForce image,
        record.entry = .frame (some buffer) marked inForce → buffer.access = some image →
        0 ≤ blueOffset image.format → 4 * buffer.width ≤ image.stride →
        marked = some true ∧
          Carries (watermarkOf (some account)) buffer.width buffer.height image := by
  have attributes : world.Attributes := (reached.trans run).invariant
    (.startup session settings) fun _ _ _ attributes taken => attributes.next taken
  have mirrored : start.fleet.Mirrored := AccountWorld.mirrored_of_runs reached
  obtain ⟨-, -, since, shape, enabled⟩ :=
    run.induct (fun _ world => world.Enforces start.records)
      ⟨mirrored, governed, [], by simp, fun _ => List.not_mem_nil.elim⟩
      (fun _ _ _ _ _ enforces allowed taken => enforces.next allowed taken) current
  intro record member required account isAccount buffer marked inForce image isFrame accessed
    supported padded
  have attributed := attributes.records record (List.mem_of_mem_drop member)
  rw [shape, List.drop_left] at member
  have known : record.account = some account := isAccount
  obtain rfl : inForce = true := by
    rw [attributed.inForce buffer marked inForce isFrame, enabled record member, required, known]
    rfl
  obtain ⟨other, isOther, carries⟩ :=
    attributed.carries buffer marked image isFrame accessed supported padded
  obtain rfl : account = other := Option.some.inj (known.symm.trans isOther)
  have markable : buffer.markable = true := by
    simpa [WlrBuffer.markable, accessed] using supported
  exact ⟨(attributed.marks buffer marked isFrame).trans (congrArg some markable), carries⟩

/-! ## A run -/

/-- Nobody is signed in and nothing is configured. -/
def emptySession : SessionManager := .new (.empty true) [] ⟨true, true⟩

/-- No policy and no user setting. -/
def plainSettings : SettingsManager := ⟨.disabled, fun _ => none⟩

/-- A frame buffer of one pixel. -/
def onePixel : WlrBuffer := ⟨1, 1, some ⟨fun _ => 0, drmFormatXrgb8888, 4⟩⟩

/-- A user signs in and starts an application, then the watermark is switched on. -/
def switchOn : List AccountEvent :=
  [.session (.login "https://dev.coder.com" "t1"),
    .session (.loginFinished 0 (.ok [("username", .string "ann")]) ⟨true, true, .written⟩ 0),
    .launchApp launchFirefox ⟨true, true, 4711⟩,
    .settings (.setUserPreference "dlpWatermark" (.bool true))]

/-- Another application is started and draws, after the user signed out. -/
def drawFrame : List AccountEvent :=
  [.launchApp launchFirefox ⟨true, true, 4712⟩, .session (.logout ⟨true, true, .written⟩),
    .display 1 .newOutput, .display 1 (.frame ⟨true, some ⟨some onePixel⟩⟩)]

/-- A frame drawn after the user signed out. -/
theorem frames_attributed_signedOut :
    ∃ world, Runs AccountWorld.next (.startup emptySession plainSettings) (switchOn ++ drawFrame)
        world ∧ (world.records.length = 1 ∧ world.account = some "ann@https://dev.coder.com") ∧
      ∀ record ∈ world.records, record.Attributed := by
  have reached : (replay AccountWorld.next (.startup emptySession plainSettings)
      (switchOn ++ drawFrame)).any (fun world =>
        world.records.length = 1 ∧ world.account = some "ann@https://dev.coder.com") = true := by
    decide
  obtain ⟨world, run, observed⟩ := runs_of_replay _ reached
  exact ⟨world, run, of_decide_eq_true observed, frames_attributed _ _ run⟩

/-- The world once the watermark is switched on. -/
def watermarkOn : AccountWorld :=
  (replay AccountWorld.next (.startup emptySession plainSettings) switchOn).get (by decide)

/-- The same frame, with the watermark required. -/
theorem required_frames_carry_signedOut :
    ∃ world, Runs AccountWorld.next watermarkOn drawFrame world ∧
      (watermarkOn.records = [] ∧ world.records.length = 1 ∧ world.records.all (·.required)) ∧
      ∀ record ∈ world.records.drop watermarkOn.records.length, record.required = true →
        ∀ account ∈ record.account, ∀ buffer marked inForce image,
          record.entry = .frame (some buffer) marked inForce → buffer.access = some image →
          0 ≤ blueOffset image.format → 4 * buffer.width ≤ image.stride →
          marked = some true ∧
            Carries (watermarkOf (some account)) buffer.width buffer.height image := by
  have reached : (replay AccountWorld.next watermarkOn drawFrame).any (fun world =>
      world.records.length = 1 ∧ world.records.all (·.required)) = true := by
    decide
  obtain ⟨world, run, observed⟩ := runs_of_replay _ reached
  have governed : ∀ app ∈ watermarkOn.fleet.manager.apps,
      app.policy = policyOf watermarkOn.settings := by
    decide
  exact ⟨world, run, ⟨rfl, of_decide_eq_true observed⟩,
    required_frames_carry emptySession plainSettings
      (runs_iff_replay.mpr (Option.some_get _).symm) governed run (by decide)⟩

end CoderDesktop.Dlp
