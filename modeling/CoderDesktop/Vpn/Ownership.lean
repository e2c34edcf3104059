import CoderDesktop.Vpn.Commands
import Mathlib.Data.List.Nodup

/-!
# Ownership of the tunnel's resources

Every resource `startTunnel` creates should be in one place: a local of the
attempt that is still setting up, a field of the service, or released once. The
error exits release exactly the locals (`Ledger.locals`), and `shutdown` moves
the fields to the released ones. Only the save can lose something: it overwrites
the fields, so it keeps the books exactly when it finds them empty.
-/

namespace CoderDesktop.Vpn

open Semantics

/-- The kinds of resource a phase leaves in the locals of `startTunnel`. -/
def Phase.owns : Phase → List ResourceKind
  | .setup step => step.cleanup
  | .save => [.tailnetCon, .dnsManager, .tunDev, .cancel]
  | .unwind todo _ => todo
  | .announce | .emitConnected | .monitor | .emitError _ | .done => []

/-- The attempt has not failed and is not saved yet. -/
def Phase.building : Phase → Bool
  | .announce | .setup _ | .save => true
  | .emitConnected | .monitor | .unwind _ _ | .emitError _ | .done => false

/-- How often a running attempt holds a resource of the kind. -/
def Attempt.holds (value : Attempt) (kind : ResourceKind) : Nat :=
  if value.phase.inSetup then value.locals.count kind else 0

/-- How often the attempt that created the resource holds it. -/
def heldIn (attempts : List Attempt) (resource : Resource) : Nat :=
  attempts[resource.owner]?.elim 0 fun value => value.holds resource.kind

/-- How often the service holds a resource. -/
def HelperService.storedCount (svc : HelperService) (resource : Resource) : Nat :=
  if svc.stored resource.kind = some resource.owner then 1 else 0

/-- In how many places the resource is: held, stored and each release counted. -/
def Helper.places (helper : Helper) (resource : Resource) : Nat :=
  heldIn helper.attempts resource + helper.svc.storedCount resource +
    helper.released.count resource

/-- Nothing is leaked and nothing is released twice. -/
structure Accounted (helper : Helper) : Prop where
  onePlace : ∀ resource ∈ helper.created, helper.places resource = 1
  /-- A disconnected service without a running attempt holds nothing. -/
  idle : helper.svc.state = .disconnected →
    (∀ value ∈ helper.attempts, value.phase.inSetup = false) →
    ∀ resource, heldIn helper.attempts resource = 0 ∧ helper.svc.storedCount resource = 0

/-- A tunnel is saved only into empty fields. -/
def SavesIntoEmpty (helper : Helper) : HelperEvent → Prop
  | .advance attempt _ => ∀ value, helper.attempts[attempt]? = some value →
      value.phase = .save → ∀ kind, helper.svc.stored kind = none
  | .start _ | .startRejected _ | .shutdown => True

/-! ## What the phases own -/

/-- A successful step leaves exactly what the next step's error exit releases. -/
theorem SetupStep.owns_next (step : SetupStep) :
    step.next.owns = step.creates ++ step.cleanup := by
  cases step <;> rfl

/-- After a step of the setup comes another, or the save. -/
theorem SetupStep.inSetup_next (step : SetupStep) : step.next.inSetup = true := by
  cases step <;> rfl

/-- What a step creates and what it has to clean up are apart. -/
theorem SetupStep.nodup_owns (step : SetupStep) : (step.creates ++ step.cleanup).Nodup := by
  cases step <;> decide

/-- Before the save an attempt owns everything. -/
theorem mem_owns_save (kind : ResourceKind) : kind ∈ Phase.save.owns := by
  cases kind <;> decide

/-! ## The ledger -/

/-- Bookkeeping that holds in every run, whatever the commands do. -/
structure Ledger (helper : Helper) : Prop where
  locals : ∀ (attempt : AttemptId) (value : Attempt), helper.attempts[attempt]? = some value →
    value.locals = value.phase.owns ∧ value.locals.Nodup
  started : ∀ resource ∈ helper.created, resource.owner < helper.attempts.length
  /-- While an attempt builds, it still has everything it created. -/
  building : ∀ (attempt : AttemptId) (value : Attempt), helper.attempts[attempt]? = some value →
    value.phase.building → ∀ kind, ⟨attempt, kind⟩ ∈ helper.created → kind ∈ value.locals
  own : ∀ (attempt : AttemptId) (value : Attempt), helper.attempts[attempt]? = some value →
    ∀ kind ∈ value.locals, ⟨attempt, kind⟩ ∈ helper.created
  /-- The fields point at what a finished setup created. -/
  stored : ∀ kind owner, helper.svc.stored kind = some owner →
    ⟨owner, kind⟩ ∈ helper.created ∧
      ∃ value, helper.attempts[owner]? = some value ∧ value.phase.inSetup = false
  released : ∀ resource ∈ helper.released, resource ∈ helper.created
  disconnected : helper.svc.state = .disconnected → ∀ kind, helper.svc.stored kind = none

/-- Nothing was created at first. -/
theorem Ledger.new : Ledger .new where
  locals := by simp [Helper.new]
  started := by simp [Helper.new]
  building := by simp [Helper.new]
  own := by simp [Helper.new]
  stored := by rintro (_ | _ | _ | _) owner found <;> cases found
  released := by simp [Helper.new]
  disconnected := by rintro - (_ | _ | _ | _) <;> rfl

section Frames

variable {helper : Helper}

/-- Rewriting one attempt, which may add `news` to what it created. -/
theorem Ledger.setAttempt {attempt : AttemptId} {value value' : Attempt}
    (news : List ResourceKind) (holds : Ledger helper)
    (found : helper.attempts[attempt]? = some value)
    (locals : value'.locals = value'.phase.owns ∧ value'.locals.Nodup)
    (building : value'.phase.building → ∀ kind,
      ⟨attempt, kind⟩ ∈ helper.created ∨ kind ∈ news → kind ∈ value'.locals)
    (own : ∀ kind ∈ value'.locals, ⟨attempt, kind⟩ ∈ helper.created ∨ kind ∈ news)
    (settled : value.phase.inSetup = false → value'.phase.inSetup = false) :
    Ledger { helper.setAttempt attempt value' with
      created := helper.created ++ news.map (⟨attempt, ·⟩) } := by
  have bounded := (List.getElem?_eq_some_iff.mp found).1
  have memNews : ∀ other kind, (⟨other, kind⟩ : Resource) ∈ news.map (⟨attempt, ·⟩) ↔
      kind ∈ news ∧ attempt = other := by
    simp
  -- Each lookup is of the rewritten attempt or of one that did not change.
  have lookup : ∀ (other : AttemptId) (next : Attempt),
      (helper.attempts.set attempt value')[other]? = some next →
      (attempt = other ∧ value' = next) ∨
        (attempt ≠ other ∧ helper.attempts[other]? = some next) := by
    intro other next foundNext
    by_cases same : attempt = other
    · subst same
      exact .inl ⟨rfl, by simpa [List.getElem?_set_self bounded] using foundNext⟩
    · rw [List.getElem?_set_ne same] at foundNext
      exact .inr ⟨same, foundNext⟩
  constructor
  · intro other next foundNext
    rcases lookup other next foundNext with ⟨rfl, rfl⟩ | ⟨-, foundNext⟩
    · exact locals
    · exact holds.locals other next foundNext
  · intro resource member
    rcases List.mem_append.mp member with member | member
    · simpa [Helper.setAttempt] using holds.started resource member
    · obtain ⟨kind, -, rfl⟩ := List.mem_map.mp member
      simpa [Helper.setAttempt] using bounded
  · intro other next foundNext isBuilding kind member
    rw [List.mem_append, memNews] at member
    rcases lookup other next foundNext with ⟨rfl, rfl⟩ | ⟨different, foundNext⟩
    · exact building isBuilding kind (member.imp id And.left)
    · exact holds.building other next foundNext isBuilding kind
        (member.resolve_right fun news => different news.2)
  · intro other next foundNext kind member
    rw [List.mem_append, memNews]
    rcases lookup other next foundNext with ⟨rfl, rfl⟩ | ⟨-, foundNext⟩
    · exact (own kind member).imp id fun isNew => ⟨isNew, rfl⟩
    · exact .inl (holds.own other next foundNext kind member)
  · intro kind owner isStored
    obtain ⟨member, next, foundOwner, finished⟩ := holds.stored kind owner isStored
    refine ⟨List.mem_append_left _ member, ?_⟩
    by_cases same : attempt = owner
    · subst same
      obtain rfl : value = next := Option.some.inj (found.symm.trans foundOwner)
      exact ⟨value', List.getElem?_set_self bounded, settled finished⟩
    · exact ⟨next, (List.getElem?_set_ne same).trans foundOwner, finished⟩
  · exact fun resource member => List.mem_append_left _ (holds.released resource member)
  · exact holds.disconnected

/-- Rewriting one attempt without creating anything. -/
theorem Ledger.setAttempt' {attempt : AttemptId} {value value' : Attempt}
    (holds : Ledger helper) (found : helper.attempts[attempt]? = some value)
    (locals : value'.locals = value'.phase.owns ∧ value'.locals.Nodup)
    (building : value'.phase.building → value.phase.building ∧ value'.locals = value.locals)
    (own : ∀ kind ∈ value'.locals, kind ∈ value.locals)
    (settled : value.phase.inSetup = false → value'.phase.inSetup = false) :
    Ledger (helper.setAttempt attempt value') := by
  have rewritten := holds.setAttempt [] found locals
    (fun isBuilding kind member => by
      obtain ⟨wasBuilding, same⟩ := building isBuilding
      rw [same]
      exact holds.building attempt value found wasBuilding kind (by simpa using member))
    (fun kind member => .inl (holds.own attempt value found kind (own kind member))) settled
  rw [List.map_nil, List.append_nil] at rewritten
  exact rewritten

/-- A service that changes keeps the ledger if it holds what was created. -/
theorem Ledger.withService {svc : HelperService} (holds : Ledger helper)
    (stored : ∀ kind owner, svc.stored kind = some owner →
      ⟨owner, kind⟩ ∈ helper.created ∧
        ∃ value, helper.attempts[owner]? = some value ∧ value.phase.inSetup = false)
    (disconnected : svc.state = .disconnected → ∀ kind, svc.stored kind = none) :
    Ledger { helper with svc := svc } :=
  { holds with stored := stored, disconnected := disconnected }

/-- A new attempt has created nothing yet. -/
theorem Ledger.withAttempt {svc : HelperService} (coderURL : String) (holds : Ledger helper)
    (stored : ∀ kind, svc.stored kind = helper.svc.stored kind)
    (up : svc.state ≠ .disconnected) :
    Ledger { helper with
      svc := svc, attempts := helper.attempts ++ [⟨coderURL, .announce, []⟩] } := by
  -- Each lookup is of the new attempt or of an old one.
  have lookup : ∀ (other : Nat) (next : Attempt),
      (helper.attempts ++ [⟨coderURL, .announce, []⟩])[other]? = some next →
      next = ⟨coderURL, .announce, []⟩ ∧ other = helper.attempts.length ∨
        helper.attempts[other]? = some next := by
    intro other next found
    rw [List.getElem?_append] at found
    split at found
    · exact .inr found
    · rw [List.getElem?_singleton] at found
      split at found
      · exact .inl ⟨(Option.some.inj found).symm, by omega⟩
      · cases found
  constructor
  · intro other next found
    rcases lookup other next found with ⟨rfl, -⟩ | found
    · exact ⟨rfl, List.nodup_nil⟩
    · exact holds.locals other next found
  · intro resource member
    have bounded := holds.started resource member
    simp only [List.length_append, List.length_singleton]
    exact Nat.lt_succ_of_lt bounded
  · intro other next found isBuilding kind member
    rcases lookup other next found with ⟨-, rfl⟩ | found
    · exact absurd (holds.started _ member) (Nat.lt_irrefl _)
    · exact holds.building other next found isBuilding kind member
  · intro other next found kind member
    rcases lookup other next found with ⟨rfl, -⟩ | found
    · cases member
    · exact holds.own other next found kind member
  · intro kind owner isStored
    rw [stored] at isStored
    obtain ⟨member, value, found, finished⟩ := holds.stored kind owner isStored
    have bounded := (List.getElem?_eq_some_iff.mp found).1
    exact ⟨member, value, (List.getElem?_append_left bounded).trans found, finished⟩
  · exact holds.released
  · exact fun down => absurd down up

/-- More releases of what was created keep the ledger. -/
theorem Ledger.withReleases {resources : List Resource} (holds : Ledger helper)
    (made : ∀ resource ∈ resources, resource ∈ helper.created) :
    Ledger { helper with released := helper.released ++ resources } :=
  { holds with
    released := fun resource member =>
      (List.mem_append.mp member).elim (holds.released resource) (made resource) }

end Frames

/-! ## What shutdown moves -/

namespace HelperService

/-- A disconnected service has nothing to shut down. -/
theorem shutdown_of_disconnected {svc : HelperService} (down : svc.state = .disconnected) :
    svc.shutdown = (svc, [], []) := by
  simp [shutdown, down]

/-- A service that is up releases all it holds on shutdown. -/
theorem shutdown_released {svc : HelperService} (up : svc.state ≠ .disconnected) :
    svc.shutdown.2.1 = svc.storedResources := by
  simp [shutdown, up]

/-- After a shutdown the service holds nothing. -/
theorem shutdown_stored {svc : HelperService} (up : svc.state ≠ .disconnected)
    (kind : ResourceKind) : svc.shutdown.1.stored kind = none := by
  cases kind <;> simp [shutdown, up, stored]

/-- A resource the service holds is counted once. -/
theorem count_filterMap_stored (svc : HelperService) (resource : Resource)
    {kinds : List ResourceKind} (distinct : kinds.Nodup) :
    (kinds.filterMap fun kind =>
      (svc.stored kind).map fun owner => (⟨owner, kind⟩ : Resource)).count
      resource = if resource.kind ∈ kinds then svc.storedCount resource else 0 := by
  induction kinds with
  | nil => simp
  | cons kind rest inductionHypothesis =>
      obtain ⟨absent, distinct⟩ := List.nodup_cons.mp distinct
      obtain ⟨owner, wanted⟩ := resource
      rw [List.filterMap_cons]
      by_cases same : kind = wanted
      · subst same
        cases found : svc.stored kind with
        | none => simp [found, inductionHypothesis distinct, absent, storedCount]
        | some other =>
            simp [found, inductionHypothesis distinct, absent, storedCount, List.count_cons]
      · cases found : svc.stored kind with
        | none => simp [inductionHypothesis distinct, Ne.symm same]
        | some other =>
            simp [inductionHypothesis distinct, Ne.symm same, same]

/-- `shutdown` releases every stored resource once and nothing else. -/
theorem count_storedResources (svc : HelperService) (resource : Resource) :
    svc.storedResources.count resource = svc.storedCount resource := by
  have all : resource.kind ∈ [ResourceKind.tailnetCon, .cancel, .tunDev, .dnsManager] := by
    cases resource.kind <;> decide
  rw [storedResources, count_filterMap_stored svc resource (by decide), if_pos all]

/-- What is listed is held. -/
theorem stored_of_mem_storedResources {svc : HelperService} {resource : Resource}
    (member : resource ∈ svc.storedResources) :
    svc.stored resource.kind = some resource.owner := by
  have positive := List.count_pos_iff.mpr member
  rw [count_storedResources, storedCount] at positive
  by_contra other
  simp [other] at positive

@[simp] theorem save_stored (svc : HelperService) (attempt : AttemptId) (kind : ResourceKind) :
    (svc.save attempt).stored kind = some attempt := by
  cases kind <;> rfl

@[simp] theorem setError_stored (svc : HelperService) (kind : ResourceKind) :
    svc.setError.stored kind = svc.stored kind := by
  cases kind <;> rfl

@[simp] theorem controllerClosed_stored (svc : HelperService) (attempt : AttemptId)
    (kind : ResourceKind) : (svc.controllerClosed attempt).1.stored kind = svc.stored kind := by
  unfold controllerClosed
  split <;> cases kind <;> rfl

/-- A service that is disconnected after its controller closed was so before. -/
theorem controllerClosed_state {svc : HelperService} {attempt : AttemptId}
    (down : (svc.controllerClosed attempt).1.state = .disconnected) :
    svc.state = .disconnected := by
  unfold controllerClosed at down
  split at down
  · cases down
  · exact down

/-- A start leaves what is held. -/
theorem start_stored {svc svc' : HelperService} {coderURL : String}
    (accepted : svc.start coderURL = .ok svc') (kind : ResourceKind) :
    svc'.stored kind = svc.stored kind := by
  unfold start at accepted
  split at accepted
  · cases accepted
  · cases accepted
    cases kind <;> rfl

end HelperService

/-- Every step keeps the ledger. -/
theorem Ledger.step {helper after : Helper} {event : HelperEvent} {signals : List StateChanged}
    (holds : Ledger helper) (taken : Helper.Step helper event after signals) : Ledger after := by
  cases taken with
  | startRejected => exact holds
  | start accepted =>
      refine holds.withAttempt _ (HelperService.start_stored accepted) ?_
      rw [HelperService.start_state accepted]
      decide
  | shutdown =>
      by_cases down : helper.svc.state = .disconnected
      · simpa [HelperService.shutdown_of_disconnected down] using holds
      · rw [HelperService.shutdown_released down]
        refine (holds.withReleases fun resource member => ?_).withService
          (fun kind owner isStored => ?_) (fun _ kind => HelperService.shutdown_stored down kind)
        · exact (holds.stored _ _ (HelperService.stored_of_mem_storedResources member)).1
        · rw [HelperService.shutdown_stored down] at isStored
          cases isStored
  | announce running =>
      have locals := holds.locals _ _ running
      exact holds.setAttempt' running locals (fun _ => ⟨rfl, rfl⟩) (fun _ => id) nofun
  | @succeed attempt coderURL setup locals running =>
      have owned := holds.locals _ _ running
      obtain rfl : locals = setup.cleanup := owned.1
      refine holds.setAttempt setup.creates running ⟨setup.owns_next.symm, setup.nodup_owns⟩
        (fun _ kind member => ?_) (fun kind member => ?_) nofun
      · rcases member with member | member
        · exact List.mem_append_right _ (holds.building _ _ running rfl kind member)
        · exact List.mem_append_left _ member
      · rcases List.mem_append.mp member with member | member
        · exact .inr member
        · exact .inl (holds.own _ _ running kind member)
  | fail running =>
      have locals := holds.locals _ _ running
      exact holds.setAttempt' running locals nofun (fun _ => id) nofun
  | @save attempt coderURL locals running =>
      have rewritten : Ledger (helper.setAttempt attempt ⟨coderURL, .emitConnected, []⟩) :=
        holds.setAttempt' running ⟨rfl, List.nodup_nil⟩ nofun nofun nofun
      refine rewritten.withService (fun kind owner isStored => ?_) nofun
      obtain rfl : attempt = owner := by simpa using isStored
      obtain rfl : locals = Phase.save.owns := (holds.locals _ _ running).1
      exact ⟨holds.own _ _ running kind (mem_owns_save kind), _,
        Helper.setAttempt_found running _, rfl⟩
  | emitConnected running =>
      have locals := holds.locals _ _ running
      exact holds.setAttempt' running locals nofun (fun _ => id) (fun _ => rfl)
  | @controllerClosed attempt coderURL locals running =>
      have owned := holds.locals _ _ running
      have rewritten : Ledger (helper.setAttempt attempt ⟨coderURL, .done, locals⟩) :=
        holds.setAttempt' running owned nofun (fun _ => id) (fun _ => rfl)
      refine rewritten.withService (fun kind owner isStored => ?_) (fun down kind => ?_)
      · rw [HelperService.controllerClosed_stored] at isStored
        exact rewritten.stored kind owner isStored
      · rw [HelperService.controllerClosed_stored]
        exact holds.disconnected (HelperService.controllerClosed_state down) kind
  | @release attempt coderURL kind todo msg locals running =>
      have owned := holds.locals _ _ running
      obtain rfl : locals = kind :: todo := owned.1
      have rewritten : Ledger (helper.setAttempt attempt
          ⟨coderURL, .unwind todo msg, (kind :: todo).erase kind⟩) :=
        holds.setAttempt' running
          (by simpa [Phase.owns] using (List.nodup_cons.mp owned.2).2) nofun
          (fun other => List.mem_of_mem_erase) nofun
      refine rewritten.withReleases fun resource member => ?_
      obtain rfl := List.mem_singleton.mp member
      exact holds.own _ _ running kind List.mem_cons_self
  | @setError attempt coderURL msg locals running =>
      have owned := holds.locals _ _ running
      have rewritten : Ledger (helper.setAttempt attempt ⟨coderURL, .emitError msg, locals⟩) :=
        holds.setAttempt' running owned nofun (fun _ => id) nofun
      refine rewritten.withService (fun kind owner isStored => ?_) nofun
      rw [HelperService.setError_stored] at isStored
      exact rewritten.stored kind owner isStored
  | emitError running =>
      have locals := holds.locals _ _ running
      exact holds.setAttempt' running locals nofun (fun _ => id) (fun _ => rfl)

/-! ## Counting places -/

section Counting

variable {attempts : List Attempt} {attempt : AttemptId} {value value' : Attempt}

/-- What an attempt holds is told by its phase. -/
theorem heldIn_found (found : attempts[attempt]? = some value) (kind : ResourceKind) :
    heldIn attempts ⟨attempt, kind⟩ = value.holds kind := by
  simp [heldIn, found]

/-- What an attempt holds after it moves on is told by its new phase. -/
theorem heldIn_set_self (found : attempts[attempt]? = some value) (kind : ResourceKind) :
    heldIn (attempts.set attempt value') ⟨attempt, kind⟩ = value'.holds kind :=
  heldIn_found (List.getElem?_set_self (List.getElem?_eq_some_iff.mp found).1) kind

/-- Other attempts hold what they held. -/
theorem heldIn_set_ne {resource : Resource} (other : attempt ≠ resource.owner) :
    heldIn (attempts.set attempt value') resource = heldIn attempts resource := by
  simp [heldIn, List.getElem?_set_ne other]

/-- Rewriting an attempt that holds the same before and after moves nothing. -/
theorem heldIn_set_same (found : attempts[attempt]? = some value)
    (same : ∀ kind, value'.holds kind = value.holds kind) (resource : Resource) :
    heldIn (attempts.set attempt value') resource = heldIn attempts resource := by
  obtain ⟨owner, kind⟩ := resource
  by_cases mine : attempt = owner
  · subst mine
    rw [heldIn_set_self found, heldIn_found found, same]
  · exact heldIn_set_ne mine

/-- More attempts do not change what the others hold. -/
theorem heldIn_append {resource : Resource} (bounded : resource.owner < attempts.length)
    (more : List Attempt) : heldIn (attempts ++ more) resource = heldIn attempts resource := by
  simp [heldIn, List.getElem?_append_left bounded]

end Counting

/-- How often a resource is held follows from what is held. -/
theorem HelperService.storedCount_congr {svc svc' : HelperService}
    (same : ∀ kind, svc'.stored kind = svc.stored kind) (resource : Resource) :
    svc'.storedCount resource = svc.storedCount resource := by
  simp [storedCount, same]

/-- A step that rewrites one attempt without changing what it holds, and keeps the
fields and the logs, moves nothing. -/
theorem onePlace_of_same {helper after : Helper} {attempt : AttemptId} {value value' : Attempt}
    (onePlace : ∀ resource ∈ helper.created, helper.places resource = 1)
    (found : helper.attempts[attempt]? = some value)
    (attempts : after.attempts = helper.attempts.set attempt value')
    (holds : ∀ kind, value'.holds kind = value.holds kind)
    (stored : ∀ kind, after.svc.stored kind = helper.svc.stored kind)
    (created : after.created = helper.created) (released : after.released = helper.released) :
    ∀ resource ∈ after.created, after.places resource = 1 := by
  intro resource member
  rw [created] at member
  rw [← onePlace resource member]
  unfold Helper.places
  rw [attempts, heldIn_set_same found holds, HelperService.storedCount_congr stored, released]

/-- An empty-handed save moves every resource of the attempt into the fields. -/
theorem places_of_save {helper : Helper} {attempt : AttemptId} {coderURL : String}
    (found : helper.attempts[attempt]? = some ⟨coderURL, .save, Phase.save.owns⟩)
    (empty : ∀ kind, helper.svc.stored kind = none) (resource : Resource) :
    Helper.places
      { helper.setAttempt attempt ⟨coderURL, .emitConnected, []⟩ with
        svc := helper.svc.save attempt } resource = helper.places resource := by
  obtain ⟨owner, kind⟩ := resource
  have before : helper.svc.storedCount ⟨owner, kind⟩ = 0 := by
    simp [HelperService.storedCount, empty]
  unfold Helper.places
  rw [before]
  by_cases mine : attempt = owner
  · subst mine
    have held : Attempt.holds ⟨coderURL, .save, Phase.save.owns⟩ kind = 1 := by
      cases kind <;> rfl
    rw [heldIn_found found, held]
    simp only [Helper.setAttempt]
    rw [heldIn_set_self found]
    simp [Attempt.holds, Phase.inSetup, HelperService.storedCount]
  · simp only [Helper.setAttempt]
    rw [heldIn_set_ne mine]
    simp [HelperService.storedCount, mine]

/-- An error exit moves what it releases from the attempt to the log. -/
theorem places_of_release {helper : Helper} {attempt : AttemptId} {coderURL msg : String}
    {kind : ResourceKind} {todo : List ResourceKind}
    (found : helper.attempts[attempt]? = some ⟨coderURL, .unwind (kind :: todo) msg, kind :: todo⟩)
    (resource : Resource) :
    Helper.places
      { helper.setAttempt attempt ⟨coderURL, .unwind todo msg, (kind :: todo).erase kind⟩ with
        released := helper.released ++ [⟨attempt, kind⟩] } resource = helper.places resource := by
  obtain ⟨owner, other⟩ := resource
  have holdsKind : kind ∈ kind :: todo := List.mem_cons_self
  have positive := List.count_pos_iff.mpr holdsKind
  unfold Helper.places
  simp only [Helper.setAttempt, List.count_append]
  by_cases mine : attempt = owner
  · subst mine
    rw [heldIn_set_self found, heldIn_found found]
    simp only [Attempt.holds, Phase.inSetup, if_true]
    by_cases same : kind = other
    · subst same
      rw [List.count_erase_self, List.count_singleton_self]
      omega
    · rw [List.count_erase_of_ne (Ne.symm same)]
      simp [same]
  · rw [heldIn_set_ne mine]
    simp [mine]

/-- What a setup step creates is held by its attempt alone, and the rest stays where it
is. -/
theorem onePlace_of_succeed {helper : Helper} {attempt : AttemptId} {coderURL : String}
    {setup : SetupStep} (ledger : Ledger helper)
    (onePlace : ∀ resource ∈ helper.created, helper.places resource = 1)
    (found : helper.attempts[attempt]? = some ⟨coderURL, .setup setup, setup.cleanup⟩) :
    ∀ resource ∈ helper.created ++ setup.creates.map (⟨attempt, ·⟩),
      Helper.places
        { helper.setAttempt attempt ⟨coderURL, setup.next, setup.creates ++ setup.cleanup⟩ with
          created := helper.created ++ setup.creates.map (⟨attempt, ·⟩) } resource = 1 := by
  rintro ⟨owner, kind⟩ member
  have members : (⟨owner, kind⟩ : Resource) ∈ helper.created ∨
      kind ∈ setup.creates ∧ attempt = owner := by
    simpa using member
  unfold Helper.places
  simp only [Helper.setAttempt]
  by_cases mine : attempt = owner
  · subst mine
    rw [heldIn_set_self found]
    simp only [Attempt.holds, setup.inSetup_next, if_true, List.count_append]
    by_cases isNew : kind ∈ setup.creates
    · -- The step made this one, so nobody else has it.
      have fresh : (⟨attempt, kind⟩ : Resource) ∉ helper.created := fun old =>
        (List.nodup_append.mp setup.nodup_owns).2.2 kind isNew kind
          (ledger.building _ _ found rfl kind old) rfl
      have once : setup.creates.count kind = 1 :=
        List.count_eq_one_of_mem (List.nodup_append.mp setup.nodup_owns).1 isNew
      have absent : setup.cleanup.count kind = 0 := List.count_eq_zero.mpr fun old =>
        fresh (ledger.own _ _ found kind old)
      have unstored : helper.svc.storedCount ⟨attempt, kind⟩ = 0 :=
        if_neg fun isStored => fresh (ledger.stored _ _ isStored).1
      have unreleased : helper.released.count ⟨attempt, kind⟩ = 0 :=
        List.count_eq_zero.mpr fun old => fresh (ledger.released _ old)
      omega
    · have old := onePlace _ (members.resolve_right fun news => isNew news.1)
      rw [List.count_eq_zero.mpr isNew, Nat.zero_add]
      rw [Helper.places, heldIn_found found] at old
      simpa only [Attempt.holds, Phase.inSetup, if_true] using old
  · rw [heldIn_set_ne mine]
    exact onePlace _ (members.resolve_right fun news => mine news.2)

/-- A step that satisfies `SavesIntoEmpty` keeps every resource in one place. -/
theorem onePlace_of_savesIntoEmpty {helper after : Helper} {event : HelperEvent}
    {signals : List StateChanged} (ledger : Ledger helper)
    (onePlace : ∀ resource ∈ helper.created, helper.places resource = 1)
    (taken : Helper.Step helper event after signals) (empty : SavesIntoEmpty helper event) :
    ∀ resource ∈ after.created, after.places resource = 1 := by
  cases taken with
  | startRejected => exact onePlace
  | start accepted =>
      intro resource member
      rw [← onePlace resource member]
      unfold Helper.places
      rw [heldIn_append (ledger.started resource member),
        HelperService.storedCount_congr (HelperService.start_stored accepted)]
  | shutdown =>
      intro resource member
      rw [← onePlace resource member]
      unfold Helper.places
      by_cases down : helper.svc.state = .disconnected
      · simp [HelperService.shutdown_of_disconnected down]
      · have cleared : helper.svc.shutdown.1.storedCount resource = 0 := by
          simp [HelperService.storedCount, HelperService.shutdown_stored down]
        rw [HelperService.shutdown_released down]
        simp only [List.count_append, HelperService.count_storedResources, cleared]
        omega
  | announce running =>
      exact onePlace_of_same onePlace running rfl (fun _ => rfl) (fun _ => rfl) rfl rfl
  | fail running =>
      exact onePlace_of_same onePlace running rfl (fun _ => rfl) (fun _ => rfl) rfl rfl
  | emitConnected running =>
      exact onePlace_of_same onePlace running rfl (fun _ => rfl) (fun _ => rfl) rfl rfl
  | emitError running =>
      exact onePlace_of_same onePlace running rfl (fun _ => rfl) (fun _ => rfl) rfl rfl
  | controllerClosed running =>
      exact onePlace_of_same onePlace running rfl (fun _ => rfl)
        (fun kind => HelperService.controllerClosed_stored _ _ kind) rfl rfl
  | @setError attempt coderURL msg locals running =>
      obtain rfl : locals = [] := (ledger.locals _ _ running).1
      exact onePlace_of_same onePlace running rfl (fun _ => rfl)
        (fun kind => HelperService.setError_stored _ kind) rfl rfl
  | @save attempt coderURL locals running =>
      intro resource member
      obtain rfl : locals = Phase.save.owns := (ledger.locals _ _ running).1
      exact (places_of_save running (empty _ running rfl) resource).trans
        (onePlace resource member)
  | @release attempt coderURL kind todo msg locals running =>
      obtain rfl : locals = kind :: todo := (ledger.locals _ _ running).1
      intro resource member
      exact (places_of_release running resource).trans (onePlace resource member)
  | @succeed attempt coderURL setup locals running =>
      obtain rfl : locals = setup.cleanup := (ledger.locals _ _ running).1
      exact onePlace_of_succeed ledger onePlace running

/-- A save over a stored resource loses it. -/
theorem not_onePlace_of_overwrite {helper after : Helper} {event : HelperEvent}
    {signals : List StateChanged} (ledger : Ledger helper)
    (onePlace : ∀ resource ∈ helper.created, helper.places resource = 1)
    (taken : Helper.Step helper event after signals) (full : ¬ SavesIntoEmpty helper event) :
    ∃ resource ∈ after.created, after.places resource ≠ 1 := by
  obtain ⟨attempt, failure, rfl⟩ : ∃ attempt failure, event = .advance attempt failure := by
    cases event with
    | advance attempt failure => exact ⟨attempt, failure, rfl⟩
    | _ => exact absurd trivial full
  obtain ⟨⟨coderURL, _, locals⟩, found, rfl, kind, isStored⟩ :
      ∃ value, helper.attempts[attempt]? = some value ∧ value.phase = .save ∧
        ∃ kind, helper.svc.stored kind ≠ none := by
    simpa [SavesIntoEmpty] using full
  obtain ⟨owner, isStored⟩ := Option.ne_none_iff_exists'.mp isStored
  obtain ⟨member, other, foundOwner, finished⟩ := ledger.stored kind owner isStored
  have different : attempt ≠ owner := by
    rintro rfl
    obtain rfl := Option.some.inj (found.symm.trans foundOwner)
    cases finished
  have before := onePlace ⟨owner, kind⟩ member
  have stored : helper.svc.storedCount ⟨owner, kind⟩ = 1 := if_pos isStored
  cases taken with
  | @save _ _ locals running =>
      refine ⟨⟨owner, kind⟩, member, ?_⟩
      have overwritten : (helper.svc.save attempt).storedCount ⟨owner, kind⟩ = 0 := by
        simp [HelperService.storedCount, different]
      unfold Helper.places at before ⊢
      simp only [Helper.setAttempt]
      rw [heldIn_set_ne different, overwritten]
      omega
  | announce running => cases Option.some.inj (found.symm.trans running)
  | succeed running => cases Option.some.inj (found.symm.trans running)
  | fail running => cases Option.some.inj (found.symm.trans running)
  | emitConnected running => cases Option.some.inj (found.symm.trans running)
  | controllerClosed running => cases Option.some.inj (found.symm.trans running)
  | release running => cases Option.some.inj (found.symm.trans running)
  | setError running => cases Option.some.inj (found.symm.trans running)
  | emitError running => cases Option.some.inj (found.symm.trans running)

/-! ## Results -/

/-- The ledger alone makes an idle, disconnected service hold nothing. -/
theorem Ledger.idle {helper : Helper} (ledger : Ledger helper)
    (down : helper.svc.state = .disconnected)
    (finished : ∀ value ∈ helper.attempts, value.phase.inSetup = false) (resource : Resource) :
    heldIn helper.attempts resource = 0 ∧ helper.svc.storedCount resource = 0 := by
  refine ⟨?_, by simp [HelperService.storedCount, ledger.disconnected down]⟩
  unfold heldIn
  cases found : helper.attempts[resource.owner]? with
  | none => rfl
  | some value => simp [Attempt.holds, finished value (List.mem_of_getElem? found)]

/-- Every resource is accounted for throughout a run exactly when every save of
the run finds the service's fields empty. -/
theorem accounted_iff_savesIntoEmpty (events : List HelperEvent) :
    (∀ helper, Visits Helper.next .new events helper → Accounted helper) ↔
      Conforms Helper.next SavesIntoEmpty .new events := by
  refine visits_iff_conforms Ledger Accounted ?_ ?_ .new ?_ events
  · intro helper event after ledger taken
    obtain ⟨signals, taken⟩ := Helper.next_eq_some_iff.mp taken
    exact ledger.step taken
  · intro helper event after ledger accounted taken
    obtain ⟨signals, taken⟩ := Helper.next_eq_some_iff.mp taken
    constructor
    · intro next
      by_contra full
      obtain ⟨resource, member, lost⟩ :=
        not_onePlace_of_overwrite ledger accounted.onePlace taken full
      exact lost (next.onePlace resource member)
    · intro empty
      exact ⟨onePlace_of_savesIntoEmpty ledger accounted.onePlace taken empty,
        fun down finished => (ledger.step taken).idle down finished⟩
  · exact ⟨by simp [Helper.new], fun down finished => Ledger.new.idle down finished⟩

/-- The tunnel is lost and started again: the new save drops the old tunnel. -/
def restartAfterLoss : List HelperEvent :=
  .start "https://dev.coder.com" :: setupEvents 0 ++
    [.advance 0 none, .advance 0 none, .advance 0 none, .start "https://dev.coder.com"] ++
    setupEvents 1 ++ [.advance 1 none]

/-- After the restart the first TUN device is neither held, stored nor closed. -/
theorem restartAfterLoss_leaks :
    ¬ ∀ helper, Visits Helper.next .new restartAfterLoss helper → Accounted helper := by
  refine not_visits_of_replay (fun helper =>
    ⟨0, .tunDev⟩ ∈ helper.created ∧ helper.places ⟨0, .tunDev⟩ = 0) (by decide) ?_
  rintro helper lost accounted
  obtain ⟨member, nowhere⟩ := of_decide_eq_true lost
  rw [accounted.onePlace _ member] at nowhere
  cases nowhere

end CoderDesktop.Vpn
