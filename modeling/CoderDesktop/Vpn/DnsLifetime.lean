import CoderDesktop.Dns.FailedConfigure
import CoderDesktop.Dns.Resolver
import CoderDesktop.Vpn.Ownership

/-!
# DNS over the lives of tunnels

The helper next to the host it configures. The DNS step of an attempt is `Configure` of a new
manager for the direct-file backend, and a manager that is released tears down what it
configured. As long as no tunnel configures DNS over another one's configuration, and nothing
is lost or torn, `/etc/resolv.conf` is the original file, with the block of the one tunnel that
has configured DNS before it.
-/

namespace CoderDesktop.Vpn

open Semantics Dns

/-- The helper, the host, and the DNS managers of the attempts. -/
structure NetworkWorld where
  helper : Helper
  host : Host
  /-- The manager each attempt called last. -/
  managers : AttemptId → Manager

/-- A step of the helper, and how accesses to the host end in it. -/
structure NetworkEvent where
  event : HelperEvent
  /-- The hostname suffix that the attempt's deployment reports, "coder" for none. -/
  suffix : Text
  configuring : ConfigureOutcome
  tearing : TeardownOutcome

/-- The attempt that takes its DNS step, and the error of this step. -/
def dnsStep (helper : Helper) : HelperEvent → Option (AttemptId × Option String)
  | .advance attempt failure =>
      match helper.attempts[attempt]?.map Attempt.phase with
      | some (.setup .configureDNS) => some (attempt, failure)
      | _ => none
  | .start _ | .startRejected _ | .shutdown => none

variable (dnsServer : Text)

namespace NetworkWorld

/-- No tunnel was started. -/
def new (host : Host) : NetworkWorld := ⟨.new, host, fun _ => directManager tunName⟩

/-- A new manager sets the tunnel's server and domain. -/
def configureDNS (world : NetworkWorld) (event : NetworkEvent) : Result :=
  (directManager tunName).configure [dnsServer] [event.suffix] event.configuring world.host

/-- What the release of a resource does to the host. -/
def release (outcome : TeardownOutcome) (world : NetworkWorld) (resource : Resource) :
    NetworkWorld :=
  match resource.kind with
  | .dnsManager =>
      let result := (world.managers resource.owner).teardown outcome world.host
      { world with
        host := result.host
        managers := Function.update world.managers resource.owner result.manager }
  | .tunDev => { world with host := world.host.closeTun tunName }
  | .cancel | .tailnetCon => world

/-- A step of the helper, with what its DNS calls do to the host. -/
def next (world : NetworkWorld) (event : NetworkEvent) : Option NetworkWorld :=
  match dnsStep world.helper event.event with
  | some (attempt, failure) =>
      let result := world.configureDNS dnsServer event
      if failure = result.error then
        (world.helper.next event.event).map fun helper =>
          { helper := helper
            host := result.host
            managers := Function.update world.managers attempt result.manager }
      else none
  | none =>
      (world.helper.next event.event).map fun helper =>
        (helper.released.drop world.helper.released.length).foldl (release event.tearing)
          { world with helper := helper }

end NetworkWorld

/-- DNS is configured by the attempt and not torn down. -/
def ConfiguredBy (helper : Helper) (owner : AttemptId) : Prop :=
  (⟨owner, .dnsManager⟩ : Resource) ∈ helper.created ∧
    (⟨owner, .dnsManager⟩ : Resource) ∉ helper.released

instance (helper : Helper) (owner : AttemptId) : Decidable (ConfiguredBy helper owner) :=
  inferInstanceAs (Decidable (_ ∧ _))

/-- No tunnel is saved over another one, no DNS configured over another configuration, no write
of the file torn by a configuration that fails, and every teardown works. -/
structure Orderly (world : NetworkWorld) (event : NetworkEvent) : Prop where
  saves : SavesIntoEmpty world.helper event.event
  alone : (dnsStep world.helper event.event).isSome = true →
    ∀ owner, ¬ ConfiguredBy world.helper owner
  whole : (dnsStep world.helper event.event).isSome = true →
    TearsNothing [dnsServer] [event.suffix] event.configuring world.host
  tearing : event.tearing.read = none ∧ event.tearing.write = none

instance (nameservers searchDomains : List Text) (outcome : ConfigureOutcome) (host : Host) :
    Decidable (TearsNothing nameservers searchDomains outcome host) :=
  match written : outcome.write with
  | some (.torn count error) =>
      decidable_of_iff ((outcome.read = none ∧ (host.resolvConf ≠ [] → outcome.backup = none)) →
          host.files resolvConfPath =
            some ((managedBlock nameservers searchDomains ++ host.resolvConf).take count))
        ⟨fun kept writes other fault torn => by
          obtain ⟨rfl, rfl⟩ := WriteFault.torn.inj (Option.some.inj (written.symm.trans torn))
          exact kept writes, fun nothing writes => nothing writes count error written⟩
  | some (.notOpened _) => .isTrue fun _ _ _ torn => nomatch written.symm.trans torn
  | none => .isTrue fun _ _ _ torn => nomatch written.symm.trans torn

/-- Every manager that was made is torn down. -/
theorem nobody_iff {helper : Helper} : (∀ owner, ¬ ConfiguredBy helper owner) ↔
    ∀ resource ∈ helper.created, resource.kind = .dnsManager → resource ∈ helper.released := by
  constructor
  · rintro nobody ⟨owner, kind⟩ created rfl
    exact not_not.mp fun unreleased => nobody owner ⟨created, unreleased⟩
  · rintro all owner ⟨created, unreleased⟩
    exact unreleased (all _ created rfl)

instance (world : NetworkWorld) (event : NetworkEvent) :
    Decidable (Orderly dnsServer world event) :=
  have : Decidable (SavesIntoEmpty world.helper event.event) :=
    have : Decidable (∀ kind, world.helper.svc.stored kind = none) :=
      decidable_of_iff (∀ kind ∈ [ResourceKind.cancel, .tunDev, .dnsManager, .tailnetCon],
          world.helper.svc.stored kind = none)
        ⟨fun all kind => all kind (by cases kind <;> decide), fun all kind _ => all kind⟩
    match event.event with
    | .advance attempt _ => inferInstanceAs (Decidable (∀ value ∈ world.helper.attempts[attempt]?,
        value.phase = .save → ∀ kind, world.helper.svc.stored kind = none))
    | .start _ | .startRejected _ | .shutdown => .isTrue trivial
  have : Decidable (∀ owner, ¬ ConfiguredBy world.helper owner) :=
    decidable_of_iff _ nobody_iff.symm
  decidable_of_iff (SavesIntoEmpty world.helper event.event ∧
      ((dnsStep world.helper event.event).isSome = true →
        (∀ owner, ¬ ConfiguredBy world.helper owner) ∧
          TearsNothing [dnsServer] [event.suffix] event.configuring world.host) ∧
      event.tearing.read = none ∧ event.tearing.write = none)
    ⟨fun ⟨saves, dns, tearing⟩ => ⟨saves, fun isDns => (dns isDns).1, fun isDns => (dns isDns).2,
      tearing⟩, fun orderly => ⟨orderly.saves, fun isDns => ⟨orderly.alone isDns,
      orderly.whole isDns⟩, orderly.tearing⟩⟩

/-! ## A configuration -/

section Configuration

variable {m : Manager} {nameservers searchDomains : List Text} {outcome : ConfigureOutcome}
  {host : Host}

/-- A configuration that succeeds over some content has backed it up, and its manager knows. -/
theorem backup_of_succeeded (content : host.resolvConf ≠ [])
    (succeeded : (m.configureDirectFile nameservers searchDomains outcome host).error = none) :
    let result := m.configureDirectFile nameservers searchDomains outcome host
    result.manager.backend = m.backend ∧ result.manager.backupPath = resolvConfBackup ∧
      result.host.files resolvConfBackup = some host.resolvConf := by
  intro result
  have eq : result = _ := configureDirectFile_eq nameservers searchDomains host m outcome
  change result.error = none at succeeded
  rw [eq] at succeeded ⊢
  cases read : outcome.read with
  | some error =>
      rw [read] at succeeded
      cases succeeded
  | none =>
      simp only [read, Manager.backUp, if_pos content] at succeeded ⊢
      cases backup : outcome.backup with
      | some fault =>
          rw [backup] at succeeded
          cases succeeded
      | none =>
          rw [backup] at succeeded
          obtain written : outcome.write = none := Option.map_eq_none_iff.mp succeeded
          refine ⟨rfl, rfl, ?_⟩
          simp [Manager.writeManagedBlock, written, Host.writeFile, Host.setFile,
            Function.update_of_ne backup_ne_resolvConf]

/-- A teardown that reads the backup and writes it back has restored the file. -/
theorem resolvConf_teardown_of_backup {tearing : TeardownOutcome} {backup : Text}
    (direct : m.backend = .directFile) (known : m.backupPath = resolvConfBackup)
    (found : host.files resolvConfBackup = some backup) (read : tearing.read = none)
    (write : tearing.write = none) : (m.teardown tearing host).host.resolvConf = backup := by
  have set : m.backupPath ≠ "" := by
    rw [known]
    decide
  unfold Manager.teardown
  rw [direct]
  unfold Manager.teardownDirectFile Host.readFile
  rw [if_neg set, known, read, found]
  simp only [write, Host.writeFile]
  split
  · rw [resolvConf_setFile_of_ne _ backup_ne_resolvConf, resolvConf_setFile]
    rfl
  · rw [resolvConf_setFile]
    rfl

end Configuration

/-! ## Releases -/

namespace NetworkWorld

variable {world : NetworkWorld} {outcome : TeardownOutcome}

/-- What the text of the file and its teardown depend on. -/
def SameFiles (world after : NetworkWorld) : Prop :=
  after.host.files = world.host.files ∧ after.managers = world.managers

/-- With the same files the resolver reads the same. -/
theorem SameFiles.resolvConf {after : NetworkWorld} (same : world.SameFiles after) :
    after.host.resolvConf = world.host.resolvConf := by
  rw [Host.resolvConf, Host.resolvConf, same.1]

/-- Releasing a resource of the host leaves the helper alone. -/
theorem helper_release (resource : Resource) :
    (world.release outcome resource).helper = world.helper := by
  unfold release
  split <;> rfl

/-- Releasing several resources leaves the helper alone. -/
theorem helper_foldl_release (resources : List Resource) :
    (resources.foldl (release outcome) world).helper = world.helper := by
  induction resources generalizing world with
  | nil => rfl
  | cons resource rest inductionHypothesis =>
      rw [List.foldl_cons, inductionHypothesis, helper_release]

/-- Without a manager among them the releases leave the files alone. -/
theorem sameFiles_foldl_release {resources : List Resource}
    (others : ∀ resource ∈ resources, resource.kind ≠ .dnsManager) :
    world.SameFiles (resources.foldl (release outcome) world) := by
  induction resources generalizing world with
  | nil => exact ⟨rfl, rfl⟩
  | cons resource rest inductionHypothesis =>
      obtain ⟨notDns, others⟩ := List.forall_mem_cons.mp others
      have first : world.SameFiles (world.release outcome resource) := by
        unfold release
        cases kind : resource.kind with
        | dnsManager => exact absurd kind notDns
        | tunDev => exact ⟨rfl, rfl⟩
        | cancel => exact ⟨rfl, rfl⟩
        | tailnetCon => exact ⟨rfl, rfl⟩
      have later : (world.release outcome resource).SameFiles
          (rest.foldl (release outcome) (world.release outcome resource)) :=
        inductionHypothesis others
      exact ⟨later.1.trans first.1, later.2.trans first.2⟩

/-- A manager among them sets the file back to the backup it knows of. -/
theorem resolvConf_foldl_release {before rest : List Resource} {owner : AttemptId}
    {backup : Text} (othersBefore : ∀ resource ∈ before, resource.kind ≠ .dnsManager)
    (othersAfter : ∀ resource ∈ rest, resource.kind ≠ .dnsManager)
    (direct : (world.managers owner).backend = .directFile)
    (known : (world.managers owner).backupPath = resolvConfBackup)
    (found : world.host.files resolvConfBackup = some backup)
    (works : outcome.read = none ∧ outcome.write = none) :
    ((before ++ ⟨owner, .dnsManager⟩ :: rest).foldl (release outcome) world).host.resolvConf =
      backup := by
  rw [List.foldl_append, List.foldl_cons]
  have same : world.SameFiles (before.foldl (release outcome) world) :=
    sameFiles_foldl_release othersBefore
  generalize before.foldl (release outcome) world = middle at same
  have restored : (middle.release outcome ⟨owner, .dnsManager⟩).host.resolvConf =
      backup := by
    refine resolvConf_teardown_of_backup ?_ ?_ ?_ works.1 works.2
    · rw [same.2]
      exact direct
    · rw [same.2]
      exact known
    · rw [same.1]
      exact found
  have kept : (middle.release outcome ⟨owner, .dnsManager⟩).SameFiles
      (rest.foldl (release outcome)
        (middle.release outcome ⟨owner, .dnsManager⟩)) :=
    sameFiles_foldl_release othersAfter
  exact kept.resolvConf.trans restored

end NetworkWorld

/-! ## Which managers a step creates and releases -/

section Books

variable {helper after : Helper} {event : HelperEvent} {signals : List StateChanged}

/-- What is released stays released. -/
theorem released_append (taken : Helper.Step helper event after signals) :
    ∃ news, after.released = helper.released ++ news := by
  cases taken with
  | shutdown => exact ⟨_, rfl⟩
  | release running => exact ⟨_, rfl⟩
  | _ => exact ⟨[], (List.append_nil _).symm⟩

/-- Managers are made by the DNS step alone. -/
theorem created_of_dnsStep_none (taken : Helper.Step helper event after signals)
    (other : dnsStep helper event = none) (owner : AttemptId) :
    (⟨owner, .dnsManager⟩ : Resource) ∈ after.created ↔
      (⟨owner, .dnsManager⟩ : Resource) ∈ helper.created := by
  cases taken with
  | @succeed attempt coderURL step locals running =>
      have notDns : step ≠ .configureDNS := by
        rintro rfl
        simp [dnsStep, running] at other
      have kinds : .dnsManager ∉ step.creates := by
        cases step with
        | configureDNS => exact absurd rfl notDns
        | _ => decide
      simp [kinds]
  | _ => exact Iff.rfl

/-- The DNS step succeeds, or it fails and nothing is created. -/
theorem step_of_dnsStep {attempt : AttemptId} {failure : Option String}
    (taken : Helper.Step helper event after signals)
    (dns : dnsStep helper event = some (attempt, failure)) :
    after.released = helper.released ∧
      ((failure = none ∧ after.created = helper.created ++ [⟨attempt, .dnsManager⟩] ∧
          ∃ value, helper.attempts[attempt]? = some value ∧
            value.phase = .setup .configureDNS) ∨
        (failure.isSome = true ∧ after.created = helper.created)) := by
  cases event with
  | start | startRejected | shutdown => cases dns
  | advance current failure' =>
      simp only [dnsStep] at dns
      split at dns
      · rename_i phase
        obtain ⟨rfl, rfl⟩ := Prod.mk.inj (Option.some.inj dns)
        obtain ⟨value, found, isDns⟩ := Option.map_eq_some_iff.mp phase
        cases taken with
        | @succeed _ coderURL step locals running =>
            obtain rfl := Option.some.inj (found.symm.trans running)
            obtain rfl : step = .configureDNS := Phase.setup.inj isDns
            exact ⟨rfl, .inl ⟨rfl, rfl, _, running, rfl⟩⟩
        | fail running => exact ⟨rfl, .inr ⟨rfl, rfl⟩⟩
        | announce running | save running | emitConnected running | controllerClosed running
        | release running | setError running | emitError running =>
            obtain rfl := Option.some.inj (found.symm.trans running)
            cases isDns
      · cases dns

/-- A list around the one place of an element. -/
theorem split_of_count_eq_one {resources : List Resource} {resource : Resource}
    (once : resources.count resource = 1) :
    ∃ before rest, resources = before ++ resource :: rest ∧
      resource ∉ before ∧ resource ∉ rest := by
  have member : resource ∈ resources := List.count_pos_iff.mp (by omega)
  obtain ⟨before, rest, rfl, notBefore⟩ := List.eq_append_cons_of_mem member
  rw [List.count_append, List.count_eq_zero_of_not_mem notBefore, List.count_cons_self] at once
  exact ⟨before, rest, rfl, notBefore, List.count_eq_zero.mp (by omega)⟩

/-- Every manager a step releases had been configured until then, and is released once. -/
theorem configuredBy_of_released {news : List Resource} (ledger : Ledger after)
    (onePlace : ∀ resource ∈ after.created, after.places resource = 1)
    (released : after.released = helper.released ++ news) {owner : AttemptId}
    (created : (⟨owner, .dnsManager⟩ : Resource) ∈ after.created →
      (⟨owner, .dnsManager⟩ : Resource) ∈ helper.created)
    (member : (⟨owner, .dnsManager⟩ : Resource) ∈ news) :
    ConfiguredBy helper owner ∧ news.count (⟨owner, .dnsManager⟩ : Resource) = 1 := by
  have inReleased : (⟨owner, .dnsManager⟩ : Resource) ∈ after.released := by
    rw [released]
    exact List.mem_append_right _ member
  have inCreated := ledger.released _ inReleased
  have places := onePlace _ inCreated
  unfold Helper.places at places
  rw [released, List.count_append] at places
  have positive := List.count_pos_iff.mpr member
  refine ⟨⟨created inCreated, fun before => ?_⟩, by omega⟩
  have earlier := List.count_pos_iff.mpr before
  omega

end Books

/-! ## The file -/

namespace NetworkWorld

/-- The file is the original one, or that with the block of the one tunnel that has configured
DNS, which knows the backup. -/
inductive Holds (original : Text) (world : NetworkWorld) : Prop where
  | plain (nobody : ∀ owner, ¬ ConfiguredBy world.helper owner)
      (file : world.host.resolvConf = original)
  | configured (owner : AttemptId) (suffix : Text)
      (only : ∀ other, ConfiguredBy world.helper other ↔ other = owner)
      (file : world.host.resolvConf = managedBlock [dnsServer] [suffix] ++ original)
      (direct : (world.managers owner).backend = .directFile)
      (known : (world.managers owner).backupPath = resolvConfBackup)
      (found : world.host.files resolvConfBackup = some original)

variable {dnsServer} {original : Text} {world : NetworkWorld}

/-- If no attempt has configured DNS the file is the original. -/
theorem Holds.file_of_nobody (holds : world.Holds dnsServer original)
    (nobody : ∀ owner, ¬ ConfiguredBy world.helper owner) :
    world.host.resolvConf = original := by
  cases holds with
  | plain _ file => exact file
  | configured owner suffix only => exact absurd ((only owner).mpr rfl) (nobody owner)

/-- An attempt that is about to configure DNS has no manager yet. -/
theorem not_created_of_dnsStep {helper : Helper} (ledger : Ledger helper) {attempt : AttemptId}
    {value : Attempt} (found : helper.attempts[attempt]? = some value)
    (isDns : value.phase = .setup .configureDNS) :
    (⟨attempt, .dnsManager⟩ : Resource) ∉ helper.created := by
  intro created
  have mine := ledger.building attempt value found (by rw [isDns]; rfl) _ created
  rw [(ledger.locals attempt value found).1, isDns] at mine
  revert mine
  decide

/-- A configuration whose writes are whole keeps hold of the original. -/
theorem Holds.dnsStep (content : original ≠ []) (ledger : Ledger world.helper)
    (holds : world.Holds dnsServer original) {event : NetworkEvent}
    (nobody : ∀ owner, ¬ ConfiguredBy world.helper owner)
    (whole : TearsNothing [dnsServer] [event.suffix] event.configuring world.host)
    {helper : Helper} {signals : List StateChanged}
    (taken : Helper.Step world.helper event.event helper signals) {attempt : AttemptId}
    (dns : Vpn.dnsStep world.helper event.event =
      some (attempt, (world.configureDNS dnsServer event).error)) :
    Holds dnsServer original
      { helper := helper
        host := (world.configureDNS dnsServer event).host
        managers := Function.update world.managers attempt
          (world.configureDNS dnsServer event).manager } := by
  have file := holds.file_of_nobody nobody
  obtain ⟨released, ⟨succeeded, created, value, found, isDns⟩ | ⟨failed, created⟩⟩ :=
    step_of_dnsStep taken dns
  · have fresh := not_created_of_dnsStep ledger found isDns
    rw [← file] at content
    obtain ⟨direct, known, backup⟩ := backup_of_succeeded content succeeded
    refine .configured attempt event.suffix (fun other => ?_) ?_ ?_ ?_ ?_
    · unfold ConfiguredBy
      rw [created, released, List.mem_append, List.mem_singleton]
      constructor
      · rintro ⟨before | same, unreleased⟩
        · exact absurd ⟨before, unreleased⟩ (nobody other)
        · exact congrArg Resource.owner same
      · rintro rfl
        exact ⟨.inr rfl, fun gone => fresh (ledger.released _ gone)⟩
    · rw [← file]
      exact configureDirectFile_of_succeeded succeeded
    · exact (congrArg Manager.backend (Function.update_self attempt _ _)).trans direct
    · exact (congrArg Manager.backupPath (Function.update_self attempt _ _)).trans known
    · rw [← file]
      exact backup
  · refine .plain (fun owner => ?_) ?_
    · unfold ConfiguredBy
      rw [created, released]
      exact nobody owner
    · have same := (configureDirectFile_failed_iff (directManager tunName) [dnsServer]
        [event.suffix] event.configuring world.host).mpr whole failed
      rw [← file]
      exact congrArg (·.getD []) same

/-- The file stays as it is while no manager is released. -/
theorem Holds.unreleased (holds : world.Holds dnsServer original) {helper : Helper}
    {news : List Resource} (others : ∀ resource ∈ news, resource.kind ≠ .dnsManager)
    (unchanged : ∀ owner, ConfiguredBy helper owner ↔ ConfiguredBy world.helper owner)
    (outcome : TeardownOutcome) :
    Holds dnsServer original
      (news.foldl (release outcome) { world with helper := helper }) := by
  have same : SameFiles { world with helper := helper }
      (news.foldl (release outcome) { world with helper := helper }) :=
    sameFiles_foldl_release others
  cases holds with
  | plain nobody file =>
      refine .plain (fun owner => ?_) (same.resolvConf.trans file)
      rw [helper_foldl_release, unchanged]
      exact nobody owner
  | configured owner suffix only file direct known found =>
      refine .configured owner suffix (fun other => ?_) (same.resolvConf.trans file) ?_ ?_ ?_
      · rw [helper_foldl_release, unchanged]
        exact only other
      · rw [same.2]
        exact direct
      · rw [same.2]
        exact known
      · rw [same.1]
        exact found

/-- A step apart from DNS steps restores the file if it releases the manager. -/
theorem Holds.releases (holds : world.Holds dnsServer original) {event : HelperEvent}
    {helper : Helper} {signals : List StateChanged}
    (taken : Helper.Step world.helper event helper signals) (ledger : Ledger helper)
    (onePlace : ∀ resource ∈ helper.created, helper.places resource = 1)
    (other : Vpn.dnsStep world.helper event = none) {outcome : TeardownOutcome}
    (works : outcome.read = none ∧ outcome.write = none) :
    Holds dnsServer original
      ((helper.released.drop world.helper.released.length).foldl (release outcome)
        { world with helper := helper }) := by
  obtain ⟨news, released⟩ := released_append taken
  have created := created_of_dnsStep_none taken other
  have mine (owner : AttemptId) (member : (⟨owner, .dnsManager⟩ : Resource) ∈ news) :=
    configuredBy_of_released ledger onePlace released (created owner).mp member
  have still (owner : AttemptId) : ConfiguredBy helper owner ↔
      ConfiguredBy world.helper owner ∧ (⟨owner, .dnsManager⟩ : Resource) ∉ news := by
    unfold ConfiguredBy
    rw [created owner, released, List.mem_append, not_or, and_assoc]
  rw [released, List.drop_left]
  by_cases releases : ∃ owner, (⟨owner, .dnsManager⟩ : Resource) ∈ news
  · obtain ⟨owner, member⟩ := releases
    cases holds with
    | plain nobody => exact absurd (mine owner member).1 (nobody owner)
    | configured holder suffix only file direct known found =>
        obtain rfl := (only owner).mp (mine owner member).1
        obtain ⟨before, rest, rfl, notBefore, notAfter⟩ :=
          split_of_count_eq_one (mine owner member).2
        have theOne (resource : Resource)
            (among : resource ∈ before ++ ⟨owner, .dnsManager⟩ :: rest)
            (isDns : resource.kind = .dnsManager) : resource = ⟨owner, .dnsManager⟩ := by
          obtain ⟨holder, kind⟩ := resource
          obtain rfl : kind = .dnsManager := isDns
          rw [(only holder).mp (mine holder among).1]
        refine .plain (fun holder => ?_) ?_
        · rw [helper_foldl_release]
          intro configured
          have now := (still holder).mp configured
          obtain rfl := (only holder).mp now.1
          exact now.2 member
        · refine resolvConf_foldl_release (fun resource among isDns => ?_)
            (fun resource among isDns => ?_) direct known found works
          · exact notBefore (theOne resource (List.mem_append_left _ among) isDns ▸ among)
          · exact notAfter (theOne resource (List.mem_append_right _
              (List.mem_cons_of_mem _ among)) isDns ▸ among)
  · have others : ∀ resource ∈ news, resource.kind ≠ .dnsManager := by
      rintro ⟨owner, kind⟩ member rfl
      exact releases ⟨owner, member⟩
    have unchanged (owner : AttemptId) : ConfiguredBy helper owner ↔
        ConfiguredBy world.helper owner :=
      (still owner).trans (and_iff_left fun member => releases ⟨owner, member⟩)
    exact holds.unreleased others unchanged outcome

/-! ## Runs -/

/-- The books of the helper are in order, and so is the file. -/
structure InOrder (dnsServer original : Text) (world : NetworkWorld) : Prop where
  ledger : Ledger world.helper
  onePlace : ∀ resource ∈ world.helper.created, world.helper.places resource = 1
  holds : world.Holds dnsServer original

/-- The file is the original at first. -/
theorem inOrder_new (host : Host) : (new host).InOrder dnsServer host.resolvConf where
  ledger := .new
  onePlace _ := List.not_mem_nil.elim
  holds := .plain (fun _ configured => List.not_mem_nil configured.1) rfl

/-- Every orderly event keeps the file in order. -/
theorem InOrder.next (content : original ≠ []) (inOrder : world.InOrder dnsServer original)
    {event : NetworkEvent} {after : NetworkWorld} (orderly : Orderly dnsServer world event)
    (taken : world.next dnsServer event = some after) : after.InOrder dnsServer original := by
  have books {helper : Helper} (moved : world.helper.next event.event = some helper) :
      ∃ signals, Helper.Step world.helper event.event helper signals ∧ Ledger helper ∧
        ∀ resource ∈ helper.created, helper.places resource = 1 := by
    obtain ⟨signals, step⟩ := Helper.next_eq_some_iff.mp moved
    exact ⟨signals, step, inOrder.ledger.step step,
      onePlace_of_savesIntoEmpty inOrder.ledger inOrder.onePlace step orderly.saves⟩
  unfold NetworkWorld.next at taken
  split at taken
  · rename_i attempt failure dns
    obtain ⟨same, taken⟩ := Option.ite_none_right_eq_some.mp taken
    obtain ⟨helper, moved, rfl⟩ := Option.map_eq_some_iff.mp taken
    obtain ⟨signals, step, ledger, onePlace⟩ := books moved
    rw [same] at dns
    have isDns : (Vpn.dnsStep world.helper event.event).isSome = true := by rw [dns]; rfl
    exact ⟨ledger, onePlace, inOrder.holds.dnsStep content inOrder.ledger (orderly.alone isDns)
      (orderly.whole isDns) step dns⟩
  · rename_i other
    obtain ⟨helper, moved, rfl⟩ := Option.map_eq_some_iff.mp taken
    obtain ⟨signals, step, ledger, onePlace⟩ := books moved
    have holds := inOrder.holds.releases step ledger onePlace other orderly.tearing
    refine ⟨?_, ?_, holds⟩
    · rw [helper_foldl_release]
      exact ledger
    · rw [helper_foldl_release]
      exact onePlace

/-- What is stored was configured and is not torn down. -/
theorem InOrder.configuredBy_of_stored (inOrder : world.InOrder dnsServer original)
    {owner : AttemptId} (stored : world.helper.svc.dnsManager = some owner) :
    ConfiguredBy world.helper owner := by
  have created := (inOrder.ledger.stored .dnsManager owner stored).1
  have places := inOrder.onePlace _ created
  have count : world.helper.svc.storedCount ⟨owner, .dnsManager⟩ = 1 := if_pos stored
  refine ⟨created, fun released => ?_⟩
  have positive := List.count_pos_iff.mpr released
  unfold Helper.places at places
  omega

/-- Nothing is configured once the helper is disconnected and no attempt is setting up. -/
theorem InOrder.nobody_of_idle (inOrder : world.InOrder dnsServer original)
    (down : world.helper.svc.state = .disconnected)
    (finished : ∀ value ∈ world.helper.attempts, value.phase.inSetup = false)
    (owner : AttemptId) : ¬ ConfiguredBy world.helper owner := by
  rintro ⟨created, unreleased⟩
  have places := inOrder.onePlace _ created
  obtain ⟨held, stored⟩ := inOrder.ledger.idle down finished ⟨owner, .dnsManager⟩
  unfold Helper.places at places
  rw [held, stored, List.count_eq_zero_of_not_mem unreleased] at places
  cases places

/-- In an orderly run, in which no access of a teardown fails either, a host with some content in
`/etc/resolv.conf` has it unchanged whenever the helper is idle, and behind the block of the
current tunnel while one is up. -/
theorem resolvConf_over_tunnels (host : Host) (content : host.resolvConf ≠ [])
    {events : List NetworkEvent} {world : NetworkWorld}
    (run : Runs (NetworkWorld.next dnsServer) (new host) events world)
    (orderly : Conforms (NetworkWorld.next dnsServer) (Orderly dnsServer) (new host) events) :
    (world.helper.svc.state = .disconnected →
      (∀ value ∈ world.helper.attempts, value.phase.inSetup = false) →
        world.host.resolvConf = host.resolvConf) ∧
    ∀ owner, world.helper.svc.dnsManager = some owner →
      ∃ suffix, world.host.resolvConf =
        managedBlock [dnsServer] [suffix] ++ host.resolvConf := by
  have inOrder : world.InOrder dnsServer host.resolvConf :=
    run.induct (fun _ world => world.InOrder dnsServer host.resolvConf) (inOrder_new host)
      (fun _ _ _ _ _ inOrder orderly taken => inOrder.next content orderly taken) orderly
  constructor
  · intro down finished
    exact inOrder.holds.file_of_nobody (inOrder.nobody_of_idle down finished)
  · intro owner stored
    have configured := inOrder.configuredBy_of_stored stored
    cases inOrder.holds with
    | plain nobody => exact absurd configured (nobody owner)
    | configured _ suffix _ file => exact ⟨suffix, file⟩

/-- The attempt sets its tunnel up, saves it and is told to stop. -/
def tunnelEvents (attempt : AttemptId) : List NetworkEvent :=
  (HelperEvent.start "https://dev.coder.com" :: setupEvents attempt ++
      [HelperEvent.advance attempt none, .shutdown]).map
    fun event => ⟨event, text "coder", .succeeds none, .succeeds none⟩

/-- A second tunnel after the first. -/
theorem resolvConf_over_tunnels_second :
    ∃ events world, Runs (NetworkWorld.next (text "fd60::1"))
      (new (hostWith (text "options rotate\n"))) events world ∧
      world.helper.svc.dnsManager = some 1 ∧
      ∃ suffix, world.host.resolvConf =
        managedBlock [text "fd60::1"] [suffix] ++ text "options rotate\n" := by
  have reached : (replay (NetworkWorld.next (text "fd60::1"))
      (new (hostWith (text "options rotate\n")))
      (tunnelEvents 0 ++ (tunnelEvents 1).take 11)).any
        (fun world => decide (world.helper.svc.dnsManager = some 1)) = true := by decide +kernel
  obtain ⟨world, run, observed⟩ := runs_of_replay _ reached
  have orderly : Conforms (NetworkWorld.next (text "fd60::1")) (Orderly (text "fd60::1"))
      (new (hostWith (text "options rotate\n"))) (tunnelEvents 0 ++ (tunnelEvents 1).take 11) := by
    decide +kernel
  have stored := of_decide_eq_true observed
  exact ⟨_, world, run, stored,
    (resolvConf_over_tunnels (hostWith (text "options rotate\n")) (by decide) run orderly).2 1
      stored⟩

/-- A teardown that cannot read the backup gives up: the helper is idle and the block stays. -/
example : (replay (NetworkWorld.next (text "fd60::1")) (new (hostWith (text "options rotate\n")))
    ((tunnelEvents 0).dropLast ++ [⟨.shutdown, text "coder", .succeeds none,
      { TeardownOutcome.succeeds none with read := some "input/output error" }⟩])).map
      (fun world => (decide (world.helper.svc.state = .disconnected),
        decide (world.host.resolvConf = text "options rotate\n"))) = some (true, false) := by
  decide +kernel

end NetworkWorld

end CoderDesktop.Vpn
