import CoderDesktop.Dns.DirectFile

/-!
# A configuration that fails

When `Configure` returns an error, `startTunnel` closes the TUN device and does not call
`Teardown`, as it does when a later step fails. This undoes what was kept of the
interface. It does not undo a write of `/etc/resolv.conf` that failed on the way.
-/

namespace CoderDesktop.Dns

/-- The interface the helper makes. -/
def tunName : String := "coder0"

/-- The DNS step of `startTunnel`, and which tools there are: the host afterwards and the
error that is set. -/
def configureStep (resolvconf resolvectl : Bool) (nameservers searchDomains : List Text)
    (outcome : ConfigureOutcome) (host : Host) : Host × Option String :=
  let dnsMgr := Manager.new tunName resolvconf resolvectl
  let result := dnsMgr.configure nameservers searchDomains outcome host
  match result.error with
  | some error => (result.host.closeTun tunName, some ("configure DNS: " ++ error))
  | none => (result.host, none)

/-- DNS is as it was: the file, the records, and what is kept of interfaces that exist. -/
structure Restored (before after : Host) : Prop where
  resolvConf : after.files resolvConfPath = before.files resolvConfPath
  records : after.records = before.records
  links : ∀ ifName, (after.links ifName).isSome = true → after.links ifName = before.links ifName

/-- A configuration that fails leaves DNS as it was. -/
def FailsCleanly (resolvconf resolvectl : Bool) (nameservers searchDomains : List Text)
    (outcome : ConfigureOutcome) (host : Host) : Prop :=
  (configureStep resolvconf resolvectl nameservers searchDomains outcome host).2.isSome = true →
    Restored host (configureStep resolvconf resolvectl nameservers searchDomains outcome host).1

/-- `configureDirectFile` gets as far as writing `/etc/resolv.conf`. -/
def Writes (outcome : ConfigureOutcome) (host : Host) : Prop :=
  outcome.read = none ∧ (host.resolvConf ≠ [] → outcome.backup = none)

/-- A write of `/etc/resolv.conf` that fails has not truncated the file, or what it has
written is what was there. -/
def TearsNothing (nameservers searchDomains : List Text) (outcome : ConfigureOutcome)
    (host : Host) : Prop :=
  Writes outcome host → ∀ count error, outcome.write = some (.torn count error) →
    host.files resolvConfPath =
      some ((managedBlock nameservers searchDomains ++ host.resolvConf).take count)

/-! ## The effects before the failure -/

/-- What happens to the interface of the tunnel goes with it. -/
theorem restored_closeTun {before after : Host}
    (resolvConf : after.files resolvConfPath = before.files resolvConfPath)
    (records : after.records = before.records)
    (links : ∀ ifName, ifName ≠ tunName → after.links ifName = before.links ifName) :
    Restored before (after.closeTun tunName) := by
  refine ⟨resolvConf, records, fun ifName exist => ?_⟩
  by_cases isTun : ifName = tunName
  · simp [Host.closeTun, isTun] at exist
  · simp only [Host.closeTun, Function.update_of_ne isTun]
    exact links ifName isTun

section

variable (m : Manager) (nameservers searchDomains : List Text) (outcome : ConfigureOutcome)
  (host : Host)

/-- Writing a file leaves records and interfaces alone. -/
theorem records_writeFile (path : String) (content : Text) (fault : Option WriteFault) :
    (host.writeFile path content fault).records = host.records ∧
      (host.writeFile path content fault).links = host.links := by
  rcases fault with _ | ⟨_⟩ | ⟨_⟩ <;> exact ⟨rfl, rfl⟩

/-- The direct file touches neither records nor links. -/
theorem records_backUp (existing : Text) :
    (m.backUp nameservers searchDomains existing outcome host).host.records = host.records ∧
      (m.backUp nameservers searchDomains existing outcome host).host.links = host.links := by
  have backed := records_writeFile host resolvConfBackup existing outcome.backup
  unfold Manager.backUp
  split
  · dsimp only
    split
    · exact backed
    · have written := records_writeFile
        (host.writeFile resolvConfBackup existing outcome.backup) resolvConfPath
        (managedBlock nameservers searchDomains ++ existing) outcome.write
      exact ⟨written.1.trans backed.1, written.2.trans backed.2⟩
  · exact records_writeFile host _ _ _

/-- Configuring the direct file touches neither records nor links. -/
theorem records_configureDirectFile :
    (m.configureDirectFile nameservers searchDomains outcome host).host.records = host.records ∧
      (m.configureDirectFile nameservers searchDomains outcome host).host.links = host.links := by
  rw [configureDirectFile_eq]
  split
  · exact ⟨rfl, rfl⟩
  · exact records_backUp _ _ _ _ _ _

/-- Only a torn write changes the file and fails. -/
theorem writeManagedBlock_failed_iff (existing : Text) (write : Option WriteFault)
    (content : Option Text) (same : host.files resolvConfPath = content) :
    ((m.writeManagedBlock nameservers searchDomains existing write host).error.isSome = true →
        (m.writeManagedBlock nameservers searchDomains existing write host).host.files
          resolvConfPath = content) ↔
      ∀ count error, write = some (.torn count error) →
        content = some ((managedBlock nameservers searchDomains ++ existing).take count) := by
  cases write with
  | none => simp [Manager.writeManagedBlock]
  | some fault =>
      cases fault with
      | notOpened error => simp [Manager.writeManagedBlock, Host.writeFile, same]
      | torn count error =>
          simp [Manager.writeManagedBlock, Host.writeFile, Host.setFile, eq_comm]

/-- The file is left alone by a failure exactly if nothing of it is torn. -/
theorem configureDirectFile_failed_iff :
    ((m.configureDirectFile nameservers searchDomains outcome host).error.isSome = true →
        (m.configureDirectFile nameservers searchDomains outcome host).host.files
          resolvConfPath = host.files resolvConfPath) ↔
      TearsNothing nameservers searchDomains outcome host := by
  rw [configureDirectFile_eq]
  unfold TearsNothing Writes
  cases outcome.read with
  | some error =>
      refine iff_of_true (fun _ => rfl) (fun writes => ?_)
      exact absurd writes.1 (Option.some_ne_none error)
  | none =>
      simp only [true_and]
      unfold Manager.backUp
      split
      · rename_i content
        have backed : (host.writeFile resolvConfBackup host.resolvConf outcome.backup).files
            resolvConfPath = host.files resolvConfPath := by
          have other := backup_ne_resolvConf.symm
          rcases outcome.backup with _ | ⟨_⟩ | ⟨_⟩
          · simp [Host.writeFile, Host.setFile, Function.update_of_ne other]
          · rfl
          · simp [Host.writeFile, Host.setFile, Function.update_of_ne other]
        cases faulty : outcome.backup with
        | some fault =>
            rw [faulty] at backed
            refine iff_of_true (fun _ => backed) (fun writes => ?_)
            exact absurd (writes content) (Option.some_ne_none fault)
        | none =>
            rw [faulty] at backed
            simp only [implies_true, true_implies]
            exact writeManagedBlock_failed_iff _ _ _ _ _ _ _ backed
      · rename_i content
        rw [not_not.mp content]
        simp only [ne_eq, not_true_eq_false, false_implies, true_implies]
        exact writeManagedBlock_failed_iff _ _ _ _ _ _ _ rfl

/-- `resolvectl` changes what is kept of the one interface. -/
theorem links_configureResolvectl (dns domain : Option CommandFault) {ifName : String}
    (other : ifName ≠ m.ifName) :
    (m.configureResolvectl nameservers searchDomains dns domain host).host.links ifName =
      host.links ifName := by
  cases dns with
  | some fault => rfl
  | none => cases domain <;>
      simp [Manager.configureResolvectl, Manager.resolvectl, Function.update_of_ne other]

/-- `resolvectl` touches neither files nor records. -/
theorem files_configureResolvectl (dns domain : Option CommandFault) :
    (m.configureResolvectl nameservers searchDomains dns domain host).host.files = host.files ∧
      (m.configureResolvectl nameservers searchDomains dns domain host).host.records =
        host.records := by
  cases dns with
  | some fault => exact ⟨rfl, rfl⟩
  | none => cases domain <;> exact ⟨rfl, rfl⟩

end

/-! ## The step -/

section

variable (resolvconf resolvectl : Bool) (nameservers searchDomains : List Text)
  (outcome : ConfigureOutcome) (host : Host)

/-- The step fails when `Configure` does, and closes the device. -/
theorem failsCleanly_iff_configure :
    FailsCleanly resolvconf resolvectl nameservers searchDomains outcome host ↔
      let result := (Manager.new tunName resolvconf resolvectl).configure nameservers searchDomains
        outcome host
      result.error.isSome = true → Restored host (result.host.closeTun tunName) := by
  simp only [FailsCleanly, configureStep]
  cases ((Manager.new tunName resolvconf resolvectl).configure nameservers searchDomains outcome
    host).error with
  | none => simp
  | some error => simp

/-- `resolvconf` fails cleanly. -/
theorem failsCleanly_resolvconf :
    FailsCleanly true resolvectl nameservers searchDomains outcome host := by
  rw [failsCleanly_iff_configure]
  intro result failed
  have configured : result = (Manager.new tunName true resolvectl).configureResolvconf
    nameservers searchDomains outcome.resolvconf host := rfl
  unfold Manager.configureResolvconf at configured
  split at configured
  · rw [configured]
    exact restored_closeTun rfl rfl fun _ _ => rfl
  · rw [configured] at failed
    cases failed

/-- `resolvectl` fails cleanly, since the interface goes. -/
theorem failsCleanly_resolvectl :
    FailsCleanly false true nameservers searchDomains outcome host := by
  rw [failsCleanly_iff_configure]
  intro result _
  have kept := files_configureResolvectl (.new tunName false true) nameservers searchDomains host
    outcome.dns outcome.domain
  refine restored_closeTun (congrFun kept.1 _) kept.2 fun ifName other => ?_
  exact links_configureResolvectl (.new tunName false true) _ _ _ _ _ other

/-- The direct file fails cleanly exactly when no write is torn. -/
theorem failsCleanly_directFile_iff :
    FailsCleanly false false nameservers searchDomains outcome host ↔
      TearsNothing nameservers searchDomains outcome host := by
  rw [failsCleanly_iff_configure, ← configureDirectFile_failed_iff (.new tunName false false)]
  have kept := records_configureDirectFile (.new tunName false false) nameservers searchDomains
    outcome host
  refine forall_congr' fun _ => ⟨fun restored => restored.resolvConf, fun same => ?_⟩
  exact restored_closeTun same kept.1 fun ifName _ => congrFun kept.2 ifName

/-- A failed configuration leaves DNS as it was exactly if no write of `/etc/resolv.conf` is
torn, which only happens without resolvconf and resolvectl. -/
theorem failsCleanly_iff :
    FailsCleanly resolvconf resolvectl nameservers searchDomains outcome host ↔
      (resolvconf = false → resolvectl = false →
        TearsNothing nameservers searchDomains outcome host) := by
  cases resolvconf with
  | true =>
      have cleanly := failsCleanly_resolvconf resolvectl nameservers searchDomains outcome host
      exact iff_of_true cleanly fun found => nomatch found
  | false =>
      cases resolvectl with
      | true =>
          have cleanly := failsCleanly_resolvectl nameservers searchDomains outcome host
          exact iff_of_true cleanly fun _ found => nomatch found
      | false => simpa using failsCleanly_directFile_iff nameservers searchDomains outcome host

end

/-- The disk is full once `/etc/resolv.conf` has been truncated. -/
theorem not_failsCleanly :
    ¬ (∀ resolvconf resolvectl nameservers searchDomains outcome host,
      FailsCleanly resolvconf resolvectl nameservers searchDomains outcome host) := by
  intro always
  have torn := always false false [] []
    { ConfigureOutcome.succeeds none with write := some (.torn 0 "no space left on device") }
    ⟨fun _ => some (text "options rotate"), fun _ => none, fun _ => none⟩
  rw [failsCleanly_directFile_iff] at torn
  have same := torn ⟨rfl, fun _ => rfl⟩ 0 _ rfl
  revert same
  decide

end CoderDesktop.Dns
