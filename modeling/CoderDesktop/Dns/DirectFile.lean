import CoderDesktop.Dns.ManagedBlock

/-!
# The direct-file backend

What `Configure` puts into `/etc/resolv.conf`, what `Teardown` makes of it, and what
becomes of edits in between. With a backup the file is set back to it, whatever it has
become; without one the block is cut out. A helper that dies loses the one thing that
tells the two cases apart, and the next one takes the block for original content.
-/

namespace CoderDesktop.Dns

open Collections

/-- A manager that was just made for the direct-file backend. -/
def directManager (ifName : String) : Manager := .new ifName false false

/-- `Configure` of a new manager, without failures. -/
def configured (ifName : String) (nameservers searchDomains : List Text) (host : Host) : Result :=
  (directManager ifName).configure nameservers searchDomains (.succeeds none) host

/-- `Teardown` of the manager, without failures, on the host as it is then. -/
def tornDown (m : Manager) (host : Host) : Host := (m.teardown (.succeeds none) host).host

/-- Each of the helpers dies after it has configured DNS. -/
def afterDeaths (ifName : String) (host : Host) (died : List (List Text × List Text)) : Host :=
  died.foldl (fun host config => (configured ifName config.1 config.2 host).host) host

/-! ## One configuration -/

section Configuration

variable (ifName : String) (nameservers searchDomains : List Text) (host : Host)

/-- Another file does not matter to the resolver. -/
theorem resolvConf_setFile_of_ne {path : String} (other : path ≠ resolvConfPath)
    (content : Option Text) : (host.setFile path content).resolvConf = host.resolvConf := by
  simp [Host.resolvConf, Host.setFile, Function.update_of_ne other.symm]

/-- The backup is another file. -/
theorem backup_ne_resolvConf : resolvConfBackup ≠ resolvConfPath := by decide

/-- What fails first is reading the file; a missing one counts as empty. -/
theorem configureDirectFile_eq (m : Manager) (outcome : ConfigureOutcome) :
    m.configureDirectFile nameservers searchDomains outcome host =
      match outcome.read with
      | some error => ⟨m, host, some ("read " ++ resolvConfPath ++ ": " ++ error)⟩
      | none => m.backUp nameservers searchDomains host.resolvConf outcome host := by
  unfold Manager.configureDirectFile Host.readFile Host.resolvConf
  cases outcome.read with
  | some error => rfl
  | none => cases host.files resolvConfPath <;> rfl

/-- A configuration is backing up the content and writing the block. -/
theorem configured_eq :
    configured ifName nameservers searchDomains host =
      (directManager ifName).backUp nameservers searchDomains host.resolvConf (.succeeds none)
        host :=
  configureDirectFile_eq nameservers searchDomains host (directManager ifName) (.succeeds none)

/-- The block is put before the content. -/
theorem resolvConf_configured :
    (configured ifName nameservers searchDomains host).host.resolvConf =
      managedBlock nameservers searchDomains ++ host.resolvConf := by
  rw [configured_eq]
  unfold Manager.backUp
  split <;> exact resolvConf_setFile _ _

/-- Content that was there is backed up, and the manager knows. -/
theorem configured_of_ne_nil (content : host.resolvConf ≠ []) :
    (configured ifName nameservers searchDomains host).manager.backupPath = resolvConfBackup ∧
      (configured ifName nameservers searchDomains host).host.files resolvConfBackup =
        some host.resolvConf := by
  rw [configured_eq, Manager.backUp, if_pos content]
  refine ⟨rfl, ?_⟩
  simp [Manager.writeManagedBlock, ConfigureOutcome.succeeds, Host.writeFile, Host.setFile,
    Function.update_of_ne backup_ne_resolvConf]

/-- An empty file is not backed up. -/
theorem configured_of_nil (empty : host.resolvConf = []) :
    (configured ifName nameservers searchDomains host).manager.backupPath = "" := by
  rw [configured_eq, Manager.backUp, if_neg (not_not.mpr empty)]
  rfl

/-- The backend stays as it was chosen. -/
theorem backend_configured :
    (configured ifName nameservers searchDomains host).manager.backend = .directFile := by
  rw [configured_eq]
  unfold Manager.backUp
  split <;> rfl

end Configuration

/-- With a backup the file is set back to it. -/
theorem resolvConf_tornDown_of_backup {m : Manager} {host : Host} {backup : Text}
    (direct : m.backend = .directFile) (known : m.backupPath = resolvConfBackup)
    (found : host.files resolvConfBackup = some backup) :
    (tornDown m host).resolvConf = backup := by
  have set : resolvConfBackup ≠ "" := by decide
  have restored : tornDown m host =
      (host.setFile resolvConfPath (some backup)).setFile resolvConfBackup none := by
    simp [tornDown, Manager.teardown, direct, Manager.teardownDirectFile, set, Host.readFile,
      TeardownOutcome.succeeds, known, found, Host.writeFile]
  rw [restored, resolvConf_setFile_of_ne _ backup_ne_resolvConf, resolvConf_setFile]
  rfl

/-- Without one the block is cut out of the file as it is. -/
theorem resolvConf_tornDown_of_none {m : Manager} {host : Host}
    (direct : m.backend = .directFile) (unknown : m.backupPath = "") :
    (tornDown m host).resolvConf = afterRemoval host.resolvConf := by
  simp only [tornDown, Manager.teardown, direct, Manager.teardownDirectFile, if_pos unknown]
  exact removeManagedBlock_resolvConf m none host

/-! ## Configuring and tearing down -/

/-- The content after `Configure` and `Teardown` of one manager, which starts with what the
helpers before it left. -/
def roundTrip (ifName : String) (host : Host) (died : List (List Text × List Text))
    (nameservers searchDomains : List Text) : Text :=
  let result := configured ifName nameservers searchDomains (afterDeaths ifName host died)
  (tornDown result.manager result.host).resolvConf

/-- A file that is not empty comes back as it was before the last configuration. -/
theorem roundTrip_of_ne_nil {ifName : String} {host : Host} {died : List (List Text × List Text)}
    (content : (afterDeaths ifName host died).resolvConf ≠ [])
    (nameservers searchDomains : List Text) :
    roundTrip ifName host died nameservers searchDomains =
      (afterDeaths ifName host died).resolvConf := by
  obtain ⟨known, found⟩ := configured_of_ne_nil ifName nameservers searchDomains _ content
  exact resolvConf_tornDown_of_backup (backend_configured _ _ _ _) known found

/-- Each helper that dies leaves a block behind. -/
theorem length_afterDeaths (ifName : String) (host : Host) (died : List (List Text × List Text)) :
    host.resolvConf.length + died.length ≤ (afterDeaths ifName host died).resolvConf.length := by
  induction died generalizing host with
  | nil => exact Nat.le_refl _
  | cons config rest inductionHypothesis =>
      have later := inductionHypothesis (configured ifName config.1 config.2 host).host
      have positive := @length_managedBlock_pos config.1 config.2
      rw [resolvConf_configured, List.length_append] at later
      rw [List.length_cons, afterDeaths, List.foldl_cons]
      unfold afterDeaths at later
      omega

/-- The block of a helper that died stays. -/
theorem roundTrip_ne_of_died (ifName : String) (host : Host) {died : List (List Text × List Text)}
    (some : died ≠ []) (nameservers searchDomains : List Text) :
    roundTrip ifName host died nameservers searchDomains ≠ host.resolvConf := by
  have grown := length_afterDeaths ifName host died
  have positive := List.length_pos_iff.mpr some
  intro same
  have content : (afterDeaths ifName host died).resolvConf ≠ [] := by
    intro empty
    rw [empty, List.length_nil] at grown
    omega
  rw [roundTrip_of_ne_nil content] at same
  rw [same] at grown
  omega

/-- `Configure` and `Teardown` together leave the content alone exactly if no helper died in
between and, where the file was empty, the lines of the block contain no footer. -/
theorem roundTrip_iff (ifName : String) (host : Host) (died : List (List Text × List Text))
    (nameservers searchDomains : List Text) :
    roundTrip ifName host died nameservers searchDomains = host.resolvConf ↔
      died = [] ∧ (host.resolvConf = [] →
        ¬ managedBlockFooter <:+: directives nameservers searchDomains) := by
  cases died with
  | cons config rest =>
      refine iff_of_false ?_ (fun none => nomatch none.1)
      exact roundTrip_ne_of_died ifName host (List.cons_ne_nil _ _) nameservers searchDomains
  | nil =>
      by_cases content : host.resolvConf = []
      · have removed : roundTrip ifName host [] nameservers searchDomains =
            afterRemoval ([] ++ (managedBlock nameservers searchDomains ++ [])) := by
          rw [List.nil_append, ← content, ← resolvConf_configured ifName]
          exact resolvConf_tornDown_of_none (backend_configured _ _ _ _)
            (configured_of_nil _ _ _ _ content)
        have cut := @afterRemoval_insert_iff nameservers searchDomains [] []
        rw [removed, content]
        refine cut.trans ⟨fun both => ⟨rfl, fun _ => both.1⟩, fun both => ⟨both.2 rfl, ?_⟩⟩
        exact ⟨[], 0, ⟨by decide, by decide⟩, rfl⟩
      · rw [roundTrip_of_ne_nil (show (afterDeaths ifName host []).resolvConf ≠ [] from content)]
        exact iff_of_true rfl ⟨rfl, fun empty => absurd empty content⟩

/-- One helper dies, and the next one takes its block for original content. -/
theorem not_roundTrip :
    ¬ (∀ ifName host died nameservers searchDomains, Unmarked host.resolvConf →
      (∀ config ∈ (nameservers, searchDomains) :: died, ∀ word ∈ config.1 ++ config.2,
        Unmarked word ∧ newline ∉ word) →
      roundTrip ifName host died nameservers searchDomains = host.resolvConf) := by
  intro always
  refine roundTrip_ne_of_died "coder0" ⟨fun _ => none, fun _ => none, fun _ => none⟩
    (List.cons_ne_nil _ []) [text "fd60::1"] [text "coder"]
    (always _ _ [([text "fd60::1"], [text "coder"])] _ _ ⟨by decide, by decide⟩ ?_)
  rintro config inList word inConfig
  have same : config = ([text "fd60::1"], [text "coder"]) := by simpa using inList
  subst same
  have oneOf : word = text "fd60::1" ∨ word = text "coder" := by simpa using inConfig
  rcases oneOf with rfl | rfl
  · exact ⟨⟨by decide, by decide⟩, by decide⟩
  · exact ⟨⟨by decide, by decide⟩, by decide⟩

/-! ## Edits in between -/

/-- The content after `Teardown` when another program has changed what stands before and
after the block. -/
def afterEdit (ifName : String) (host : Host) (nameservers searchDomains : List Text)
    (before after : Text) : Text :=
  let result := configured ifName nameservers searchDomains host
  let edited := result.host.setFile resolvConfPath
    (some (before ++ (managedBlock nameservers searchDomains ++ after)))
  (tornDown result.manager edited).resolvConf

/-- With content at the time of `Configure`, the edits come to nothing. Without, the lines
of the block contain no footer, and before it stands unmarked text, but for copies of the
block. -/
def EditSurvives (original : Text) (nameservers searchDomains : List Text)
    (before after : Text) : Prop :=
  if original ≠ [] then before ++ after = original
  else (¬ managedBlockFooter <:+: directives nameservers searchDomains) ∧
    ∃ front count, Unmarked front ∧
      before = front ++ (List.replicate count (managedBlock nameservers searchDomains)).flatten

/-- With content at the time of `Configure`, this is what is there afterwards. -/
theorem afterEdit_of_ne_nil (ifName : String) {host : Host} (content : host.resolvConf ≠ [])
    (nameservers searchDomains : List Text) (before after : Text) :
    afterEdit ifName host nameservers searchDomains before after = host.resolvConf := by
  obtain ⟨known, found⟩ := configured_of_ne_nil ifName nameservers searchDomains host content
  have kept := (Function.update_of_ne backup_ne_resolvConf
    (some (before ++ (managedBlock nameservers searchDomains ++ after))) _).trans found
  exact resolvConf_tornDown_of_backup (backend_configured ifName _ _ host) known kept

/-- `Teardown` leaves what stands around the block exactly if `EditSurvives`. -/
theorem afterEdit_iff (ifName : String) (host : Host) (nameservers searchDomains : List Text)
    (before after : Text) :
    afterEdit ifName host nameservers searchDomains before after = before ++ after ↔
      EditSurvives host.resolvConf nameservers searchDomains before after := by
  unfold EditSurvives
  split
  · rename_i content
    rw [afterEdit_of_ne_nil ifName content]
    exact eq_comm
  · rename_i content
    have unknown := configured_of_nil ifName nameservers searchDomains host (not_not.mp content)
    have removed : afterEdit ifName host nameservers searchDomains before after =
        afterRemoval (before ++ (managedBlock nameservers searchDomains ++ after)) :=
      (resolvConf_tornDown_of_none (backend_configured ifName _ _ host) unknown).trans
        (congrArg afterRemoval (resolvConf_setFile _ _))
    rw [removed, afterRemoval_insert_iff]

/-- A line that is added after the block is lost when there was content before. -/
theorem not_afterEdit :
    ¬ (∀ ifName host nameservers searchDomains before after,
      afterEdit ifName host nameservers searchDomains before after = before ++ after) := by
  intro always
  have same := always "coder0"
    ⟨fun _ => some (text "options rotate"), fun _ => none, fun _ => none⟩ [] [] []
    (text "options rotate" ++ newline :: text "options edns0")
  rw [afterEdit_of_ne_nil _ (by decide)] at same
  revert same
  decide

end CoderDesktop.Dns
