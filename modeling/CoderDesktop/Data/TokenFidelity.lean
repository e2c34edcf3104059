import CoderDesktop.Data.TokenRemoval

/-!
# Faithful retrieval

`Ledger` records, next to the storage, the token last stored successfully for each
URL and the place it went to. Retrieval does not know that place: it asks the
keyring first and takes whatever the file has otherwise.
-/

namespace CoderDesktop.Data

open Semantics Settings

/-- Where a token is. -/
inductive Place where
  | keyring
  | file
deriving DecidableEq, Repr

namespace SecureStorage

/-- Where a lookup gets its answer. -/
def answeringPlace (storage : SecureStorage) (deploymentUrl : String) (outcome : LookupOutcome) :
    Place :=
  if storage.backend = .libSecret ∧ outcome.libsecret = true ∧
      storage.keyringText deploymentUrl ≠ "" then .keyring
  else .file

/-- The place that answers tells the token. -/
theorem retrieveToken_eq (storage : SecureStorage) (deploymentUrl : String)
    (outcome : LookupOutcome) :
    storage.retrieveToken deploymentUrl outcome =
      if storage.answeringPlace deploymentUrl outcome = .keyring then
        storage.keyringText deploymentUrl
      else storage.fileRetrieve deploymentUrl outcome.readable := by
  unfold retrieveToken answeringPlace
  cases storage.backend with
  | encryptedFile => rfl
  | libSecret =>
      simp only [libsecretRetrieve_eq]
      cases outcome.libsecret with
      | false => rfl
      | true => by_cases found : storage.keyringText deploymentUrl = "" <;> simp [found]

/-- The file, as it can be read, has no text for the URL. -/
def fileSilent (storage : SecureStorage) (deploymentUrl : String) (readable : Bool) : Prop :=
  ((storage.loadFallbackFile readable deploymentUrl).getD .null).toText = ""

/-- A silent file gives no token. -/
theorem fileRetrieve_of_silent {storage : SecureStorage} {deploymentUrl : String}
    {readable : Bool} (silent : storage.fileSilent deploymentUrl readable) :
    storage.fileRetrieve deploymentUrl readable = "" :=
  if_pos silent

end SecureStorage

/-- What a retrieval returned, and the token it should have been. -/
structure Answer where
  text : String
  latest : Option String
deriving DecidableEq, Repr

/-- The storage, with what was stored last and what lookups answered. -/
structure Ledger where
  storage : SecureStorage
  /-- The token most recently passed to a successful `storeToken`. -/
  latest : String → Option String
  /-- The place that store wrote it to. -/
  home : String → Option Place
  answers : List Answer

namespace Ledger

/-- Nothing is stored. -/
def new (reachable : Bool) : Ledger := ⟨.empty reachable, fun _ => none, fun _ => none, []⟩

/-- An event, and what it changes of the history. -/
def step (ledger : Ledger) : StorageEvent → Ledger
  | .restart reachable => { ledger with storage := ledger.storage.restart reachable }
  | .store deploymentUrl token outcome =>
      let result := ledger.storage.storeToken deploymentUrl token outcome
      if result.2 then
        { ledger with
          storage := result.1
          latest := Function.update ledger.latest deploymentUrl (some token)
          home := Function.update ledger.home deploymentUrl
            (some (if ledger.storage.storesInKeyring outcome then .keyring else .file)) }
      else
        { ledger with storage := result.1 }
  | .retrieve deploymentUrl outcome =>
      { ledger with
        answers := ledger.answers ++
          [⟨ledger.storage.retrieveToken deploymentUrl outcome, ledger.latest deploymentUrl⟩] }
  | .remove deploymentUrl outcome =>
      { ledger with storage := (ledger.storage.removeToken deploymentUrl outcome).1 }

/-- Every event can come at any time. -/
def next (ledger : Ledger) (event : StorageEvent) : Option Ledger :=
  some (ledger.step event)

/-- Every answer was empty or the token most recently stored. -/
def Faithful (ledger : Ledger) : Prop :=
  ∀ answer ∈ ledger.answers, answer.text = "" ∨ answer.latest = some answer.text

/-- The answer comes from the place the last successful store wrote to, in a form
that can be read back, or from a file that says nothing of the URL. URLs in the
keyring have no NUL, where their C strings would end. -/
def AnsweredFromHome (ledger : Ledger) : StorageEvent → Prop
  | .restart _ | .remove _ _ => True
  | .store deploymentUrl _ outcome =>
      ledger.storage.storesInKeyring outcome = true → '\x00' ∉ deploymentUrl.toList
  | .retrieve deploymentUrl outcome =>
      match ledger.storage.answeringPlace deploymentUrl outcome with
      | .keyring => ledger.home deploymentUrl = some .keyring ∧
          ∀ token ∈ ledger.latest deploymentUrl, '\x00' ∉ token.toList ∧ ¬ hasMark token
      | .file => (ledger.home deploymentUrl = some .file ∧
          ∀ token ∈ ledger.latest deploymentUrl, ¬ hasMark token) ∨
        ledger.storage.fileSilent deploymentUrl outcome.readable

instance (ledger : Ledger) (event : StorageEvent) : Decidable (ledger.AnsweredFromHome event) := by
  unfold AnsweredFromHome SecureStorage.fileSilent
  split
  · infer_instance
  · infer_instance
  · infer_instance
  · split <;> infer_instance

/-! ## What the places keep -/

/-- The place of the last store still has its token, or has lost it. -/
structure Kept (ledger : Ledger) : Prop where
  stored : ∀ deploymentUrl place, ledger.home deploymentUrl = some place →
    ∃ token, ledger.latest deploymentUrl = some token
  noNul : ∀ deploymentUrl, ledger.home deploymentUrl = some .keyring →
    '\x00' ∉ deploymentUrl.toList
  keyring : ∀ deploymentUrl token, ledger.home deploymentUrl = some .keyring →
    ledger.latest deploymentUrl = some token →
      ∀ secret ∈ ledger.storage.keyring (cString deploymentUrl), secret = cString token
  file : ∀ deploymentUrl token, ledger.home deploymentUrl = some .file →
    ledger.latest deploymentUrl = some token →
      ∀ entry ∈ ledger.storage.fileEntry deploymentUrl, entry = .string (toBase64 token)

variable {ledger : Ledger}

/-- Nothing is stored yet. -/
theorem kept_new (reachable : Bool) : Kept (new reachable) := by
  refine ⟨?_, ?_, ?_, ?_⟩
  · intro _ _ home
    cases home
  · intro _ home
    cases home
  · intro _ _ home
    cases home
  · intro _ _ home
    cases home

/-- An operation that only loses entries keeps what the places keep. -/
theorem Kept.of_le (kept : ledger.Kept) {after : SecureStorage}
    (keyring : ∀ deploymentUrl, after.keyring (cString deploymentUrl) =
        ledger.storage.keyring (cString deploymentUrl) ∨
      after.keyring (cString deploymentUrl) = none)
    (file : ∀ deploymentUrl, after.fileEntry deploymentUrl =
        ledger.storage.fileEntry deploymentUrl ∨ after.fileEntry deploymentUrl = none) :
    Kept { ledger with storage := after } := by
  refine ⟨kept.stored, kept.noNul, fun deploymentUrl token home latest secret found => ?_,
    fun deploymentUrl token home latest entry found => ?_⟩
  · rcases keyring deploymentUrl with same | lost
    · exact kept.keyring deploymentUrl token home latest secret (same ▸ found)
    · rw [show _ = none from lost] at found
      cases found
  · rcases file deploymentUrl with same | lost
    · exact kept.file deploymentUrl token home latest entry (same ▸ found)
    · rw [show _ = none from lost] at found
      cases found

section Store

variable {deploymentUrl token : String} {outcome : ChangeOutcome}

/-- A failed store is not recorded. -/
theorem step_store_of_failed
    (failed : ¬ (ledger.storage.storeToken deploymentUrl token outcome).2 = true) :
    ledger.step (.store deploymentUrl token outcome) =
      { ledger with storage := (ledger.storage.storeToken deploymentUrl token outcome).1 } := by
  simp only [step, if_neg failed]

/-- A store that succeeds is recorded. -/
theorem step_store_of_stored
    (stored : (ledger.storage.storeToken deploymentUrl token outcome).2 = true) :
    ledger.step (.store deploymentUrl token outcome) =
      { ledger with
        storage := (ledger.storage.storeToken deploymentUrl token outcome).1
        latest := Function.update ledger.latest deploymentUrl (some token)
        home := Function.update ledger.home deploymentUrl
          (some (if ledger.storage.storesInKeyring outcome then .keyring else .file)) } := by
  simp only [step, if_pos stored]

/-- A store that reports failure has changed neither place. -/
theorem Kept.store_failed (kept : ledger.Kept)
    (failed : ¬ (ledger.storage.storeToken deploymentUrl token outcome).2 = true) :
    (ledger.step (.store deploymentUrl token outcome)).Kept := by
  rw [step_store_of_failed failed]
  obtain ⟨notInKeyring, notOpened⟩ :=
    not_or.mp fun either => failed ((SecureStorage.storeToken_iff _ _ _ _).mpr either)
  refine kept.of_le (fun other => .inl ?_) (fun other => .inl ?_)
  · rw [SecureStorage.keyring_storeToken, if_neg notInKeyring]
  · rw [SecureStorage.fileEntry_storeToken, if_pos (not_not.mp notOpened)]

/-- A store puts the token of its URL in one place and keeps the other URLs' homes. -/
theorem Kept.store_stored (kept : ledger.Kept)
    (plain : ledger.storage.storesInKeyring outcome = true → '\x00' ∉ deploymentUrl.toList)
    (stored : (ledger.storage.storeToken deploymentUrl token outcome).2 = true) :
    (ledger.step (.store deploymentUrl token outcome)).Kept := by
  rw [step_store_of_stored stored]
  refine ⟨fun other place home => ?_, fun other home => ?_,
    fun other latest home found secret there => ?_, fun other latest home found entry there => ?_⟩
  all_goals by_cases same : other = deploymentUrl
  · exact ⟨token, by simp only [same, Function.update_self]⟩
  · simp only [Function.update_of_ne same] at home ⊢
    exact kept.stored other place home
  · subst same
    refine plain ?_
    by_contra notInKeyring
    simp [notInKeyring] at home
  · simp only [Function.update_of_ne same] at home
    exact kept.noNul other home
  · subst same
    have inKeyring : ledger.storage.storesInKeyring outcome = true := by
      by_contra notInKeyring
      simp [notInKeyring] at home
    simp only [Function.update_self, Option.some.injEq] at found
    simp only [SecureStorage.keyring_storeToken, if_pos inKeyring, Function.update_self,
      Option.mem_some_iff] at there
    rw [← there, found]
  · simp only [Function.update_of_ne same] at home found
    refine kept.keyring other latest home found secret ?_
    rw [SecureStorage.keyring_storeToken] at there
    split at there
    · -- two URLs without NUL have different C strings
      rename_i inKeyring
      have apart : cString other ≠ cString deploymentUrl := by
        rw [cString_eq_self (kept.noNul other home), cString_eq_self (plain inKeyring)]
        exact same
      rwa [Function.update_of_ne apart] at there
    · exact there
  · subst same
    have notInKeyring : ¬ ledger.storage.storesInKeyring outcome = true := by
      intro inKeyring
      simp [inKeyring] at home
    simp only [Function.update_self, Option.some.injEq] at found
    subst found
    have opened := ((SecureStorage.storeToken_iff _ _ _ _).mp stored).resolve_left notInKeyring
    simp only [SecureStorage.fileEntry_storeToken, if_neg opened, Function.update_self,
      SecureStorage.storedEntry, if_neg notInKeyring] at there
    split at there
    · exact (Option.some.inj there).symm
    · cases there
  · simp only [Function.update_of_ne same] at home found
    refine kept.file other latest home found entry ?_
    rcases ledger.storage.fileEntry_storeToken_le same token outcome with kept | lost
    · rwa [← kept]
    · rw [lost] at there
      cases there

end Store

/-- What the places keep, over every step whose keyring URLs have no NUL. -/
theorem Kept.step (kept : ledger.Kept) {event : StorageEvent}
    (allowed : ledger.AnsweredFromHome event) : (ledger.step event).Kept := by
  cases event with
  | restart reachable => exact ⟨kept.stored, kept.noNul, kept.keyring, kept.file⟩
  | retrieve deploymentUrl outcome => exact ⟨kept.stored, kept.noNul, kept.keyring, kept.file⟩
  | remove deploymentUrl outcome =>
      exact kept.of_le
        (fun other => ledger.storage.keyring_removeToken_le deploymentUrl other outcome)
        (fun other => ledger.storage.fileEntry_removeToken_le deploymentUrl other outcome)
  | store deploymentUrl token outcome =>
      by_cases stored : (ledger.storage.storeToken deploymentUrl token outcome).2 = true
      · exact kept.store_stored allowed stored
      · exact kept.store_failed stored

/-! ## Answers -/

/-- An answer from home is the token, or nothing. -/
theorem Kept.answer (kept : ledger.Kept) {deploymentUrl : String} {outcome : LookupOutcome}
    (allowed : ledger.AnsweredFromHome (.retrieve deploymentUrl outcome)) :
    ledger.storage.retrieveToken deploymentUrl outcome = "" ∨
      ledger.latest deploymentUrl = some (ledger.storage.retrieveToken deploymentUrl outcome) := by
  rw [SecureStorage.retrieveToken_eq]
  simp only [AnsweredFromHome] at allowed
  cases place : ledger.storage.answeringPlace deploymentUrl outcome with
  | keyring =>
      rw [place] at allowed
      obtain ⟨home, plain⟩ := allowed
      obtain ⟨token, latest⟩ := kept.stored _ _ home
      obtain ⟨noNul, noMark⟩ := plain token latest
      rw [if_pos rfl, SecureStorage.keyringText_eq]
      cases secret : ledger.storage.keyring (cString deploymentUrl) with
      | none => exact .inl rfl
      | some text =>
          have same := kept.keyring _ _ home latest text secret
          refine .inr ?_
          rw [Option.map_some, Option.getD_some, same, cString_eq_self noNul,
            fromUtf8_toUtf8 noMark, latest]
  | file =>
      rw [place] at allowed
      rw [if_neg (by decide)]
      rcases allowed with ⟨home, noMark⟩ | silent
      · obtain ⟨token, latest⟩ := kept.stored _ _ home
        rw [SecureStorage.fileRetrieve_eq]
        split
        · cases entry : ledger.storage.fileEntry deploymentUrl with
          | none => exact .inl (SecureStorage.fileText_of_none entry)
          | some json =>
              have same := kept.file _ _ home latest json entry
              rw [SecureStorage.fileText_of_token (entry.trans (congrArg some same))
                (noMark token latest)]
              exact .inr latest
        · exact .inl rfl
      · exact .inl (SecureStorage.fileRetrieve_of_silent silent)

/-- Retrieval is faithful in every run whose answers come from home. -/
theorem faithful_of_answeredFromHome (reachable : Bool) (events : List StorageEvent)
    (fromHome : Conforms next AnsweredFromHome (new reachable) events) :
    ∀ ledger, Visits next (new reachable) events ledger → ledger.Faithful := by
  rintro ledger ⟨before, after, rfl, run⟩
  refine (run.induct (fun _ state => state.Kept ∧ state.Faithful)
    ⟨kept_new reachable, fun _ => List.not_mem_nil.elim⟩ ?_ fromHome.ofAppend).2
  rintro - state event next - ⟨kept, faithful⟩ allowed taken
  obtain rfl := Option.some.inj taken
  refine ⟨kept.step allowed, ?_⟩
  cases event with
  | restart reachable => exact faithful
  | remove deploymentUrl outcome => exact faithful
  | store deploymentUrl token outcome =>
      have answers : (state.step (.store deploymentUrl token outcome)).answers = state.answers := by
        simp only [step]
        split <;> rfl
      rw [Faithful, answers]
      exact faithful
  | retrieve deploymentUrl outcome =>
      intro answer member
      rcases List.mem_append.mp member with old | new
      · exact faithful answer old
      · obtain rfl := List.mem_singleton.mp new
        exact kept.answer allowed

/-- A token stored in the keyring, replaced by one in the file while the keyring is
away, is what a lookup finds when the keyring is back. -/
theorem older_token_comes_back :
    ¬ ∀ ledger, Visits next (new true)
        [.store "https://dev.coder.com" "t1" ⟨true, true, .written⟩, .restart false,
          .store "https://dev.coder.com" "t2" ⟨true, true, .written⟩, .restart true,
          .retrieve "https://dev.coder.com" ⟨true, true⟩] ledger → ledger.Faithful := by
  refine not_visits_of_replay (fun ledger => ledger.answers = [⟨"t1", some "t2"⟩]) (by decide) ?_
  intro ledger reached faithful
  have answers := of_decide_eq_true reached
  have wrong := faithful ⟨"t1", some "t2"⟩ (by simp [answers])
  exact absurd wrong (by decide)

/-- Tokens replaced in the keyring and then in the file. -/
theorem faithful_of_answeredFromHome_replaced : ∃ ledger, Runs next (new true)
    [.store "https://dev.coder.com" "t1" ⟨true, true, .written⟩,
      .store "https://dev.coder.com" "t2" ⟨true, true, .written⟩,
      .retrieve "https://dev.coder.com" ⟨true, true⟩,
      .remove "https://dev.coder.com" ⟨true, true, .written⟩, .restart false,
      .store "https://dev.coder.com" "t3" ⟨true, true, .written⟩,
      .retrieve "https://dev.coder.com" ⟨true, true⟩] ledger ∧
    ledger.answers = [⟨"t2", some "t2"⟩, ⟨"t3", some "t3"⟩] ∧ ledger.Faithful := by
  refine (runs_of_replay (fun ledger => ledger.answers = [⟨"t2", some "t2"⟩, ⟨"t3", some "t3"⟩])
    (by decide)).imp fun ledger ⟨run, answers⟩ => ⟨run, of_decide_eq_true answers, ?_⟩
  exact faithful_of_answeredFromHome true _ (by decide) ledger run.visits

end Ledger

end CoderDesktop.Data
