import CoderDesktop.Data.CredentialFlow

/-!
# The session after a restart

The application is closed and started again while every access to keyring and file works. The
deployments come from the settings, the token of the active one from the storage, and the API
client is set up from both. `token` is the ledger: what the last completed login to a URL
stored, unless it was removed since.
-/

namespace CoderDesktop.Data

open Semantics Settings Api

/-- Every access works. -/
def ChangeOutcome.success : ChangeOutcome := ⟨true, true, .written⟩

/-- The store, with the token each URL was signed in with. -/
structure SessionLedger where
  store : DeploymentStore
  /-- The token of each URL that is signed in to. -/
  token : String → Option String

/-- What an event does to the ledger. -/
def SessionEvent.records (session : SessionManager) (token : String → Option String) :
    SessionEvent → (String → Option String)
  | .login _ _ | .switchDeployment _ _ | .loginFinished _ (.error _) _ _ => token
  | .loginFinished index (.ok _) _ _ =>
      match session.logins[index]? with
      | some entered => Function.update token entered.url (some entered.token)
      | none => token
  | .logout _ =>
      if session.activeDeployment.url ≠ "" then
        Function.update token session.activeDeployment.url none
      else token
  | .removeDeployment url _ => Function.update token url none

/-- A URL and a token the storage keeps as they are, and a token at all. -/
structure Login.Usable (login : Login) : Prop where
  plain : login.Plain
  token : login.token ≠ ""

instance (login : Login) : Decidable login.Usable :=
  decidable_of_iff (login.Plain ∧ login.token ≠ "")
    ⟨fun ⟨plain, token⟩ => ⟨plain, token⟩, fun usable => ⟨usable.plain, usable.token⟩⟩

/-- All accesses work, and what is entered can be kept. -/
def StoreEvent.Works : StoreEvent → Prop
  | .operation (.login url token) => (⟨url, token⟩ : Login).Usable
  | .operation (.loginFinished _ _ storing _) => storing = .success
  | .operation (.logout removing) => removing = .success
  | .operation (.switchDeployment _ lookup) => lookup = working
  | .operation (.removeDeployment url removing) => '\x00' ∉ url.toList ∧ removing = .success
  | .restart lookup => lookup = working

instance : (event : StoreEvent) → Decidable event.Works
  | .operation (.login url token) => inferInstanceAs (Decidable (Login.Usable ⟨url, token⟩))
  | .operation (.loginFinished _ _ storing _) => inferInstanceAs (Decidable (storing = .success))
  | .operation (.logout removing) => inferInstanceAs (Decidable (removing = .success))
  | .operation (.switchDeployment _ lookup) => inferInstanceAs (Decidable (lookup = working))
  | .operation (.removeDeployment url removing) =>
      inferInstanceAs (Decidable ('\x00' ∉ url.toList ∧ removing = .success))
  | .restart lookup => inferInstanceAs (Decidable (lookup = working))

/-! ## The storage and the ledger -/

/-- The storage holds exactly what the ledger says, in the place its backend uses. -/
structure Mirrors (token : String → Option String) (storage : SecureStorage) : Prop where
  usable : ∀ url, ∀ secret ∈ token url, Login.Usable ⟨url, secret⟩
  keyring : storage.backend = .libSecret →
    ∀ url, '\x00' ∉ url.toList → storage.keyring url = token url
  file : ∀ url, storage.fileEntry url = (token url).map fun secret =>
    if storage.backend = .libSecret then SecureStorage.marker else .string (toBase64 secret)

namespace SecureStorage

variable (storage : SecureStorage) (deploymentUrl : String)

@[simp] theorem backend_storeToken (token : String) (outcome : ChangeOutcome) :
    (storage.storeToken deploymentUrl token outcome).1.backend = storage.backend := by
  unfold storeToken
  cases backend : storage.backend with
  | libSecret => cases outcome.libsecret <;> simp [libsecretStore, fileStore, backend]
  | encryptedFile => simp [fileStore, backend]

@[simp] theorem backend_removeToken (outcome : ChangeOutcome) :
    (storage.removeToken deploymentUrl outcome).1.backend = storage.backend := by
  unfold removeToken
  cases backend : storage.backend with
  | libSecret => cases outcome.libsecret <;> simp [libsecretRemove, backend]
  | encryptedFile =>
      simp only [fileRemove]
      split
      · exact backend
      · simp [backend]

/-- Without failures the keyring is used exactly by its backend. -/
theorem storesInKeyring_success :
    storage.storesInKeyring .success = true ↔ storage.backend = .libSecret := by
  simp [storesInKeyring, ChangeOutcome.success]

end SecureStorage

namespace Mirrors

variable {token : String → Option String} {storage : SecureStorage}

/-- An empty storage holds no token. -/
theorem empty (reachable : Bool) : Mirrors (fun _ => none) (.empty reachable) where
  usable _ _ none := nomatch none
  keyring _ _ _ := rfl
  file _ := rfl

/-- A usable login's token is stored. -/
theorem store (mirrors : Mirrors token storage) {login : Login} (usable : login.Usable) :
    Mirrors (Function.update token login.url (some login.token))
      (storage.storeToken login.url login.token .success).1 where
  usable url secret found := by
    rw [Function.update_apply] at found
    split at found
    · rename_i same
      obtain rfl := Option.some.inj found
      rw [same]
      exact usable
    · exact mirrors.usable url secret found
  keyring backend url noNul := by
    rw [SecureStorage.backend_storeToken] at backend
    rw [SecureStorage.keyring_storeToken,
      if_pos ((storage.storesInKeyring_success).mpr backend), cString_eq_self usable.plain.url,
      cString_eq_self usable.plain.token, Function.update_apply, Function.update_apply,
      mirrors.keyring backend url noNul]
  file url := by
    have opened : ¬ ChangeOutcome.success.write = .notOpened := by decide
    have written : ChangeOutcome.success.write = .written := rfl
    rw [SecureStorage.fileEntry_storeToken, SecureStorage.backend_storeToken, if_neg opened,
      if_pos written, Function.update_apply, Function.update_apply]
    split
    · simp only [SecureStorage.storedEntry, SecureStorage.storesInKeyring_success,
        Option.map_some]
    · exact mirrors.file url

/-- A removed token is gone. -/
theorem remove (mirrors : Mirrors token storage) {url : String} (noNul : '\x00' ∉ url.toList) :
    Mirrors (Function.update token url none) (storage.removeToken url .success).1 where
  usable other secret found := by
    rw [Function.update_apply] at found
    split at found
    · cases found
    · exact mirrors.usable other secret found
  keyring backend other plain := by
    rw [SecureStorage.backend_removeToken] at backend
    rw [SecureStorage.keyring_removeToken,
      if_pos ((storage.storesInKeyring_success).mpr backend), cString_eq_self noNul,
      Function.update_apply, Function.update_apply, mirrors.keyring backend other plain]
  file other := by
    rw [SecureStorage.fileEntry_removeToken, SecureStorage.backend_removeToken]
    simp only [ChangeOutcome.success, reduceCtorEq, false_or, if_true]
    split
    · rename_i silent
      rw [mirrors.file other]
      by_cases same : other = url
      · have none : token url = none := by
          have entry := (mirrors.file url).symm.trans silent.2
          exact Option.map_eq_none_iff.mp entry
        rw [same, none, Function.update_self]
      · rw [Function.update_of_ne same]
    · rw [Function.update_apply, Function.update_apply]
      split
      · rfl
      · exact mirrors.file other

/-- The file answers with the token that is recorded. -/
theorem fileText (mirrors : Mirrors token storage) (backend : storage.backend = .encryptedFile)
    (url : String) : storage.fileText url = (token url).getD "" := by
  have entry := mirrors.file url
  cases found : token url with
  | none =>
      rw [found] at entry
      exact SecureStorage.fileText_of_none entry
  | some secret =>
      rw [found, backend] at entry
      exact SecureStorage.fileText_of_token entry (mirrors.usable url secret found).plain.unmarked

/-- A lookup gives the token of the ledger. -/
theorem retrieveToken (mirrors : Mirrors token storage) {url : String}
    (noNul : '\x00' ∉ url.toList) :
    storage.retrieveToken url working = (token url).getD "" := by
  cases backend : storage.backend with
  | encryptedFile =>
      rw [← mirrors.fileText backend url]
      simp only [SecureStorage.retrieveToken, backend, SecureStorage.fileText,
        working]
  | libSecret =>
      have keyring := mirrors.keyring backend url noNul
      have text : storage.keyringText url = (token url).getD "" := by
        rw [SecureStorage.keyringText_eq, cString_eq_self noNul, keyring]
        cases found : token url with
        | none => rfl
        | some secret => exact fromUtf8_toUtf8 (mirrors.usable url secret found).plain.unmarked
      cases found : token url with
      | some secret =>
          have present := (mirrors.usable url secret found).token
          rw [found] at text
          have answers : storage.answeringPlace url working = .keyring := by
            simp [SecureStorage.answeringPlace, backend, working, text, present]
          rw [SecureStorage.retrieveToken_eq, if_pos answers, text]
      | none =>
          have entry := mirrors.file url
          rw [found] at text entry
          have silent : storage.answeringPlace url working ≠ .keyring := by
            simp [SecureStorage.answeringPlace, text]
          rw [SecureStorage.retrieveToken_eq, if_neg silent]
          exact SecureStorage.fileText_of_none entry

end Mirrors

/-! ## The session and the ledger -/

/-- The session knows only URLs the storage can keep, and is signed in to the active one. -/
structure Remembers (token : String → Option String) (session : SessionManager) : Prop where
  mirrors : Mirrors token session.storage
  logins : ∀ login ∈ session.logins, login.Usable
  urls : session.UrlsSatisfy fun url => '\x00' ∉ url.toList
  active : session.activeDeployment.url ≠ "" →
    (token session.activeDeployment.url).isSome = true

namespace Remembers

variable {token : String → Option String} {session after : SessionManager}
  {signals : List SessionSignal}

/-- The empty URL has no NUL. -/
theorem noNul_empty : '\x00' ∉ "".toList := by simp

/-- A login's token is remembered. -/
theorem loginSucceeded (remembers : Remembers token session) {login : Login}
    (usable : login.Usable) (user : User) (now : Int) :
    Remembers (Function.update token login.url (some login.token))
      (session.loginSucceeded login user .success now) where
  mirrors := remembers.mirrors.store usable
  logins := remembers.logins
  urls := remembers.urls.loginSucceeded usable.plain.url user .success now
  active _ := by
    rw [SessionManager.url_activeDeployment_loginSucceeded, Function.update_self]
    rfl

/-- A logout forgets the active deployment's token. -/
theorem logout (remembers : Remembers token session) :
    Remembers ((SessionEvent.logout .success).records session token)
      (session.logout .success) where
  mirrors := by
    have removed := remembers.mirrors.remove remembers.urls.active
    simp only [SessionEvent.records, SessionManager.logout, SessionManager.saveDeployments]
    split
    · exact removed
    · exact remembers.mirrors
  logins := remembers.logins
  urls := remembers.urls.logout noNul_empty .success
  active some := absurd rfl some

/-- A switch finds a token, which is then the active deployment's. -/
theorem switchDeployment (remembers : Remembers token session) (url : String) :
    Remembers token (session.switchDeployment url working).1 where
  mirrors := by
    rw [session.storage_switchDeployment]
    exact remembers.mirrors
  logins login member := by
    refine remembers.logins login ?_
    unfold SessionManager.switchDeployment at member
    split at member
    · exact member
    · dsimp only at member
      split at member
      · exact member
      · exact member
  urls := remembers.urls.switchDeployment url working
  active some := by
    unfold SessionManager.switchDeployment at some ⊢
    split at some
    · exact remembers.active some
    · rename_i index found
      obtain ⟨within, matching, -⟩ := List.findIdx?_eq_some_iff_getElem.mp found
      have same : session.deployments[index].url = url := of_decide_eq_true matching
      have noNul := remembers.urls.deployments _ (List.getElem_mem within)
      rw [same] at noNul
      dsimp only at some ⊢
      by_cases present : session.storage.retrieveToken url working = ""
      · rw [if_pos present] at some ⊢
        exact remembers.active some
      · rw [if_neg present]
        rw [remembers.mirrors.retrieveToken noNul] at present
        simp only [SessionManager.saveDeployments, List.getElem?_eq_getElem within,
          Option.map_some, Option.getD_some, Deployment.activate, same]
        cases known : token url with
        | none =>
            rw [known] at present
            exact absurd rfl present
        | some secret => rfl

/-- A removal forgets the deployment's token. -/
theorem removeDeployment (remembers : Remembers token session) {url : String}
    (noNul : '\x00' ∉ url.toList) :
    Remembers (Function.update token url none) (session.removeDeployment url .success).1 where
  mirrors := by
    rw [session.storage_removeDeployment]
    exact remembers.mirrors.remove noNul
  logins login member := by
    refine remembers.logins login ?_
    unfold SessionManager.removeDeployment at member
    dsimp only at member
    split at member
    · exact member
    · exact member
  urls := remembers.urls.removeDeployment noNul_empty url .success
  active some := by
    unfold SessionManager.removeDeployment at some ⊢
    dsimp only at some ⊢
    split at some
    · exact absurd rfl some
    · rename_i other
      rw [if_neg other]
      have kept := remembers.active some
      exact (congrArg Option.isSome (Function.update_of_ne other none token)).trans kept

/-- Every operation that works is remembered. -/
theorem step (remembers : Remembers token session) {event : SessionEvent}
    (works : (StoreEvent.operation event).Works)
    (taken : session.step event = some (after, signals)) :
    Remembers (event.records session token) after := by
  have urls := remembers.urls
  cases event with
  | login url secret =>
      obtain rfl := (Prod.mk.inj (Option.some.inj taken)).1
      refine ⟨remembers.mirrors, fun login member => ?_, ⟨urls.1, urls.2, urls.3⟩,
        remembers.active⟩
      rcases List.mem_append.mp member with former | entered
      · exact remembers.logins login former
      · obtain rfl := List.mem_singleton.mp entered
        exact works
  | loginFinished index reply storing now =>
      obtain rfl : storing = .success := works
      obtain ⟨login, found, answered⟩ := Option.map_eq_some_iff.mp taken
      have answering : Remembers token { session with logins := session.logins.eraseIdx index } :=
        ⟨remembers.mirrors, fun login member => remembers.logins login
          (List.mem_of_mem_eraseIdx member), ⟨urls.1, urls.2, urls.3⟩, remembers.active⟩
      cases reply with
      | error err =>
          obtain rfl := (Prod.mk.inj answered).1
          exact ⟨answering.mirrors, answering.logins, ⟨urls.1, urls.2, urls.3⟩,
            answering.active⟩
      | ok body =>
          obtain rfl := (Prod.mk.inj answered).1
          have usable := remembers.logins login (List.mem_of_getElem? found)
          simp only [SessionEvent.records, found]
          exact answering.loginSucceeded usable _ now
  | logout removing =>
      obtain rfl : removing = .success := works
      obtain rfl := (Prod.mk.inj (Option.some.inj taken)).1
      exact remembers.logout
  | switchDeployment url lookup =>
      obtain rfl : lookup = working := works
      obtain rfl := congrArg Prod.fst (Option.some.inj taken)
      exact remembers.switchDeployment url
  | removeDeployment url removing =>
      obtain ⟨noNul, rfl⟩ := works
      obtain rfl := congrArg Prod.fst (Option.some.inj taken)
      exact remembers.removeDeployment noNul

end Remembers

/-! ## Restarts -/

namespace SessionLedger

open DeploymentStore (compactFormats compactFormats_faithful)

variable {formats : TextFormats}

/-- Nobody has signed in. -/
def new (reachable : Bool) : SessionLedger := ⟨.new (.empty reachable) working, fun _ => none⟩

/-- A step of the store, with what it records. -/
def next (formats : TextFormats) (ledger : SessionLedger) (event : StoreEvent) :
    Option SessionLedger :=
  (ledger.store.next formats event).map fun store =>
    { store := store
      token :=
        match event with
        | .operation event => event.records ledger.store.session ledger.token
        | .restart _ => ledger.token }

/-- What is saved can be loaded, and the storage has the tokens recorded. -/
structure Recorded (formats : TextFormats) (ledger : SessionLedger) : Prop where
  kept : ledger.store.Kept formats
  remembers : Remembers ledger.token ledger.store.session

/-- What the application finds after a restart: the same deployments and active deployment,
times to the second, and the API client signed in to it with the token of the ledger. -/
structure Restores (formats : TextFormats) (ledger : SessionLedger) (after : DeploymentStore) :
    Prop where
  deployments : after.session.deployments =
    ledger.store.session.deployments.map Deployment.persisted
  active : after.session.activeDeployment = ledger.store.session.activeDeployment.persisted
  signedOut : ledger.store.session.activeDeployment.url = "" → after.session.client = .new
  signedIn : ledger.store.session.activeDeployment.url ≠ "" → ∃ token,
    ledger.token ledger.store.session.activeDeployment.url = some token ∧ token ≠ "" ∧
      after.session.client =
        ⟨normalised ledger.store.session.activeDeployment.url, token⟩

/-- A restart restores what is recorded. -/
theorem Recorded.restores {ledger : SessionLedger} (recorded : ledger.Recorded formats)
    {after : DeploymentStore}
    (taken : ledger.store.next formats (.restart working) = some after) :
    ledger.Restores formats after := by
  obtain rfl := Option.some.inj taken
  have reloads := recorded.kept.reloads
  have active : SessionManager.loadDeployments (ledger.store.session.deployments.map
      Deployment.persisted) = ledger.store.session.activeDeployment.persisted :=
    recorded.kept.listed.persisted.loadDeployments_eq
  have token := recorded.remembers.mirrors.retrieveToken recorded.remembers.urls.active
  constructor
  · exact reloads
  · simp only [SessionManager.new, reloads, active]
  · intro none
    simp [SessionManager.new, reloads, active, Deployment.persisted, none]
  · intro some
    obtain ⟨secret, known⟩ := Option.isSome_iff_exists.mp (recorded.remembers.active some)
    have present := (recorded.remembers.mirrors.usable _ secret known).token
    rw [known, Option.getD_some] at token
    refine ⟨secret, known, present, ?_⟩
    simp [SessionManager.new, reloads, active, Deployment.persisted, some, token, present,
      CoderApiClient.setBaseUrl, CoderApiClient.setSessionToken]

/-- Nothing is recorded at first. -/
theorem recorded_new (reachable : Bool) : (new reachable).Recorded formats where
  kept := DeploymentStore.kept_new _ _
  remembers :=
    { mirrors := .empty reachable
      logins := fun _ => List.not_mem_nil.elim
      urls :=
        ⟨fun _ => List.not_mem_nil.elim, fun _ => List.not_mem_nil.elim, Remembers.noNul_empty⟩
      active := fun some => absurd rfl some }

/-- Every event that works keeps the record. -/
theorem Recorded.next (faithful : formats.Faithful) {ledger after : SessionLedger}
    (recorded : ledger.Recorded formats) {event : StoreEvent} (works : event.Works)
    (taken : ledger.next formats event = some after) : after.Recorded formats := by
  obtain ⟨store, moved, rfl⟩ := Option.map_eq_some_iff.mp taken
  refine ⟨DeploymentStore.kept_next faithful recorded.kept moved, ?_⟩
  cases event with
  | operation event =>
      obtain ⟨-, moved⟩ := Option.ite_none_right_eq_some.mp moved
      obtain ⟨⟨session, signals⟩, stepped, rfl⟩ := Option.map_eq_some_iff.mp moved
      exact recorded.remembers.step works stepped
  | restart lookup =>
      obtain rfl : lookup = working := works
      have restores := recorded.restores moved
      obtain rfl := Option.some.inj moved
      refine ⟨recorded.remembers.mirrors, fun _ => List.not_mem_nil.elim, ?_, fun some => ?_⟩
      · have listed : ∀ entry ∈ (loadDeployments formats ledger.store.raw).1,
            '\x00' ∉ entry.url.toList := by
          rw [recorded.kept.reloads]
          intro entry member
          obtain ⟨former, known, rfl⟩ := List.mem_map.mp member
          exact recorded.remembers.urls.deployments former known
        refine ⟨listed, listed, ?_⟩
        rw [restores.active]
        exact recorded.remembers.urls.active
      · rw [restores.active] at some ⊢
        exact recorded.remembers.active some

/-- Whatever logins, failed logins, logouts, switches, removals and restarts went before, a
restart signs in to the active deployment with the token that was stored for it last. -/
theorem restart_restores_session (faithful : formats.Faithful) (reachable : Bool)
    {events : List StoreEvent} {ledger : SessionLedger} {after : DeploymentStore}
    (run : Runs (next formats) (new reachable) events ledger)
    (works : Conforms (next formats) (fun _ event => event.Works) (new reachable) events)
    (taken : ledger.store.next formats (.restart working) = some after) :
    ledger.Restores formats after := by
  have recorded : ledger.Recorded formats := run.induct (fun _ ledger => ledger.Recorded formats)
    (recorded_new reachable)
    (fun _ _ _ _ _ recorded works taken => recorded.next faithful works taken) works
  exact recorded.restores taken

/-- Two logins, a failed one, and a switch back. -/
def switchesBack : List StoreEvent :=
  [.operation (.login "https://a.dev" "t1"),
    .operation (.loginFinished 0 (.ok [("username", .string "ann")]) .success 1709210096789),
    .operation (.login "https://b.dev" "t2"),
    .operation (.loginFinished 0 (.ok [("username", .string "bob")]) .success 1709210101000),
    .operation (.login "https://c.dev" "t3"),
    .operation (.switchDeployment "https://a.dev" working),
    .operation (.loginFinished 0 (.error "Host not found") .success 1709210102000)]

/-- A failed login leaves the client without a token, and a restart finds it again. -/
theorem restart_restores_session_switchesBack :
    ∃ ledger after, Runs (next compactFormats) (new true) switchesBack ledger ∧
      ledger.store.session.client = ⟨"https://a.dev", ""⟩ ∧
      ledger.Restores compactFormats after ∧
      after.session.client = ⟨"https://a.dev", "t1"⟩ := by
  have works : Conforms (next compactFormats) (fun _ event => event.Works) (new true)
      switchesBack := by decide +kernel
  have reached : (replay (next compactFormats) (new true) switchesBack).any (fun ledger =>
      decide (ledger.store.session.client = ⟨"https://a.dev", ""⟩ ∧
        (ledger.store.next compactFormats (.restart working)).map (·.session.client) =
          some ⟨"https://a.dev", "t1"⟩)) = true := by
    decide +kernel
  obtain ⟨ledger, run, observed⟩ := runs_of_replay _ reached
  obtain ⟨before, observed⟩ := of_decide_eq_true observed
  obtain ⟨after, taken, client⟩ := Option.map_eq_some_iff.mp observed
  exact ⟨ledger, after, run, before,
    restart_restores_session compactFormats_faithful true run works taken, client⟩

end SessionLedger

end CoderDesktop.Data
