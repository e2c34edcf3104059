import CoderDesktop.Data.DeploymentStore
import CoderDesktop.Data.SessionAgreement
import CoderDesktop.Data.TokenFidelity
import CoderDesktop.Semantics.Projection
import CoderDesktop.Vpn.Bridge

/-!
# Where session tokens go

The session next to everything that sends its token: API requests, `Start` calls to the VPN
helper, the web sockets of terminal pages and the cookies of browser pages. `entered` are the
URLs and tokens of all logins. The application may be closed and started again, with the
keyring in reach or not.

A token goes to the URL it was entered for. A cookie does so as long as no page is open while
the active deployment changes: a browser page follows it with its URL and keeps the token it
was opened with.
-/

namespace CoderDesktop.Data

open Semantics Settings Api Vpn

/-- Who is sent a token. -/
inductive Receiver where
  | api
  | helper
  | terminal
  | browser
deriving DecidableEq, Repr

/-- A token that leaves the application, and the URL it is sent for. -/
structure SentToken where
  receiver : Receiver
  url : String
  token : String
deriving DecidableEq, Repr

/-- The credentials of a terminal page's web socket. -/
structure TerminalPage where
  baseUrl : String
  sessionToken : String
deriving DecidableEq, Repr

/-- What a terminal keeps for its web socket. -/
def TerminalPage.setCredentials (baseUrl token : String) : TerminalPage :=
  ⟨normalised baseUrl, token⟩

/-- The page's deployment URL is that of the session. Its token is bound to a call, which is
made when the page is loaded. -/
structure AppBrowserPage where
  sessionToken : String
deriving DecidableEq, Repr

/-- The token of the active deployment, as the storage gives it back. -/
def SessionManager.sessionToken (session : SessionManager) (lookup : LookupOutcome) : String :=
  if session.activeDeployment.url = "" then ""
  else session.storage.retrieveToken session.activeDeployment.url lookup

/-- The session and those it gives tokens to, with what was entered and sent. -/
structure CredentialFlow where
  session : SessionManager
  bridge : VpnBridge
  terminals : List TerminalPage
  browsers : List AppBrowserPage
  /-- The URLs and tokens of all logins. -/
  entered : List Login
  sent : List SentToken

/-- The steps in which tokens are entered, handed on and sent. -/
inductive CredentialEvent where
  | session (event : SessionEvent)
  /-- A request of the API client: of a poll, a validation or an action. -/
  | request
  | startVpn (fromTray : Bool) (lookup : LookupOutcome)
  | stopVpn
  | helperMessage (message : Message)
  | openTerminal (lookup : LookupOutcome)
  /-- The web socket of a terminal is opened, for the first time or again. -/
  | connectTerminal (terminal : Nat)
  | closeTerminal (terminal : Nat)
  | openBrowser (lookup : LookupOutcome)
  /-- The page's URL was resolved anew, and is valid. -/
  | injectCookie (browser : Nat)
  | closeBrowser (browser : Nat)
  | restart (reachable : Bool) (lookup : LookupOutcome)

/-- The token a call to the helper carries. -/
def sentToken : HelperCall → Option SentToken
  | .start url apiToken => some ⟨.helper, url, apiToken⟩
  | .stop | .getStatus => none

/-- What the user enters. -/
def SessionEvent.entered : SessionEvent → List Login
  | .login url token => [⟨url, token⟩]
  | .loginFinished _ _ _ _ | .logout _ | .switchDeployment _ _ | .removeDeployment _ _ => []

namespace CredentialFlow

/-- The first start: nothing was saved before. -/
def startup (reachable : Bool) (lookup : LookupOutcome) : CredentialFlow where
  session := .new (.empty reachable) [] lookup
  bridge := .new
  terminals := []
  browsers := []
  entered := []
  sent := []

/-- A token is sent with a URL. -/
def send (world : CredentialFlow) (receiver : Receiver) (url token : String) : CredentialFlow :=
  { world with sent := world.sent ++ [⟨receiver, url, token⟩] }

/-- `buildRequest` sets the header if there is a token. -/
def request (world : CredentialFlow) : CredentialFlow :=
  if world.session.client.isAuthenticated then
    world.send .api world.session.client.baseUrl world.session.client.sessionToken
  else world

/-- A login ends in a request with the new credentials. -/
def applySession (world : CredentialFlow) (event : SessionEvent) : Option CredentialFlow :=
  (world.session.step event).map fun result =>
    let after := { world with session := result.1, entered := world.entered ++ event.entered }
    match event with
    | .login _ _ => after.request
    | .loginFinished _ _ _ _ | .logout _ | .switchDeployment _ _ | .removeDeployment _ _ => after

/-- Without a token the tray shows the window; the VPN page makes its call anyway. -/
def startVpn (world : CredentialFlow) (fromTray : Bool) (lookup : LookupOutcome) :
    CredentialFlow :=
  if fromTray && !world.session.client.isAuthenticated then world
  else
    let (bridge, _, calls) :=
      world.bridge.start world.session.activeDeployment.url (world.session.sessionToken lookup)
    { world with bridge, sent := world.sent ++ calls.filterMap sentToken }

/-- Opening a web socket sends its token, if it has one. -/
def connectTerminal (world : CredentialFlow) (page : TerminalPage) : CredentialFlow :=
  if page.sessionToken ≠ "" then world.send .terminal page.baseUrl page.sessionToken else world

/-- Without a token or a URL no cookie is set. -/
def injectSessionCookie (world : CredentialFlow) (deploymentUrl token : String) :
    CredentialFlow :=
  if token = "" ∨ deploymentUrl = "" then world else world.send .browser deploymentUrl token

/-- An event, where it can come. -/
def next (world : CredentialFlow) : CredentialEvent → Option CredentialFlow
  | .session event => world.applySession event
  | .request => some world.request
  | .startVpn fromTray lookup => some (world.startVpn fromTray lookup)
  | .stopVpn => some { world with bridge := world.bridge.stop.1 }
  | .helperMessage message => some { world with bridge := (world.bridge.receive message).1 }
  | .openTerminal lookup =>
      some { world with
        terminals := world.terminals ++
          [.setCredentials world.session.activeDeployment.url (world.session.sessionToken lookup)] }
  | .connectTerminal terminal => world.terminals[terminal]?.map world.connectTerminal
  | .closeTerminal terminal =>
      some { world with terminals := world.terminals.eraseIdx terminal }
  | .openBrowser lookup =>
      some { world with browsers := world.browsers ++ [⟨world.session.sessionToken lookup⟩] }
  | .injectCookie browser =>
      world.browsers[browser]?.map fun page =>
        world.injectSessionCookie world.session.activeDeployment.url page.sessionToken
  | .closeBrowser browser => some { world with browsers := world.browsers.eraseIdx browser }
  | .restart reachable lookup =>
      some { world with
        session := .new (world.session.storage.restart reachable) world.session.saved lookup
        bridge := .new
        terminals := []
        browsers := [] }

end CredentialFlow

/-! ## Tokens and URLs -/

/-- A URL and a token that libsecret and the file keep as they are. -/
structure Login.Plain (login : Login) : Prop where
  url : '\x00' ∉ login.url.toList
  token : '\x00' ∉ login.token.toList
  unmarked : ¬ hasMark login.token

instance (login : Login) : Decidable login.Plain :=
  decidable_of_iff ('\x00' ∉ login.url.toList ∧ '\x00' ∉ login.token.toList ∧
      ¬ hasMark login.token)
    ⟨fun ⟨url, token, unmarked⟩ => ⟨url, token, unmarked⟩,
      fun plain => ⟨plain.url, plain.token, plain.unmarked⟩⟩

/-- What the file's mark of a token in the keyring reads as. -/
def markerText : String := fromBase64 "libsecret"

/-- The token is none, was entered for the URL, or is what the mark reads as. -/
def BelongsTo (entered : List Login) (url token : String) : Prop :=
  token = "" ∨ token = markerText ∨
    ∃ login ∈ entered, normalised login.url = normalised url ∧ login.token = token

/-- Normalising twice is normalising once. -/
theorem normalised_normalised (url : String) : normalised (normalised url) = normalised url := by
  simp [normalised, List.rdropWhile_idempotent]

section BelongsTo

variable {entered more : List Login} {url token : String}

/-- The empty token belongs anywhere. -/
theorem BelongsTo.none : BelongsTo entered url "" := .inl rfl

/-- More logins do not take a token away. -/
theorem BelongsTo.mono (belongs : BelongsTo entered url token) :
    BelongsTo (entered ++ more) url token :=
  belongs.imp_right (Or.imp_right fun ⟨login, member, same⟩ =>
    ⟨login, List.mem_append_left _ member, same⟩)

/-- The token of a login belongs to its URL. -/
theorem BelongsTo.login {login : Login} (member : login ∈ entered) :
    BelongsTo entered login.url login.token :=
  .inr (.inr ⟨login, member, rfl, rfl⟩)

/-- Normalising the URL does not matter. -/
theorem belongsTo_normalised :
    BelongsTo entered (normalised url) token ↔ BelongsTo entered url token := by
  rw [BelongsTo, BelongsTo, normalised_normalised]

end BelongsTo

/-! ## The storage -/

/-- Both places hold what was entered for the URL. -/
structure StorageHolds (entered : List Login) (storage : SecureStorage) : Prop where
  keyring : ∀ key, ∀ secret ∈ storage.keyring key,
    ∃ login ∈ entered, key = login.url ∧ secret = login.token
  file : ∀ deploymentUrl, ∀ entry ∈ storage.fileEntry deploymentUrl,
    entry = SecureStorage.marker ∨
      ∃ login ∈ entered, deploymentUrl = login.url ∧ entry = .string (toBase64 login.token)

namespace StorageHolds

variable {entered more : List Login} {storage : SecureStorage}

/-- An empty storage holds nothing. -/
theorem empty (reachable : Bool) : StorageHolds [] (.empty reachable) :=
  ⟨fun _ _ none => (nomatch none), fun _ _ none => (nomatch none)⟩

/-- More logins do not matter. -/
theorem mono (holds : StorageHolds entered storage) : StorageHolds (entered ++ more) storage where
  keyring key secret found :=
    let ⟨login, member, same⟩ := holds.keyring key secret found
    ⟨login, List.mem_append_left _ member, same⟩
  file deploymentUrl entry found :=
    (holds.file deploymentUrl entry found).imp_right fun ⟨login, member, same⟩ =>
      ⟨login, List.mem_append_left _ member, same⟩

/-- A restart keeps what is stored. -/
theorem restart (holds : StorageHolds entered storage) (reachable : Bool) :
    StorageHolds entered (storage.restart reachable) :=
  ⟨holds.keyring, holds.file⟩

/-- A login that is stored was entered. -/
theorem store (holds : StorageHolds entered storage) {login : Login} (member : login ∈ entered)
    (plain : login.Plain) (outcome : ChangeOutcome) :
    StorageHolds entered (storage.storeToken login.url login.token outcome).1 where
  keyring key secret found := by
    rw [SecureStorage.keyring_storeToken] at found
    split at found
    · rw [cString_eq_self plain.url, cString_eq_self plain.token, Function.update_apply] at found
      split at found
      · rename_i same
        exact ⟨login, member, same, (Option.some.inj found).symm⟩
      · exact holds.keyring key secret found
    · exact holds.keyring key secret found
  file deploymentUrl entry found := by
    by_cases same : deploymentUrl = login.url
    · subst same
      rw [SecureStorage.fileEntry_storeToken, Function.update_self] at found
      split at found
      · exact holds.file _ entry found
      · split at found
        · obtain rfl := Option.some.inj found
          unfold SecureStorage.storedEntry
          split
          · exact .inl rfl
          · exact .inr ⟨login, member, rfl, rfl⟩
        · cases found
    · rcases storage.fileEntry_storeToken_le same login.token outcome with kept | lost
      · exact holds.file deploymentUrl entry (kept ▸ found)
      · rw [lost] at found
        cases found

/-- What is left after a removal was there before. -/
theorem remove (holds : StorageHolds entered storage) (deploymentUrl : String)
    (outcome : ChangeOutcome) :
    StorageHolds entered (storage.removeToken deploymentUrl outcome).1 where
  keyring key secret found := by
    rw [SecureStorage.keyring_removeToken] at found
    split at found
    · rw [Function.update_apply] at found
      split at found
      · cases found
      · exact holds.keyring key secret found
    · exact holds.keyring key secret found
  file other entry found := by
    rcases storage.fileEntry_removeToken_le deploymentUrl other outcome with kept | lost
    · exact holds.file other entry (kept ▸ found)
    · rw [lost] at found
      cases found

/-- A token read from the file belongs to its URL. -/
theorem fileText (holds : StorageHolds entered storage) (plain : ∀ login ∈ entered, login.Plain)
    (deploymentUrl : String) :
    BelongsTo entered deploymentUrl (storage.fileText deploymentUrl) := by
  cases found : storage.fileEntry deploymentUrl with
  | none => exact .inl (SecureStorage.fileText_of_none found)
  | some entry =>
      rcases holds.file deploymentUrl entry found with rfl | ⟨login, member, rfl, rfl⟩
      · refine .inr (.inl ?_)
        rw [SecureStorage.fileText_eq, found]
        rfl
      · rw [SecureStorage.fileText_of_token found (plain login member).unmarked]
        exact .login member

/-- A token read from the keyring belongs to its URL. -/
theorem keyringText (holds : StorageHolds entered storage)
    (plain : ∀ login ∈ entered, login.Plain) {deploymentUrl : String}
    (noNul : '\x00' ∉ deploymentUrl.toList) :
    BelongsTo entered deploymentUrl (storage.keyringText deploymentUrl) := by
  rw [SecureStorage.keyringText_eq, cString_eq_self noNul]
  cases found : storage.keyring deploymentUrl with
  | none => exact .none
  | some secret =>
      obtain ⟨login, member, rfl, rfl⟩ := holds.keyring deploymentUrl secret found
      rw [Option.map_some, Option.getD_some, fromUtf8_toUtf8 (plain login member).unmarked]
      exact .login member

/-- A lookup for a URL gives what belongs to it, whichever place answers. -/
theorem retrieveToken (holds : StorageHolds entered storage)
    (plain : ∀ login ∈ entered, login.Plain) {deploymentUrl : String}
    (noNul : '\x00' ∉ deploymentUrl.toList) (outcome : LookupOutcome) :
    BelongsTo entered deploymentUrl (storage.retrieveToken deploymentUrl outcome) := by
  rw [SecureStorage.retrieveToken_eq, SecureStorage.fileRetrieve_eq]
  split
  · exact holds.keyringText plain noNul
  · split
    · exact holds.fileText plain deploymentUrl
    · exact .none

end StorageHolds

/-! ## The session -/

/-- The URLs the session knows have what the predicate asks for. -/
structure SessionManager.UrlsSatisfy (good : String → Prop) (session : SessionManager) : Prop where
  deployments : ∀ entry ∈ session.deployments, good entry.url
  saved : ∀ entry ∈ session.saved, good entry.url
  active : good session.activeDeployment.url

namespace SessionManager.UrlsSatisfy

variable {good : String → Prop} {session : SessionManager}

/-- Saving keeps the URLs. -/
theorem saveDeployments (deployments : ∀ entry ∈ session.deployments, good entry.url)
    (active : good session.activeDeployment.url) :
    session.saveDeployments.UrlsSatisfy good where
  deployments := deployments
  saved entry member := by
    obtain ⟨listed, isListed, rfl⟩ := List.mem_map.mp member
    exact deployments listed isListed
  active := active

/-- A login adds its own URL. -/
theorem loginSucceeded (urls : session.UrlsSatisfy good) {login : Login} (isGood : good login.url)
    (user : User) (storing : ChangeOutcome) (now : Int) :
    (session.loginSucceeded login user storing now).UrlsSatisfy good := by
  refine saveDeployments (fun entry member => ?_) isGood
  rcases mem_replaceDeployment member with rfl | former
  · exact isGood
  · obtain ⟨listed, isListed, rfl⟩ := List.mem_map.mp former
    exact urls.deployments listed isListed

/-- A logout adds no URL but the empty one. -/
theorem logout (urls : session.UrlsSatisfy good) (empty : good "") (removing : ChangeOutcome) :
    (session.logout removing).UrlsSatisfy good := by
  refine saveDeployments (fun entry member => ?_) empty
  obtain ⟨listed, isListed, rfl⟩ := List.mem_map.mp member
  split
  · exact urls.deployments listed isListed
  · exact urls.deployments listed isListed

/-- A switch adds no URL. -/
theorem switchDeployment (urls : session.UrlsSatisfy good) (url : String)
    (lookup : LookupOutcome) : (session.switchDeployment url lookup).1.UrlsSatisfy good := by
  unfold SessionManager.switchDeployment
  split
  · exact urls
  · rename_i index found
    dsimp only
    split
    · exact urls
    · have within := (List.findIdx?_eq_some_iff_getElem.mp found).1
      have kept : good session.deployments[index].url :=
        urls.deployments _ (List.getElem_mem within)
      refine saveDeployments (fun entry member => ?_) ?_
      · obtain ⟨place, bound, rfl⟩ := List.mem_iff_getElem.mp member
        have inside : place < session.deployments.length := by simpa using bound
        have listed : good session.deployments[place].url :=
          urls.deployments _ (List.getElem_mem inside)
        simp only [List.getElem_modify, List.getElem_map]
        split
        · exact listed
        · exact listed
      · rw [List.getElem?_eq_getElem within]
        exact kept

/-- A removal adds no URL but the empty one. -/
theorem removeDeployment (urls : session.UrlsSatisfy good) (empty : good "") (url : String)
    (removing : ChangeOutcome) : (session.removeDeployment url removing).1.UrlsSatisfy good := by
  have others : ∀ entry ∈ session.deployments.filter (·.url ≠ url), good entry.url :=
    fun entry member => urls.deployments entry (List.mem_of_mem_filter member)
  unfold SessionManager.removeDeployment
  dsimp only
  split
  · exact saveDeployments others empty
  · exact saveDeployments others urls.active

end SessionManager.UrlsSatisfy

/-- A switch leaves the storage alone. -/
theorem SessionManager.storage_switchDeployment (session : SessionManager) (url : String)
    (lookup : LookupOutcome) :
    (session.switchDeployment url lookup).1.storage = session.storage := by
  unfold switchDeployment
  split
  · rfl
  · dsimp only
    split <;> rfl

/-- A removal removes the token. -/
theorem SessionManager.storage_removeDeployment (session : SessionManager) (url : String)
    (removing : ChangeOutcome) : (session.removeDeployment url removing).1.storage =
      (session.storage.removeToken url removing).1 := by
  unfold removeDeployment
  dsimp only
  split <;> rfl

/-- What the session holds belongs where it is. -/
structure SessionHolds (entered : List Login) (session : SessionManager) : Prop where
  plain : ∀ login ∈ entered, login.Plain
  client : BelongsTo entered session.client.baseUrl session.client.sessionToken
  storage : StorageHolds entered session.storage
  logins : ∀ login ∈ session.logins, login ∈ entered
  urls : session.UrlsSatisfy fun url => '\x00' ∉ url.toList

namespace SessionHolds

variable {entered : List Login} {session after : SessionManager} {signals : List SessionSignal}

/-- A retrieved token belongs to its URL. -/
theorem retrieveToken (holds : SessionHolds entered session) {url : String}
    (noNul : '\x00' ∉ url.toList) (lookup : LookupOutcome) :
    BelongsTo entered url (session.storage.retrieveToken url lookup) :=
  holds.storage.retrieveToken holds.plain noNul lookup

/-- The token handed to pages and to the helper belongs to the active deployment. -/
theorem sessionToken (holds : SessionHolds entered session) (lookup : LookupOutcome) :
    BelongsTo entered session.activeDeployment.url (session.sessionToken lookup) := by
  unfold SessionManager.sessionToken
  split
  · exact .none
  · exact holds.retrieveToken holds.urls.active lookup

/-- A session that is restored holds what was entered. -/
theorem new {storage : SecureStorage} {saved : List Deployment}
    (plain : ∀ login ∈ entered, login.Plain) (stored : StorageHolds entered storage)
    (urls : ∀ entry ∈ saved, '\x00' ∉ entry.url.toList) (lookup : LookupOutcome) :
    SessionHolds entered (.new storage saved lookup) := by
  have active : '\x00' ∉ (SessionManager.loadDeployments saved).url.toList := by
    unfold SessionManager.loadDeployments
    rw [List.getLastD_eq_getLast?]
    cases last : (saved.filter (·.isActive)).getLast? with
    | none => simp [Deployment.none]
    | some entry => exact urls entry (List.mem_of_mem_filter (List.mem_of_getLast? last))
  refine ⟨plain, ?_, stored, fun _ => List.not_mem_nil.elim, urls, urls, active⟩
  unfold SessionManager.new
  dsimp only
  split
  · exact belongsTo_normalised.mpr (stored.retrieveToken plain active lookup)
  · exact .none

/-- A step of the session keeps everything where it belongs. -/
theorem step (holds : SessionHolds entered session) {event : SessionEvent}
    (plain : ∀ login ∈ event.entered, login.Plain)
    (taken : session.step event = some (after, signals)) :
    SessionHolds (entered ++ event.entered) after := by
  have noNul : '\x00' ∉ "".toList := by simp
  have allPlain : ∀ login ∈ entered ++ event.entered, login.Plain := fun login member =>
    (List.mem_append.mp member).elim (holds.plain login) (plain login)
  have allLogins : ∀ login ∈ session.logins, login ∈ entered ++ event.entered :=
    fun login member => List.mem_append_left _ (holds.logins login member)
  cases event with
  | login url token =>
      obtain rfl := (Prod.mk.inj (Option.some.inj taken)).1
      have isEntered : (⟨url, token⟩ : Login) ∈ entered ++ [⟨url, token⟩] :=
        List.mem_append_right _ List.mem_cons_self
      refine ⟨allPlain, belongsTo_normalised.mpr (.login isEntered), holds.storage.mono,
        fun login member => ?_, holds.urls.deployments, holds.urls.saved, holds.urls.active⟩
      rcases List.mem_append.mp member with outstanding | new
      · exact allLogins login outstanding
      · exact List.mem_singleton.mp new ▸ isEntered
  | loginFinished index reply storing now =>
      rw [SessionEvent.entered, List.append_nil] at *
      obtain ⟨login, found, answered⟩ := Option.map_eq_some_iff.mp taken
      have isEntered := holds.logins login (List.mem_of_getElem? found)
      have others : ∀ other ∈ session.logins.eraseIdx index, other ∈ entered :=
        fun other member => holds.logins other (List.mem_of_mem_eraseIdx member)
      cases reply with
      | error err =>
          obtain rfl := (Prod.mk.inj answered).1
          exact ⟨holds.plain, .none, holds.storage, others, holds.urls.deployments,
            holds.urls.saved, holds.urls.active⟩
      | ok body =>
          obtain rfl := (Prod.mk.inj answered).1
          have urls : SessionManager.UrlsSatisfy (fun url => '\x00' ∉ url.toList)
              { session with logins := session.logins.eraseIdx index } :=
            ⟨holds.urls.deployments, holds.urls.saved, holds.urls.active⟩
          exact ⟨holds.plain, holds.client,
            holds.storage.store isEntered (holds.plain login isEntered) storing, others,
            urls.loginSucceeded (holds.plain login isEntered).url _ storing now⟩
  | logout removing =>
      rw [SessionEvent.entered, List.append_nil] at *
      obtain rfl := (Prod.mk.inj (Option.some.inj taken)).1
      refine ⟨holds.plain, ?_, ?_, holds.logins, holds.urls.logout noNul removing⟩
      · rw [SessionManager.client_logout]
        exact .none
      · change StorageHolds entered (if _ then _ else _)
        split
        · exact holds.storage.remove _ removing
        · exact holds.storage
  | switchDeployment url lookup =>
      rw [SessionEvent.entered, List.append_nil] at *
      obtain rfl := congrArg Prod.fst (Option.some.inj taken)
      have storage := session.storage_switchDeployment url lookup
      rcases session.switchDeployment_cases url lookup with
        same | ⟨⟨entry, listed, isUrl⟩, -, client, -, logins⟩
      · rw [same]
        exact holds
      · refine ⟨holds.plain, ?_, storage ▸ holds.storage, logins ▸ holds.logins,
          holds.urls.switchDeployment url lookup⟩
        rw [client]
        exact belongsTo_normalised.mpr
          (holds.retrieveToken (isUrl ▸ holds.urls.deployments entry listed) lookup)
  | removeDeployment url removing =>
      rw [SessionEvent.entered, List.append_nil] at *
      obtain rfl := congrArg Prod.fst (Option.some.inj taken)
      obtain ⟨logins, clients⟩ := session.removeDeployment_cases url removing
      refine ⟨holds.plain, ?_, ?_, logins ▸ holds.logins,
        holds.urls.removeDeployment noNul url removing⟩
      · rcases clients with ⟨client, -⟩ | ⟨client, -⟩
        · rw [client]
          exact .none
        · rw [client]
          exact holds.client
      · rw [SessionManager.storage_removeDeployment]
        exact holds.storage.remove url removing

end SessionHolds

/-! ## What is sent -/

/-- Logins are entered as plain texts. -/
def CredentialEvent.Plain : CredentialEvent → Prop
  | .session event => ∀ login ∈ event.entered, login.Plain
  | .request | .startVpn _ _ | .stopVpn | .helperMessage _ | .openTerminal _ | .connectTerminal _
  | .closeTerminal _ | .openBrowser _ | .injectCookie _ | .closeBrowser _ | .restart _ _ => True

instance : (event : CredentialEvent) → Decidable event.Plain
  | .session event => inferInstanceAs (Decidable (∀ login ∈ event.entered, login.Plain))
  | .request | .startVpn _ _ | .stopVpn | .helperMessage _ | .openTerminal _ | .connectTerminal _
  | .closeTerminal _ | .openBrowser _ | .injectCookie _ | .closeBrowser _ | .restart _ _ =>
      .isTrue trivial

namespace CredentialFlow

/-- What was sent belongs to the URL it was sent for, to those receivers. -/
def Delivers (world : CredentialFlow) (receivers : Receiver → Prop) : Prop :=
  ∀ sent ∈ world.sent, receivers sent.receiver → BelongsTo world.entered sent.url sent.token

/-- Session and terminals hold what belongs to them, and so did what they sent. -/
structure Confined (world : CredentialFlow) : Prop where
  session : SessionHolds world.entered world.session
  terminals : ∀ page ∈ world.terminals, BelongsTo world.entered page.baseUrl page.sessionToken
  sent : world.Delivers (· ≠ .browser)

variable {world after : CredentialFlow} {receivers : Receiver → Prop}

/-- A token that belongs to its URL may be sent. -/
theorem Delivers.send (delivers : world.Delivers receivers) {receiver : Receiver}
    {url token : String}
    (belongs : receivers receiver → BelongsTo world.entered url token) :
    (world.send receiver url token).Delivers receivers := by
  intro sent member asked
  rcases List.mem_append.mp member with former | new
  · exact delivers sent former asked
  · obtain rfl := List.mem_singleton.mp new
    exact belongs asked

/-- Polling sends the session's token. -/
theorem Delivers.request (delivers : world.Delivers receivers)
    (holds : SessionHolds world.entered world.session) : world.request.Delivers receivers := by
  unfold CredentialFlow.request
  split
  · exact delivers.send fun _ => holds.client
  · exact delivers

/-- Asking for the tunnel sends the active deployment's URL and token, or nothing. -/
theorem startVpn_cases (world : CredentialFlow) (fromTray : Bool) (lookup : LookupOutcome) :
    ∃ bridge, world.startVpn fromTray lookup = { world with bridge } ∨
      world.startVpn fromTray lookup =
        { world.send .helper world.session.activeDeployment.url
            (world.session.sessionToken lookup) with bridge } := by
  unfold CredentialFlow.startVpn
  split
  · exact ⟨_, .inl rfl⟩
  · unfold VpnBridge.start
    by_cases busy : world.bridge.state ≠ .reported .disconnected
    · exact ⟨world.bridge, .inl (by simp [busy])⟩
    · exact ⟨⟨.reported .connecting⟩, .inr (by simp [busy, sentToken, send])⟩

/-- Starting the VPN sends the session's token, or one that is retrieved. -/
theorem Delivers.startVpn (delivers : world.Delivers receivers)
    (holds : SessionHolds world.entered world.session) (fromTray : Bool) (lookup : LookupOutcome) :
    (world.startVpn fromTray lookup).Delivers receivers := by
  obtain ⟨bridge, nothing | starts⟩ := world.startVpn_cases fromTray lookup
  · rw [nothing]
    exact delivers
  · rw [starts]
    exact delivers.send fun _ => holds.sessionToken lookup

/-- A terminal sends its page's token. -/
theorem Delivers.connectTerminal (delivers : world.Delivers receivers) {page : TerminalPage}
    (belongs : BelongsTo world.entered page.baseUrl page.sessionToken) :
    (world.connectTerminal page).Delivers receivers := by
  unfold CredentialFlow.connectTerminal
  split
  · exact delivers.send fun _ => belongs
  · exact delivers

/-- A browser receives the token of a deployment as a cookie. -/
theorem Delivers.injectSessionCookie (delivers : world.Delivers receivers)
    {deploymentUrl token : String}
    (belongs : receivers .browser → BelongsTo world.entered deploymentUrl token) :
    (world.injectSessionCookie deploymentUrl token).Delivers receivers := by
  unfold CredentialFlow.injectSessionCookie
  split
  · exact delivers
  · exact delivers.send belongs

/-! ## Steps -/

/-- Nothing changes but the bridge and what was sent. -/
def Sends (world after : CredentialFlow) : Prop :=
  ∃ bridge sent, after = { world with bridge, sent }

/-- Polling only sends. -/
theorem sends_request (world : CredentialFlow) : world.Sends world.request := by
  unfold CredentialFlow.request
  split
  · exact ⟨_, _, rfl⟩
  · exact ⟨_, _, rfl⟩

/-- Starting the VPN only sends. -/
theorem sends_startVpn (world : CredentialFlow) (fromTray : Bool) (lookup : LookupOutcome) :
    world.Sends (world.startVpn fromTray lookup) := by
  obtain ⟨bridge, same | same⟩ := world.startVpn_cases fromTray lookup
  · exact ⟨_, _, same⟩
  · exact ⟨_, _, same⟩

/-- Connecting a terminal only sends. -/
theorem sends_connectTerminal (world : CredentialFlow) (page : TerminalPage) :
    world.Sends (world.connectTerminal page) := by
  unfold CredentialFlow.connectTerminal
  split
  · exact ⟨_, _, rfl⟩
  · exact ⟨_, _, rfl⟩

/-- Injecting a cookie only sends. -/
theorem sends_injectSessionCookie (world : CredentialFlow) (deploymentUrl token : String) :
    world.Sends (world.injectSessionCookie deploymentUrl token) := by
  unfold CredentialFlow.injectSessionCookie
  split
  · exact ⟨_, _, rfl⟩
  · exact ⟨_, _, rfl⟩

/-- Sending keeps the tokens confined if what is sent belongs to its URL. -/
theorem Confined.sends (confined : world.Confined) (same : world.Sends after)
    (delivers : after.Delivers (· ≠ .browser)) : after.Confined := by
  obtain ⟨bridge, sent, rfl⟩ := same
  exact ⟨confined.session, confined.terminals, delivers⟩

/-- What a step of the session leaves, besides what a login sends. -/
theorem applySession_cases {event : SessionEvent} (taken : world.applySession event = some after) :
    ∃ session signals, world.session.step event = some (session, signals) ∧
      (after = { world with session, entered := world.entered ++ event.entered } ∨
        after =
          { world with session, entered := world.entered ++ event.entered }.request) := by
  obtain ⟨⟨session, signals⟩, step, shape⟩ := Option.map_eq_some_iff.mp taken
  refine ⟨session, signals, step, ?_⟩
  cases event with
  | login url token => exact .inr shape.symm
  | loginFinished | logout | switchDeployment | removeDeployment => exact .inl shape.symm

/-- The session's own events keep the tokens confined. -/
theorem Confined.applySession (confined : world.Confined) {event : SessionEvent}
    (plain : ∀ login ∈ event.entered, login.Plain)
    (taken : world.applySession event = some after) : after.Confined := by
  obtain ⟨session, signals, step, shape⟩ := applySession_cases taken
  have stepped : Confined { world with session, entered := world.entered ++ event.entered } :=
    ⟨confined.session.step plain step, fun page member => (confined.terminals page member).mono,
      fun sent member asked => (confined.sent sent member asked).mono⟩
  rcases shape with rfl | rfl
  · exact stepped
  · exact stepped.sends (sends_request _) (stepped.sent.request stepped.session)

/-- Every event of plain tokens keeps the tokens confined. -/
theorem Confined.next (confined : world.Confined) {event : CredentialEvent} (plain : event.Plain)
    (taken : world.next event = some after) : after.Confined := by
  cases event with
  | session event => exact confined.applySession plain taken
  | request =>
      obtain rfl := Option.some.inj taken
      exact confined.sends world.sends_request (confined.sent.request confined.session)
  | startVpn fromTray lookup =>
      obtain rfl := Option.some.inj taken
      exact confined.sends (world.sends_startVpn fromTray lookup)
        (confined.sent.startVpn confined.session fromTray lookup)
  | stopVpn | helperMessage | openBrowser | closeBrowser =>
      obtain rfl := Option.some.inj taken
      exact ⟨confined.session, confined.terminals, confined.sent⟩
  | openTerminal lookup =>
      obtain rfl := Option.some.inj taken
      refine ⟨confined.session, fun page member => ?_, confined.sent⟩
      rcases List.mem_append.mp member with former | new
      · exact confined.terminals page former
      · obtain rfl := List.mem_singleton.mp new
        exact belongsTo_normalised.mpr (confined.session.sessionToken lookup)
  | connectTerminal terminal =>
      obtain ⟨page, found, rfl⟩ := Option.map_eq_some_iff.mp taken
      exact confined.sends (world.sends_connectTerminal page)
        (confined.sent.connectTerminal (confined.terminals page (List.mem_of_getElem? found)))
  | closeTerminal terminal =>
      obtain rfl := Option.some.inj taken
      exact ⟨confined.session,
        fun page member => confined.terminals page (List.mem_of_mem_eraseIdx member),
        confined.sent⟩
  | injectCookie browser =>
      obtain ⟨page, found, rfl⟩ := Option.map_eq_some_iff.mp taken
      exact confined.sends (world.sends_injectSessionCookie _ _)
        (confined.sent.injectSessionCookie fun none => absurd rfl none)
  | restart reachable lookup =>
      obtain rfl := Option.some.inj taken
      exact ⟨.new confined.session.plain (confined.session.storage.restart reachable)
        confined.session.urls.saved lookup, fun _ => List.not_mem_nil.elim, confined.sent⟩

/-- At startup nothing was sent. -/
theorem confined_startup (reachable : Bool) (lookup : LookupOutcome) :
    (startup reachable lookup).Confined :=
  ⟨.new (fun _ => List.not_mem_nil.elim) (.empty reachable) (fun _ => List.not_mem_nil.elim) lookup,
    fun _ => List.not_mem_nil.elim, fun _ => List.not_mem_nil.elim⟩

/-! ## Cookies -/

/-- The active deployment stays what it is while a browser page is open. -/
def KeepsPages (world : CredentialFlow) (event : CredentialEvent) : Prop :=
  ∀ after ∈ world.next event,
    world.browsers = [] ∨ after.session.activeDeployment.url = world.session.activeDeployment.url

instance (world : CredentialFlow) (event : CredentialEvent) :
    Decidable (world.KeepsPages event) := by
  unfold KeepsPages
  infer_instance

/-- Pages hold the token of the active deployment, and so did everything that was sent. -/
structure CookiesConfined (world : CredentialFlow) : Prop where
  confined : world.Confined
  browsers : ∀ page ∈ world.browsers,
    BelongsTo world.entered world.session.activeDeployment.url page.sessionToken
  sent : world.Delivers fun _ => True

/-- Sending keeps the cookies confined if what is sent belongs to its URL. -/
theorem CookiesConfined.sends (cookies : world.CookiesConfined) (same : world.Sends after)
    (confined : after.Confined) (delivers : after.Delivers fun _ => True) :
    after.CookiesConfined := by
  obtain ⟨bridge, sent, rfl⟩ := same
  exact ⟨confined, cookies.browsers, delivers⟩

/-- A session event keeps the cookies confined if no browser is open or the URL stays. -/
theorem CookiesConfined.applySession (cookies : world.CookiesConfined) {event : SessionEvent}
    (confined : after.Confined) (plain : ∀ login ∈ event.entered, login.Plain)
    (keeps : world.browsers = [] ∨
      after.session.activeDeployment.url = world.session.activeDeployment.url)
    (taken : world.applySession event = some after) : after.CookiesConfined := by
  obtain ⟨session, signals, step, shape⟩ := applySession_cases taken
  have holds := cookies.confined.session.step plain step
  have browsers (same : world.browsers = [] ∨
      session.activeDeployment.url = world.session.activeDeployment.url) :
      ∀ page ∈ world.browsers, BelongsTo (world.entered ++ event.entered)
        session.activeDeployment.url page.sessionToken := by
    intro page member
    rcases same with none | same
    · rw [none] at member
      cases member
    · rw [same]
      exact (cookies.browsers page member).mono
  have sent : Delivers { world with session, entered := world.entered ++ event.entered }
      fun _ => True := fun sent member asked => (cookies.sent sent member asked).mono
  rcases shape with rfl | rfl
  · exact ⟨confined, browsers keeps, sent⟩
  · have delivers := sent.request holds
    obtain ⟨bridge, more, same⟩ :=
      sends_request { world with session, entered := world.entered ++ event.entered }
    rw [same] at keeps confined delivers ⊢
    exact ⟨confined, browsers keeps, delivers⟩

/-- Every event that keeps the pages keeps the cookies confined. -/
theorem CookiesConfined.next (cookies : world.CookiesConfined) {event : CredentialEvent}
    (plain : event.Plain) (keeps : world.KeepsPages event)
    (taken : world.next event = some after) : after.CookiesConfined := by
  have next := cookies.confined.next plain taken
  have session := cookies.confined.session
  cases event with
  | session event => exact cookies.applySession next plain (keeps after taken) taken
  | request =>
      obtain rfl := Option.some.inj taken
      exact cookies.sends world.sends_request next (cookies.sent.request session)
  | startVpn fromTray lookup =>
      obtain rfl := Option.some.inj taken
      exact cookies.sends (world.sends_startVpn fromTray lookup) next
        (cookies.sent.startVpn session fromTray lookup)
  | stopVpn | helperMessage | openTerminal | closeTerminal =>
      obtain rfl := Option.some.inj taken
      exact ⟨next, cookies.browsers, cookies.sent⟩
  | connectTerminal terminal =>
      obtain ⟨page, found, rfl⟩ := Option.map_eq_some_iff.mp taken
      exact cookies.sends (world.sends_connectTerminal page) next
        (cookies.sent.connectTerminal
          (cookies.confined.terminals page (List.mem_of_getElem? found)))
  | openBrowser lookup =>
      obtain rfl := Option.some.inj taken
      refine ⟨next, fun page member => ?_, cookies.sent⟩
      rcases List.mem_append.mp member with former | new
      · exact cookies.browsers page former
      · obtain rfl := List.mem_singleton.mp new
        exact session.sessionToken lookup
  | injectCookie browser =>
      obtain ⟨page, found, rfl⟩ := Option.map_eq_some_iff.mp taken
      exact cookies.sends (world.sends_injectSessionCookie _ _) next
        (cookies.sent.injectSessionCookie fun _ =>
          cookies.browsers page (List.mem_of_getElem? found))
  | closeBrowser browser =>
      obtain rfl := Option.some.inj taken
      exact ⟨next, fun page member => cookies.browsers page (List.mem_of_mem_eraseIdx member),
        cookies.sent⟩
  | restart reachable lookup =>
      obtain rfl := Option.some.inj taken
      exact ⟨next, fun _ => List.not_mem_nil.elim, cookies.sent⟩

end CredentialFlow

/-! ## Results -/

/-- Whatever logins race, whichever deployments are switched between and however often the
application is started again: requests, the helper and terminals only ever get a token that
was entered, as a plain text, for the URL they are at, none at all, or what the mark of a token
in the keyring reads as. -/
theorem tokens_confined (reachable : Bool) (lookup : LookupOutcome)
    {events : List CredentialEvent} {world : CredentialFlow}
    (run : Runs CredentialFlow.next (.startup reachable lookup) events world)
    (plain : ∀ event ∈ events, event.Plain) :
    ∀ sent ∈ world.sent, sent.receiver ≠ .browser →
      BelongsTo world.entered sent.url sent.token :=
  (run.induct (fun _ => CredentialFlow.Confined) (CredentialFlow.confined_startup reachable lookup)
    (fun _ _ _ _ _ confined plain taken => confined.next plain taken)
    (conforms_of_forall plain)).sent

/-- Cookies too, and with the same exceptions, as long as the active deployment does not change
under an open page. -/
theorem cookies_confined (reachable : Bool) (lookup : LookupOutcome)
    {events : List CredentialEvent} {world : CredentialFlow}
    (run : Runs CredentialFlow.next (.startup reachable lookup) events world)
    (keeps : Conforms CredentialFlow.next (fun world event => event.Plain ∧ world.KeepsPages event)
      (.startup reachable lookup) events) :
    ∀ sent ∈ world.sent, BelongsTo world.entered sent.url sent.token := by
  have cookies := run.induct (fun _ => CredentialFlow.CookiesConfined)
    ⟨CredentialFlow.confined_startup reachable lookup, fun _ => List.not_mem_nil.elim,
      fun _ => List.not_mem_nil.elim⟩
    (fun _ _ _ _ _ cookies allowed taken => cookies.next allowed.1 allowed.2 taken) keeps
  exact fun sent member => cookies.sent sent member trivial

/-! ## Runs -/

/-- Every access works. -/
def working : LookupOutcome := ⟨true, true⟩

/-- A login that is answered and stored. -/
def signIn (url token : String) : List CredentialEvent :=
  [.session (.login url token),
    .session (.loginFinished 0 (.ok [("username", .string "ada")]) ⟨true, true, .written⟩ 0)]

/-- A terminal is opened on the first deployment and reconnects on the second one; after the
restart the keyring is out of reach. -/
def twoDeployments : List CredentialEvent :=
  signIn "https://a.example/" "alpha" ++
    [.openTerminal working, .openBrowser working, .injectCookie 0, .closeBrowser 0] ++
    signIn "https://b.example" "beta" ++
    [.startVpn true working, .connectTerminal 0, .openBrowser working, .injectCookie 0,
      .restart false working, .request]

/-- Two deployments in turn, and a restart without the keyring. -/
theorem tokens_confined_twoDeployments :
    ∃ world, Runs CredentialFlow.next (.startup true working) twoDeployments world ∧
      (world.sent.map (·.token) =
        ["alpha", "alpha", "beta", "beta", "alpha", "beta", markerText]) ∧
      ∀ sent ∈ world.sent, sent.receiver ≠ .browser →
        BelongsTo world.entered sent.url sent.token := by
  have reached : (replay CredentialFlow.next (.startup true working) twoDeployments).any
      (fun world => world.sent.map (·.token) =
        ["alpha", "alpha", "beta", "beta", "alpha", "beta", markerText]) = true := by
    decide +kernel
  obtain ⟨world, run, observed⟩ := runs_of_replay _ reached
  exact ⟨world, run, of_decide_eq_true observed,
    tokens_confined true working run (by decide +kernel)⟩

/-- In the same run a browser receives a cookie. -/
theorem cookies_confined_twoDeployments :
    ∃ world, Runs CredentialFlow.next (.startup true working) twoDeployments world ∧
      (world.sent.any fun sent => sent.receiver = .browser) = true ∧
      ∀ sent ∈ world.sent, BelongsTo world.entered sent.url sent.token := by
  have reached : (replay CredentialFlow.next (.startup true working) twoDeployments).any
      (fun world => world.sent.any fun sent => sent.receiver = .browser) = true := by
    decide +kernel
  obtain ⟨world, run, observed⟩ := runs_of_replay _ reached
  exact ⟨world, run, observed, cookies_confined true working run (by decide +kernel)⟩

/-- A page left open over a change of the deployment takes its token along. -/
example : ∃ world, Runs CredentialFlow.next (.startup true working)
    (signIn "https://a.example/" "alpha" ++ [.openBrowser working] ++
      signIn "https://b.example" "beta" ++ [.injectCookie 0]) world ∧
    (world.sent.any fun sent => sent = ⟨.browser, "https://b.example", "alpha"⟩) = true :=
  runs_of_replay (fun world : CredentialFlow => world.sent.any
    fun sent => sent = ⟨.browser, "https://b.example", "alpha"⟩) (by decide +kernel)

end CoderDesktop.Data