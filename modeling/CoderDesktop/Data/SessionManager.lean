import CoderDesktop.Api.CoderApiClient
import CoderDesktop.Data.SecureStorage

/-!
# The session

`SessionManager` with the API client it configures and the storage it keeps tokens
in. A login is answered later: `logins` are the user requests under way, and their
replies come in any order. The accesses of the storage end as the event says.
-/

namespace CoderDesktop.Data

open Settings Api

/-- The fields of `User` a login keeps. -/
structure User where
  id : String
  username : String
  avatarUrl : String
deriving DecidableEq, Repr

/-- `User::fromJson` -/
def User.fromJson (entries : List (String × Json)) : User where
  id := (Json.value entries "id").toText
  username := (Json.value entries "username").toText
  avatarUrl := (Json.value entries "avatar_url").toText

/-- A deployment as the list has it. -/
structure Deployment where
  id : String
  name : String
  url : String
  username : String
  avatarUrl : String
  isActive : Bool
  /-- Milliseconds since the epoch. -/
  addedAt : Int
deriving DecidableEq, Repr

namespace Deployment

/-- `Deployment{}` -/
def none : Deployment := ⟨"", "", "", "", "", false, 0⟩

/-- The entry a successful login makes. -/
def ofLogin (url : String) (user : User) (now : Int) : Deployment where
  id := user.id
  name := url
  url := url
  username := user.username
  avatarUrl := user.avatarUrl
  isActive := true
  addedAt := now

/-- The deployment is not the active one. -/
def deactivate (deployment : Deployment) : Deployment :=
  { deployment with isActive := false }

/-- The deployment is the active one. -/
def activate (deployment : Deployment) : Deployment :=
  { deployment with isActive := true }

/-- What comes back of an entry after saving it: the time is written to the second. -/
def persisted (deployment : Deployment) : Deployment :=
  { deployment with addedAt := deployment.addedAt / 1000 * 1000 }

end Deployment

/-- Replace the first entry for the same URL, or append. -/
def replaceDeployment (deployment : Deployment) : List Deployment → List Deployment
  | [] => [deployment]
  | entry :: rest =>
      if entry.url = deployment.url then deployment :: rest
      else entry :: replaceDeployment deployment rest

/-- A user request under way, with what its completion handler captured. -/
structure Login where
  url : String
  token : String
deriving DecidableEq, Repr

/-- The fields of the manager, its client and storage, and the logins that have no reply yet. -/
structure SessionManager where
  client : CoderApiClient
  storage : SecureStorage
  deployments : List Deployment
  activeDeployment : Deployment
  /-- The list `saveDeployments` wrote last. -/
  saved : List Deployment
  logins : List Login

/-- `authStateChanged` is what the rest of the application follows. -/
inductive SessionSignal where
  | authStateChanged
  | loginSucceeded (username : String)
  | loginFailed (error : String)
deriving DecidableEq, Repr

/-- What the user asks of the session, and the replies to logins. -/
inductive SessionEvent where
  | login (url token : String)
  /-- The reply to a user request: the body's object, or the error's text. -/
  | loginFinished (login : Nat) (reply : Except String (List (String × Json)))
      (storing : ChangeOutcome) (now : Int)
  | logout (removing : ChangeOutcome)
  | switchDeployment (url : String) (lookup : LookupOutcome)
  | removeDeployment (url : String) (removing : ChangeOutcome)

namespace SessionManager

/-- `loadDeployments`: the last active entry wins. -/
def loadDeployments (saved : List Deployment) : Deployment :=
  (saved.filter (·.isActive)).getLastD .none

/-- The constructor restores the active deployment if its token can be read. -/
def new (storage : SecureStorage) (saved : List Deployment) (lookup : LookupOutcome) :
    SessionManager :=
  let active := loadDeployments saved
  let token := storage.retrieveToken active.url lookup
  { client :=
      if active.url ≠ "" ∧ token ≠ "" then
        (CoderApiClient.new.setBaseUrl active.url).setSessionToken token
      else .new
    storage := storage
    deployments := saved
    activeDeployment := active
    saved := saved
    logins := [] }

/-- The list is written as it is at this moment. -/
def saveDeployments (session : SessionManager) : SessionManager :=
  { session with saved := session.deployments.map Deployment.persisted }

/-- The client is configured before the request is sent. -/
def login (session : SessionManager) (url token : String) : SessionManager :=
  { session with
    client := (session.client.setBaseUrl url).setSessionToken token
    logins := session.logins ++ [⟨url, token⟩] }

/-- The completion handler of a login whose request failed. -/
def loginFailed (session : SessionManager) : SessionManager :=
  { session with client := session.client.setSessionToken "" }

/-- The completion handler of a login whose request succeeded. -/
def loginSucceeded (session : SessionManager) (login : Login) (user : User)
    (storing : ChangeOutcome) (now : Int) : SessionManager :=
  let dep := Deployment.ofLogin login.url user now
  saveDeployments { session with
    storage := (session.storage.storeToken login.url login.token storing).1
    deployments := replaceDeployment dep (session.deployments.map Deployment.deactivate)
    activeDeployment := dep }

/-- Client, token and active deployment go, whether or not the removal works. -/
def logout (session : SessionManager) (removing : ChangeOutcome) : SessionManager :=
  saveDeployments { session with
    storage :=
      if session.activeDeployment.url ≠ "" then
        (session.storage.removeToken session.activeDeployment.url removing).1
      else session.storage
    client := (session.client.setSessionToken "").setBaseUrl ""
    deployments := session.deployments.map fun entry =>
      if entry.url = session.activeDeployment.url then entry.deactivate else entry
    activeDeployment := .none }

/-- Nothing happens without an entry for the URL and a token for it. -/
def switchDeployment (session : SessionManager) (url : String) (lookup : LookupOutcome) :
    SessionManager × List SessionSignal :=
  match session.deployments.findIdx? (·.url = url) with
  | none => (session, [])
  | some index =>
      let token := session.storage.retrieveToken url lookup
      if token = "" then (session, [.loginFailed ("No stored token for " ++ url)])
      else
        (saveDeployments { session with
          deployments := (session.deployments.map Deployment.deactivate).modify index .activate
          activeDeployment := (session.deployments[index]?.map Deployment.activate).getD .none
          client := (session.client.setBaseUrl url).setSessionToken token },
          [.authStateChanged])

/-- If it is the active one, the client goes too. -/
def removeDeployment (session : SessionManager) (url : String) (removing : ChangeOutcome) :
    SessionManager × List SessionSignal :=
  let removed := { session with
    storage := (session.storage.removeToken url removing).1
    deployments := session.deployments.filter (·.url ≠ url) }
  if session.activeDeployment.url = url then
    (saveDeployments { removed with
      activeDeployment := .none
      client := (session.client.setSessionToken "").setBaseUrl "" }, [.authStateChanged])
  else
    (saveDeployments removed, [])

/-- One step of the session and the signals it emits. -/
def step (session : SessionManager) : SessionEvent → Option (SessionManager × List SessionSignal)
  | .login url token => some (session.login url token, [])
  | .loginFinished index reply storing now =>
      session.logins[index]?.map fun login =>
        let answered := { session with logins := session.logins.eraseIdx index }
        match reply with
        | .error err => (answered.loginFailed, [.loginFailed err])
        | .ok body =>
            (answered.loginSucceeded login (.fromJson body) storing now,
              [.authStateChanged, .loginSucceeded (User.fromJson body).username])
  | .logout removing => some (session.logout removing, [.authStateChanged])
  | .switchDeployment url lookup => some (session.switchDeployment url lookup)
  | .removeDeployment url removing => some (session.removeDeployment url removing)

end SessionManager

end CoderDesktop.Data
