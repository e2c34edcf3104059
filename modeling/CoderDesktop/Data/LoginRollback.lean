import CoderDesktop.Data.SessionManager

/-!
# What a failed login leaves behind

A login configures the client before its request is sent, and the handler of a failure
rolls back by clearing the token alone. The base URL stays that of the login, and a
token the client had before is lost.
-/

namespace CoderDesktop.Data

open Settings Api

/-- A request as `buildRequest` makes it, by its URL and the `Coder-Session-Token` header. -/
structure Request where
  url : String
  sessionToken : Option String
deriving DecidableEq, Repr

/-- The header is left out without a token. -/
def buildRequest (client : CoderApiClient) (path : String) : Request where
  url := client.baseUrl ++ path
  sessionToken := if client.sessionToken ≠ "" then some client.sessionToken else none

/-- A request carries the client's token. -/
theorem sessionToken_buildRequest (client : CoderApiClient) (path : String) :
    (buildRequest client path).sessionToken.getD "" = client.sessionToken := by
  simp only [buildRequest]
  split
  · rfl
  · next noToken => exact (not_ne_iff.mp noToken).symm

/-- The requests tell one client from another. -/
theorem buildRequest_eq_iff {client other : CoderApiClient} {path : String} :
    buildRequest client path = buildRequest other path ↔ client = other := by
  constructor
  · intro same
    have sameUrl : client.baseUrl = other.baseUrl := by
      have joined := congrArg (fun request => request.url.toList) same
      simp only [buildRequest, String.toList_append] at joined
      exact String.toList_inj.mp (List.append_cancel_right joined)
    have sameToken : client.sessionToken = other.sessionToken := by
      rw [← sessionToken_buildRequest client path, same, sessionToken_buildRequest]
    obtain ⟨baseUrl, sessionToken⟩ := client
    obtain rfl : baseUrl = other.baseUrl := sameUrl
    obtain rfl : sessionToken = other.sessionToken := sameToken
    rfl
  · rintro rfl
    rfl

namespace SessionManager

/-- The fields of a session a caller of `login` can observe are as they were. -/
structure Restored (session after : SessionManager) : Prop where
  client : after.client = session.client
  activeDeployment : after.activeDeployment = session.activeDeployment
  deployments : after.deployments = session.deployments
  storage : after.storage = session.storage
  saved : after.saved = session.saved

/-- A login whose request ends in an error before any other operation of the session. -/
def failedLogin (session : SessionManager) (url token err : String) (storing : ChangeOutcome)
    (now : Int) : Option (SessionManager × List SessionSignal) :=
  (session.step (.login url token)).bind fun asked =>
    asked.1.step (.loginFinished session.logins.length (.error err) storing now)

variable (session : SessionManager) (url token err : String) (storing : ChangeOutcome) (now : Int)

/-- Nothing but the client changes: it has the URL of the login and no token. -/
theorem failedLogin_eq :
    session.failedLogin url token err storing now =
      some ({ session with client := ⟨normalised url, ""⟩ }, [.loginFailed err]) := by
  have asked : (session.logins ++ [(⟨url, token⟩ : Login)])[session.logins.length]? =
      some ⟨url, token⟩ := by
    rw [List.getElem?_append_right (Nat.le_refl _), Nat.sub_self]
    rfl
  have answered : (session.logins ++ [(⟨url, token⟩ : Login)]).eraseIdx session.logins.length =
      session.logins := by
    rw [List.eraseIdx_append_of_length_le (Nat.le_refl _), Nat.sub_self]
    simp
  simp only [failedLogin, step, Option.bind_some, login, asked, Option.map_some, answered]
  rfl

/-- A failed login changes nothing exactly when the client had no token and its base URL
already was that of the login. -/
theorem failedLogin_restored_iff :
    (∃ after signals, session.failedLogin url token err storing now = some (after, signals) ∧
        session.Restored after) ↔
      session.client.baseUrl = normalised url ∧ session.client.sessionToken = "" := by
  constructor
  · rintro ⟨after, signals, failed, restored⟩
    rw [failedLogin_eq, Option.some_inj, Prod.mk.injEq] at failed
    obtain ⟨rfl, -⟩ := failed
    have client : (⟨normalised url, ""⟩ : CoderApiClient) = session.client := restored.client
    rw [← client]
    exact ⟨rfl, rfl⟩
  · rintro ⟨sameUrl, noToken⟩
    refine ⟨_, _, session.failedLogin_eq url token err storing now, ?_, rfl, rfl, rfl, rfl⟩
    rw [← sameUrl, ← noToken]

/-- The next request goes to the deployment the login failed at, and carries no token. -/
theorem buildRequest_failedLogin {after : SessionManager} {signals : List SessionSignal}
    (failed : session.failedLogin url token err storing now = some (after, signals))
    (path : String) :
    buildRequest after.client path = ⟨normalised url ++ path, none⟩ := by
  rw [failedLogin_eq, Option.some_inj, Prod.mk.injEq] at failed
  obtain ⟨rfl, -⟩ := failed
  simp [buildRequest]

/-- So requests stay the same only where the failed login changed nothing. -/
theorem sameRequest_failedLogin_iff {after : SessionManager} {signals : List SessionSignal}
    (failed : session.failedLogin url token err storing now = some (after, signals))
    (path : String) :
    buildRequest after.client path = buildRequest session.client path ↔
      session.Restored after := by
  rw [buildRequest_eq_iff]
  rw [failedLogin_eq, Option.some_inj, Prod.mk.injEq] at failed
  obtain ⟨rfl, -⟩ := failed
  exact ⟨fun client => ⟨client, rfl, rfl, rfl, rfl⟩, Restored.client⟩

end SessionManager

/-- Logged in at one deployment, a mistyped token for another leaves the client with the
other's URL and without a token. -/
theorem failedLogin_elsewhere_not_restored :
    let session : SessionManager :=
      { client := ⟨"https://a.dev", "secret"⟩
        storage :=
          ⟨.libSecret, fun url => if url = "https://a.dev" then some "secret" else none, none⟩
        deployments := [⟨"1", "https://a.dev", "https://a.dev", "ann", "", true, 0⟩]
        activeDeployment := ⟨"1", "https://a.dev", "https://a.dev", "ann", "", true, 0⟩
        saved := [⟨"1", "https://a.dev", "https://a.dev", "ann", "", true, 0⟩]
        logins := [] }
    ¬ ∃ after signals,
      session.failedLogin "https://b.dev" "mistyped" "Host requires authentication"
          ⟨true, true, .written⟩ 0 = some (after, signals) ∧
        session.Restored after := by
  rintro session ⟨after, signals, failed, restored⟩
  rw [SessionManager.failedLogin_eq, Option.some_inj, Prod.mk.injEq] at failed
  obtain ⟨rfl, -⟩ := failed
  have noToken : "" = "secret" := congrArg CoderApiClient.sessionToken restored.client
  exact absurd noToken (by decide)

end CoderDesktop.Data
