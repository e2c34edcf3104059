import CoderDesktop.Data.SessionManager
import CoderDesktop.Semantics.Run

/-!
# Agreement of session and client

`Provenance` records, next to the session, which tokens came for which URL: from a
login, or from the storage. The client never pairs a base URL with the token of
another one (`Sourced`). Whether its base URL is that of the active deployment once
no login is outstanding depends on the reply that comes last: a failed login leaves
its URL behind, and a successful one takes the client as it finds it.
-/

namespace CoderDesktop.Data

open Semantics Settings Api

/-- The session, with the tokens it was supplied with. -/
structure Provenance where
  session : SessionManager
  /-- Normalised URLs, each with a token a login or the storage supplied for it. -/
  supplied : List (String × String)

/-- The token an event brings, and the URL it is for. -/
def SessionManager.supplies (session : SessionManager) : SessionEvent → List (String × String)
  | .login url token => [(normalised url, token)]
  | .switchDeployment url lookup =>
      if (∃ entry ∈ session.deployments, entry.url = url) ∧
          session.storage.retrieveToken url lookup ≠ "" then
        [(normalised url, session.storage.retrieveToken url lookup)]
      else []
  | .loginFinished _ _ _ _ | .logout _ | .removeDeployment _ _ => []

namespace Provenance

/-- The session is restored, with the token the storage has. -/
def new (storage : SecureStorage) (saved : List Deployment) (lookup : LookupOutcome) :
    Provenance where
  session := .new storage saved lookup
  supplied :=
    let url := (SessionManager.loadDeployments saved).url
    let token := storage.retrieveToken url lookup
    if url ≠ "" ∧ token ≠ "" then [(normalised url, token)] else []

/-- A step of the session, with what it supplies. -/
def next (world : Provenance) (event : SessionEvent) : Option Provenance :=
  (world.session.step event).map fun result =>
    ⟨result.1, world.supplied ++ world.session.supplies event⟩

/-- The client has nothing and there is no deployment, or it has the deployment's URL
and a token supplied for it. -/
def AgreesOn (world : Provenance) (client : CoderApiClient) (url : String) : Prop :=
  (url = "" ∧ client.baseUrl = "" ∧ client.sessionToken = "") ∨
    (client.baseUrl = normalised url ∧ (normalised url, client.sessionToken) ∈ world.supplied)

/-- While no login is under way, the client agrees with the active deployment. -/
def Agree (world : Provenance) : Prop :=
  world.session.logins = [] →
    world.AgreesOn world.session.client world.session.activeDeployment.url

/-- The token of the client, if it has one, was supplied for its base URL. -/
def Sourced (world : Provenance) : Prop :=
  world.session.client.sessionToken = "" ∨
    (world.session.client.baseUrl, world.session.client.sessionToken) ∈ world.supplied

/-- The reply to the only login outstanding finds the client in place. After a
success, it still has the URL of that login and a token. After a failure, the URL it
has is that of the active deployment, and no token is what was supplied for it. -/
def FindsClientInPlace (world : Provenance) : SessionEvent → Prop
  | .loginFinished _ (.ok _) _ _ =>
      ∀ login, world.session.logins = [login] →
        (login.url = "" ∧ world.session.client = .new) ∨
          (world.session.client.baseUrl = normalised login.url ∧
            (world.session.client.sessionToken = "" → (normalised login.url, "") ∈ world.supplied))
  | .loginFinished _ (.error _) _ _ =>
      ∀ login, world.session.logins = [login] →
        (world.session.activeDeployment.url = "" ∧ world.session.client.baseUrl = "") ∨
          (world.session.client.baseUrl = normalised world.session.activeDeployment.url ∧
            (normalised world.session.activeDeployment.url, "") ∈ world.supplied)
  | .login _ _ | .logout _ | .switchDeployment _ _ | .removeDeployment _ _ => True

/-- The deployment that was active has a token that can be read. -/
def RestoresToken (storage : SecureStorage) (saved : List Deployment) (lookup : LookupOutcome) :
    Prop :=
  let url := (SessionManager.loadDeployments saved).url
  url ≠ "" → storage.retrieveToken url lookup ≠ ""

end Provenance

/-! ## What an operation does to the client and the active deployment -/

namespace SessionManager

variable (session : SessionManager)

@[simp] theorem client_saveDeployments : session.saveDeployments.client = session.client := rfl

@[simp] theorem activeDeployment_saveDeployments :
    session.saveDeployments.activeDeployment = session.activeDeployment := rfl

@[simp] theorem logins_saveDeployments : session.saveDeployments.logins = session.logins := rfl

/-- A switch does nothing, or makes the client and the active deployment those of the URL. -/
theorem switchDeployment_cases (url : String) (lookup : LookupOutcome) :
    (session.switchDeployment url lookup).1 = session ∨
      ((∃ entry ∈ session.deployments, entry.url = url) ∧
        session.storage.retrieveToken url lookup ≠ "" ∧
        (session.switchDeployment url lookup).1.client =
          (session.client.setBaseUrl url).setSessionToken
            (session.storage.retrieveToken url lookup) ∧
        (session.switchDeployment url lookup).1.activeDeployment.url = url ∧
        (session.switchDeployment url lookup).1.logins = session.logins) := by
  unfold switchDeployment
  cases found : session.deployments.findIdx? (·.url = url) with
  | none => exact .inl rfl
  | some index =>
      simp only
      by_cases noToken : session.storage.retrieveToken url lookup = ""
      · exact .inl (by rw [if_pos noToken])
      · rw [if_neg noToken]
        obtain ⟨bound, matching, -⟩ := List.findIdx?_eq_some_iff_getElem.mp found
        have sameUrl : session.deployments[index].url = url := of_decide_eq_true matching
        refine .inr ⟨⟨_, List.getElem_mem bound, sameUrl⟩, noToken, rfl, ?_, rfl⟩
        simp [Deployment.activate, sameUrl, List.getElem?_eq_getElem bound]

/-- Removing the active deployment empties the client; removing another one leaves it. -/
theorem removeDeployment_cases (url : String) (removing : ChangeOutcome) :
    (session.removeDeployment url removing).1.logins = session.logins ∧
      (((session.removeDeployment url removing).1.client = .new ∧
          (session.removeDeployment url removing).1.activeDeployment = .none) ∨
        ((session.removeDeployment url removing).1.client = session.client ∧
          (session.removeDeployment url removing).1.activeDeployment =
            session.activeDeployment)) := by
  unfold removeDeployment
  by_cases active : session.activeDeployment.url = url
  · simp only [if_pos active]
    exact ⟨rfl, .inl ⟨by simp [CoderApiClient.setBaseUrl, CoderApiClient.setSessionToken,
      CoderApiClient.new], rfl⟩⟩
  · simp only [if_neg active]
    exact ⟨rfl, .inr ⟨rfl, rfl⟩⟩

/-- After a logout the client is new. -/
theorem client_logout (removing : ChangeOutcome) : (session.logout removing).client = .new := by
  simp [logout, CoderApiClient.setBaseUrl, CoderApiClient.setSessionToken, CoderApiClient.new]

@[simp] theorem client_loginFailed :
    session.loginFailed.client = session.client.setSessionToken "" := rfl

@[simp] theorem activeDeployment_loginFailed :
    session.loginFailed.activeDeployment = session.activeDeployment := rfl

@[simp] theorem logins_loginFailed : session.loginFailed.logins = session.logins := rfl

section LoginSucceeded

variable (login : Login) (user : User) (storing : ChangeOutcome) (now : Int)

@[simp] theorem client_loginSucceeded :
    (session.loginSucceeded login user storing now).client = session.client := rfl

@[simp] theorem url_activeDeployment_loginSucceeded :
    (session.loginSucceeded login user storing now).activeDeployment.url = login.url := rfl

@[simp] theorem logins_loginSucceeded :
    (session.loginSucceeded login user storing now).logins = session.logins := rfl

end LoginSucceeded

end SessionManager

/-- Answering a login leaves none exactly when it was the only one. -/
theorem eraseIdx_eq_nil_iff_singleton {logins : List Login} {index : Nat} {login : Login}
    (found : logins[index]? = some login) : logins.eraseIdx index = [] ↔ logins = [login] := by
  rw [List.eraseIdx_eq_nil_iff]
  constructor
  · rintro (rfl | ⟨single, rfl⟩)
    · cases found
    · obtain ⟨only, rfl⟩ := List.length_eq_one_iff.mp single
      obtain rfl := Option.some.inj found
      rfl
  · rintro rfl
    obtain ⟨bound, -⟩ := List.getElem?_eq_some_iff.mp found
    exact .inr ⟨rfl, Nat.lt_one_iff.mp bound⟩

/-- With one pending login found, only it matters. -/
theorem forall_only_iff {logins : List Login} {index : Nat} {login : Login}
    (found : logins[index]? = some login) {property : Login → Prop} :
    (∀ other, logins = [other] → property other) ↔ (logins = [login] → property login) := by
  refine ⟨fun every => every login, fun property other only => ?_⟩
  subst only
  obtain ⟨bound, same⟩ := List.getElem?_eq_some_iff.mp found
  obtain rfl : other = login := by simpa using same
  exact property rfl

namespace Provenance

variable {world after : Provenance}

/-! ## The client's token belongs to its URL -/

/-- A restored token comes from the storage. -/
theorem sourced_new (storage : SecureStorage) (saved : List Deployment) (lookup : LookupOutcome) :
    (new storage saved lookup).Sourced := by
  simp only [new, SessionManager.new]
  split
  · exact .inr (List.mem_singleton.mpr rfl)
  · exact .inl rfl

/-- Only the client matters. -/
theorem Sourced.of_client {session : SessionManager} (sourced : world.Sourced)
    (same : session.client = world.session.client) (more : List (String × String)) :
    Sourced ⟨session, world.supplied ++ more⟩ := by
  rw [Sourced, same]
  exact sourced.imp_right (List.mem_append_left more)

/-- No operation gives the client a token that came for another URL. -/
theorem sourced_step {event : SessionEvent} (sourced : world.Sourced)
    (taken : world.next event = some after) : after.Sourced := by
  obtain ⟨⟨session, signals⟩, step, rfl⟩ := Option.map_eq_some_iff.mp taken
  cases event with
  | login url token =>
      obtain rfl := (Prod.mk.inj (Option.some.inj step)).1
      exact .inr (List.mem_append_right _ (List.mem_singleton.mpr rfl))
  | loginFinished index reply storing now =>
      obtain ⟨login, -, answered⟩ := Option.map_eq_some_iff.mp step
      cases reply with
      | error err =>
          obtain rfl := (Prod.mk.inj answered).1
          exact .inl rfl
      | ok body =>
          obtain rfl := (Prod.mk.inj answered).1
          exact sourced.of_client rfl _
  | logout removing =>
      obtain rfl := (Prod.mk.inj (Option.some.inj step)).1
      exact .inl rfl
  | switchDeployment url lookup =>
      obtain rfl := congrArg Prod.fst (Option.some.inj step)
      rcases world.session.switchDeployment_cases url lookup with
        same | ⟨listed, hasToken, client, -, -⟩
      · exact sourced.of_client (congrArg _ same) _
      · refine .inr (List.mem_append_right _ ?_)
        simp only [SessionManager.supplies, if_pos (And.intro listed hasToken), client]
        exact List.mem_singleton.mpr rfl
  | removeDeployment url removing =>
      obtain rfl := congrArg Prod.fst (Option.some.inj step)
      rcases (world.session.removeDeployment_cases url removing).2 with ⟨client, -⟩ | ⟨client, -⟩
      · exact .inl (congrArg _ client)
      · exact sourced.of_client client _

/-- Whatever logins race, the client only ever has a token of the URL it talks to. -/
theorem sourced_of_runs {storage : SecureStorage} {saved : List Deployment}
    {lookup : LookupOutcome} {events : List SessionEvent}
    (run : Runs next (new storage saved lookup) events world) : world.Sourced :=
  run.invariant (sourced_new storage saved lookup) fun _ _ _ sourced taken =>
    sourced_step sourced taken

/-- A client whose token belongs to its URL agrees with a deployment when the URLs do. -/
theorem Sourced.agreesOn_iff (sourced : world.Sourced) (url : String) :
    world.AgreesOn world.session.client url ↔
      (url = "" ∧ world.session.client = .new) ∨
        (world.session.client.baseUrl = normalised url ∧
          (world.session.client.sessionToken = "" → (normalised url, "") ∈ world.supplied)) := by
  refine or_congr ?_ (and_congr_right fun sameUrl => ?_)
  · cases client : world.session.client with
    | mk baseUrl sessionToken => simp [CoderApiClient.new]
  · constructor
    · intro supplied noToken
      exact noToken ▸ supplied
    · intro supplied
      rcases sourced with noToken | fromUrl
      · rw [noToken]
        exact supplied noToken
      · exact sameUrl ▸ fromUrl

/-! ## Agreement -/

/-- A session that is restored agrees exactly when its token is restored. -/
theorem agree_new_iff (storage : SecureStorage) (saved : List Deployment)
    (lookup : LookupOutcome) :
    (new storage saved lookup).Agree ↔ RestoresToken storage saved lookup := by
  by_cases restored : (SessionManager.loadDeployments saved).url ≠ "" ∧
      storage.retrieveToken (SessionManager.loadDeployments saved).url lookup ≠ ""
  · refine iff_of_true (fun _ => .inr ?_) (fun _ => restored.2)
    simp [new, SessionManager.new, if_pos restored]
  · have unsupplied : (new storage saved lookup).supplied = [] := if_neg restored
    have client : (new storage saved lookup).session.client = .new := if_neg restored
    constructor
    · intro agree
      rcases agree rfl with ⟨noUrl, -, -⟩ | ⟨-, supplied⟩
      · exact fun url => absurd noUrl url
      · rw [unsupplied] at supplied
        cases supplied
    · intro restores _
      rw [client]
      refine .inl ⟨?_, rfl, rfl⟩
      by_contra url
      exact restored ⟨url, restores url⟩

/-- More tokens supplied do not matter. -/
theorem AgreesOn.of_subset {other : Provenance} {client : CoderApiClient} {url : String}
    (agrees : world.AgreesOn client url) (more : world.supplied ⊆ other.supplied) :
    other.AgreesOn client url :=
  agrees.imp_right (And.imp_right (more ·))

/-- A reply matters when it answers the only login outstanding. -/
theorem agree_answered_iff {session : SessionManager} {index : Nat} {login : Login}
    (found : world.session.logins[index]? = some login)
    (left : session.logins = world.session.logins.eraseIdx index)
    (more : List (String × String)) :
    Agree ⟨session, world.supplied ++ more⟩ ↔ (world.session.logins = [login] →
      AgreesOn ⟨session, world.supplied ++ more⟩ session.client session.activeDeployment.url) := by
  rw [Agree, left, eraseIdx_eq_nil_iff_singleton found]

/-- What decides, at each step, whether session and client agree. -/
theorem agree_step_iff {event : SessionEvent} (sourced : world.Sourced) (agree : world.Agree)
    (taken : world.next event = some after) : after.Agree ↔ world.FindsClientInPlace event := by
  obtain ⟨⟨session, signals⟩, step, rfl⟩ := Option.map_eq_some_iff.mp taken
  cases event with
  | login url token =>
      obtain rfl := (Prod.mk.inj (Option.some.inj step)).1
      refine iff_of_true (fun none => ?_) trivial
      exact absurd none (List.append_ne_nil_of_right_ne_nil _ (List.cons_ne_nil _ _))
  | loginFinished index reply storing now =>
      obtain ⟨login, found, answered⟩ := Option.map_eq_some_iff.mp step
      cases reply with
      | error err =>
          obtain rfl := (Prod.mk.inj answered).1
          rw [agree_answered_iff found rfl, FindsClientInPlace, forall_only_iff found]
          simp only [AgreesOn, SessionManager.supplies, List.append_nil,
            SessionManager.client_loginFailed, SessionManager.activeDeployment_loginFailed,
            CoderApiClient.baseUrl_setSessionToken, CoderApiClient.sessionToken_setSessionToken,
            and_true]
      | ok body =>
          obtain rfl := (Prod.mk.inj answered).1
          rw [agree_answered_iff found rfl, FindsClientInPlace, forall_only_iff found]
          simp only [SessionManager.supplies, List.append_nil]
          exact imp_congr_right fun _ => sourced.agreesOn_iff login.url
  | logout removing =>
      obtain rfl := (Prod.mk.inj (Option.some.inj step)).1
      refine iff_of_true (fun _ => ?_) trivial
      rw [SessionManager.client_logout]
      exact .inl ⟨rfl, rfl, rfl⟩
  | switchDeployment url lookup =>
      obtain rfl := congrArg Prod.fst (Option.some.inj step)
      refine iff_of_true (fun none => ?_) trivial
      rcases world.session.switchDeployment_cases url lookup with
        same | ⟨listed, hasToken, client, active, -⟩
      · rw [same] at none ⊢
        exact (agree none).of_subset (List.subset_append_left _ _)
      · rw [client, active]
        refine .inr ⟨rfl, List.mem_append_right _ ?_⟩
        simp only [SessionManager.supplies, if_pos (And.intro listed hasToken)]
        exact List.mem_singleton.mpr rfl
  | removeDeployment url removing =>
      obtain rfl := congrArg Prod.fst (Option.some.inj step)
      refine iff_of_true (fun none => ?_) trivial
      obtain ⟨logins, change⟩ := world.session.removeDeployment_cases url removing
      rw [logins] at none
      rcases change with ⟨client, active⟩ | ⟨client, active⟩
      · rw [client, active]
        exact .inl ⟨rfl, rfl, rfl⟩
      · rw [client, active]
        exact (agree none).of_subset (List.subset_append_left _ _)

/-- Session and client agree whenever no login is outstanding exactly when the token of
the deployment restored at the start is found, and the last reply to come always finds
the client in place. -/
theorem agree_iff_findsClientInPlace (storage : SecureStorage) (saved : List Deployment)
    (lookup : LookupOutcome) (events : List SessionEvent) :
    (∀ world, Visits next (new storage saved lookup) events world → world.Agree) ↔
      RestoresToken storage saved lookup ∧
        Conforms next FindsClientInPlace (new storage saved lookup) events := by
  have exactly (start : (new storage saved lookup).Agree) :
      (∀ world, Visits next (new storage saved lookup) events world → world.Agree) ↔
        Conforms next FindsClientInPlace (new storage saved lookup) events :=
    visits_iff_conforms Sourced Agree (fun _ _ _ => sourced_step)
      (fun _ _ _ => agree_step_iff) (sourced_new storage saved lookup) start events
  rw [← agree_new_iff]
  constructor
  · intro everywhere
    have start := everywhere _ (Visits.initial events)
    exact ⟨start, (exactly start).mp everywhere⟩
  · rintro ⟨start, conforms⟩
    exact (exactly start).mpr conforms

/-- A failed login takes its token back and leaves its URL. -/
theorem failed_login_leaves_its_url :
    ¬ ∀ world, Visits next (new (.empty true) [] ⟨true, true⟩)
        [.login "https://dev.coder.com" "t1",
          .loginFinished 0 (.error "Host requires authentication") ⟨true, true, .written⟩ 0]
        world → world.Agree := by
  refine not_visits_of_replay (fun world => world.session.logins = [] ∧
    world.session.activeDeployment.url = "" ∧
      world.session.client.baseUrl = "https://dev.coder.com") (by decide) ?_
  intro world reached agree
  obtain ⟨none, active, base⟩ := of_decide_eq_true reached
  rcases agree none with ⟨-, noBase, -⟩ | ⟨sameBase, -⟩
  · rw [base] at noBase
    exact absurd noBase (by decide)
  · rw [base, active] at sameBase
    exact absurd sameBase (by decide)

end Provenance

end CoderDesktop.Data
