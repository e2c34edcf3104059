import Mathlib.Data.List.DropRight

/-!
# The API client's credentials

`CoderApiClient` sends every request with the base URL and the session token it
holds at that moment.
-/

namespace CoderDesktop.Api

/-- A URL without its trailing slashes. -/
def normalised (url : String) : String :=
  String.ofList (url.toList.rdropWhile (· = '/'))

/-- The session every request of the client carries. -/
structure CoderApiClient where
  baseUrl : String
  sessionToken : String
deriving DecidableEq, Repr

namespace CoderApiClient

/-- A client without a deployment. -/
def new : CoderApiClient := ⟨"", ""⟩

/-- The URL is kept without the slashes at its end. -/
def setBaseUrl (client : CoderApiClient) (url : String) : CoderApiClient :=
  { client with baseUrl := normalised url }

/-- The token goes into the header of every later request. -/
def setSessionToken (client : CoderApiClient) (token : String) : CoderApiClient :=
  { client with sessionToken := token }

/-- The client has a token. -/
def isAuthenticated (client : CoderApiClient) : Bool :=
  client.sessionToken ≠ ""

@[simp] theorem baseUrl_setBaseUrl (client : CoderApiClient) (url : String) :
    (client.setBaseUrl url).baseUrl = normalised url := rfl

@[simp] theorem sessionToken_setBaseUrl (client : CoderApiClient) (url : String) :
    (client.setBaseUrl url).sessionToken = client.sessionToken := rfl

@[simp] theorem baseUrl_setSessionToken (client : CoderApiClient) (token : String) :
    (client.setSessionToken token).baseUrl = client.baseUrl := rfl

@[simp] theorem sessionToken_setSessionToken (client : CoderApiClient) (token : String) :
    (client.setSessionToken token).sessionToken = token := rfl

end CoderApiClient

@[simp] theorem normalised_empty : normalised "" = "" := by decide

end CoderDesktop.Api
