import CoderDesktop.Api.CoderApiClient
import CoderDesktop.Data.SecureStorage

/-!
# The browser login

`LoginFlowController` finds out the scheme of a deployment, shows its login page, and
takes the session token from a cookie or from a script of the page. Replies, cookies
and script results come at any time, and the handlers are told neither which flow nor
which page they belong to.
-/

namespace CoderDesktop.Auth

/-- The schemes a probe tries. -/
inductive Scheme where
  | https
  | http
deriving DecidableEq, Repr

/-- The scheme in front of a host. -/
def Scheme.text : Scheme → String
  | .https => "https://"
  | .http => "http://"

/-- The results of `QNetworkReply::error` that are told apart. -/
inductive ReplyError where
  | noError
  | authenticationRequiredError
  | contentAccessDenied
  | contentNotFoundError
  | internalServerError
  | other
deriving DecidableEq, Repr

/-- An HTTP-level response: the server is there. -/
def ReplyError.answered : ReplyError → Bool
  | .noError | .authenticationRequiredError | .contentAccessDenied | .contentNotFoundError
  | .internalServerError => true
  | .other => false

/-- The path a probe asks for. -/
def kProbeEndpoint : String := "/api/v2/buildinfo"

/-- The cookie the session token comes in. -/
def kSessionCookieName : String := "coder_session_token"

/-- A probe under way. -/
structure Probe where
  scheme : Scheme
  host : String
  /-- History: the `startFlow` it goes back to. -/
  start : Nat
deriving DecidableEq, Repr

/-- What a probe asks for. -/
def Probe.url (probe : Probe) : String :=
  probe.scheme.text ++ probe.host ++ kProbeEndpoint

/-- The fields of the controller, with the probes that have no reply yet. -/
structure LoginFlowController where
  /-- The build has Qt WebEngine. -/
  webEngine : Bool
  deploymentUrl : String
  loginUrl : String
  /-- The host being probed, without a scheme. -/
  pendingHost : String
  flowActive : Bool
  probing : Bool
  probes : List Probe
  /-- History: the number of `startFlow` calls that named a deployment. -/
  starts : Nat
deriving DecidableEq, Repr

/-- A page of the embedded browser. -/
structure Page where
  /-- The base URL of the site the page is from. -/
  site : String
  /-- The flow it was loaded in. -/
  flow : Nat
deriving DecidableEq, Repr

/-- What the flow reads of a cookie. -/
structure Cookie where
  name : String
  value : List UInt8
deriving DecidableEq, Repr

/-- The handlers of cookies and results are not given the page. -/
inductive LoginFlowEvent where
  | startFlow (deploymentUrl : String)
  | cancelFlow
  | probeFinished (probe : Nat) (error : ReplyError)
  | cookieAdded (page : Page) (cookie : Cookie)
  | jsTokenResult (page : Page) (token : String)

/-- Calls and signals, in order. -/
inductive LoginFlowAction where
  | continueStartFlow (resolvedBaseUrl : String)
  | login (url token : String)
  | clearCookies
  | probingChanged
  | probeFailed (errorMessage : String)
  | loginUrlChanged
  | flowActiveChanged
  | externalBrowserOpened (cliAuthUrl : String)
  | tokenObtained (deploymentUrl token : String)
deriving DecidableEq, Repr

/-- The URL names its scheme. -/
def hasScheme (url : String) : Bool :=
  Scheme.http.text.toList.isPrefixOf url.toList || Scheme.https.text.toList.isPrefixOf url.toList

namespace LoginFlowController

/-- No flow is active. -/
def new (webEngine : Bool) : LoginFlowController where
  webEngine := webEngine
  deploymentUrl := ""
  loginUrl := ""
  pendingHost := ""
  flowActive := false
  probing := false
  probes := []
  starts := 0

variable (controller : LoginFlowController)

/-- The address `openExternalCliAuth` opens. -/
def cliAuthUrl (deploymentUrl : String) : String :=
  let base := Api.normalised deploymentUrl
  (if hasScheme base then base else "https://" ++ base) ++ "/cli-auth"

/-- `clearCookies`, in a build that has it. -/
def clearCookies : List LoginFlowAction :=
  if controller.webEngine then [.clearCookies] else []

/-- With Qt WebEngine the login page is loaded; without it an external browser opens. -/
def continueStartFlow (resolvedBaseUrl : String) :
    LoginFlowController × List LoginFlowAction :=
  if controller.webEngine then
    ({ controller with
        deploymentUrl := resolvedBaseUrl
        loginUrl := resolvedBaseUrl ++ "/login"
        flowActive := true },
      [.continueStartFlow resolvedBaseUrl, .clearCookies, .loginUrlChanged, .flowActiveChanged])
  else
    ({ controller with deploymentUrl := resolvedBaseUrl },
      [.continueStartFlow resolvedBaseUrl, .externalBrowserOpened (cliAuthUrl resolvedBaseUrl)])

/-- The host is asked with HTTPS first. -/
def probeScheme (hostWithoutScheme : String) : LoginFlowController × List LoginFlowAction :=
  ({ controller with
      pendingHost := hostWithoutScheme
      probing := true
      probes := controller.probes ++ [⟨.https, hostWithoutScheme, controller.starts⟩] },
    [.probingChanged])

/-- Without a scheme the host is probed, and the flow goes on with the answer. -/
def startFlow (deploymentUrl : String) : LoginFlowController × List LoginFlowAction :=
  let base := Api.normalised deploymentUrl
  if base = "" then (controller, [])
  else
    let started := { controller with starts := controller.starts + 1 }
    if hasScheme base then started.continueStartFlow base else started.probeScheme base

/-- The probed scheme is taken for the host pending by now. -/
def resolved (scheme : Scheme) : LoginFlowController × List LoginFlowAction :=
  let result := { controller with probing := false }.continueStartFlow
    (scheme.text ++ controller.pendingHost)
  (result.1, .probingChanged :: result.2)

/-- The handler of the first reply; the second request goes to the host pending by now. -/
def httpsFinished (probe : Probe) (error : ReplyError) :
    LoginFlowController × List LoginFlowAction :=
  if controller.probing = false then (controller, [])
  else if error.answered then controller.resolved .https
  else
    ({ controller with
        probes := controller.probes ++ [⟨.http, controller.pendingHost, probe.start⟩] }, [])

/-- The second probe fails only while one is still wanted. -/
def httpFinished (error : ReplyError) : LoginFlowController × List LoginFlowAction :=
  if controller.probing = false then (controller, [])
  else if error.answered then controller.resolved .http
  else
    ({ controller with probing := false },
      [.probingChanged,
        .probeFailed "Could not reach server. Check the URL and try again."])

/-- The reply to a probe, by its scheme. -/
def probeFinished (probe : Probe) (error : ReplyError) :
    LoginFlowController × List LoginFlowAction :=
  match probe.scheme with
  | .https => controller.httpsFinished probe error
  | .http => controller.httpFinished error

/-- The flow ends. Probes under way are left. -/
def cancelFlow : LoginFlowController × List LoginFlowAction :=
  ({ controller with
      flowActive := false
      loginUrl := ""
      deploymentUrl := ""
      probing := false
      pendingHost := if controller.probing then "" else controller.pendingHost },
    (if controller.probing then [LoginFlowAction.probingChanged] else []) ++
      controller.clearCookies ++ [LoginFlowAction.loginUrlChanged, .flowActiveChanged])

/-- What both handlers do with a token while a flow is active. -/
def capture (token : String) : LoginFlowController × List LoginFlowAction :=
  if controller.flowActive = false then (controller, [])
  else if token = "" then (controller, [])
  else
    ({ controller with flowActive := false, loginUrl := "" },
      [LoginFlowAction.login controller.deploymentUrl token, .loginUrlChanged, .flowActiveChanged,
        .tokenObtained controller.deploymentUrl token] ++ controller.clearCookies)

/-- What the script found is captured as a token. -/
def handleJsTokenResult (token : String) : LoginFlowController × List LoginFlowAction :=
  controller.capture token

/-- The slot of `cookieAdded`, connected in a build with WebEngine. -/
def handleCookieAdded (cookie : Cookie) : LoginFlowController × List LoginFlowAction :=
  if controller.webEngine = false then (controller, [])
  else if cookie.name ≠ kSessionCookieName then (controller, [])
  else controller.capture (Data.fromUtf8 cookie.value)

/-- An event, where it can come. -/
def step : LoginFlowEvent → Option (LoginFlowController × List LoginFlowAction)
  | .startFlow deploymentUrl => some (controller.startFlow deploymentUrl)
  | .cancelFlow => some controller.cancelFlow
  | .probeFinished index error =>
      controller.probes[index]?.map fun probe =>
        { controller with probes := controller.probes.eraseIdx index }.probeFinished probe error
  | .cookieAdded _ cookie => some (controller.handleCookieAdded cookie)
  | .jsTokenResult _ token => some (controller.handleJsTokenResult token)

end LoginFlowController

end CoderDesktop.Auth
