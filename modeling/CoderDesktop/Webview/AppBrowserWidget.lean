import CoderDesktop.Vpn.Peers

/-!
# The URLs of workspace applications

`AppBrowserWidget::buildAppUrl`. While the tunnel is up the host of an application's URL is
replaced by the name of the agent in the tailnet, which is also the name the helper
announces; but the helper takes its last part from the deployment. `QUrl` is not part of
the repository: its functions are a parameter.
-/

namespace CoderDesktop.Webview

open Vpn (formatHostname hostnameSuffix)

/-- The components of a valid `QUrl`. -/
@[ext]
structure QUrl where
  scheme : String
  userInfo : String
  host : String
  port : Int
  path : String
  query : Option String
  fragment : Option String
deriving DecidableEq, Repr

/-- The functions of `QUrl`; where the URL is not valid they yield `none`. -/
structure UrlFunctions where
  ofString : String → Option QUrl
  setHost : QUrl → String → Option QUrl
  setPath : QUrl → String → Option QUrl
  toString : QUrl → String

/-- `QUrl::toString`: a URL that is not valid has no text. -/
def UrlFunctions.text (qt : UrlFunctions) : Option QUrl → String
  | none => ""
  | some url => qt.toString url

/-- `"%1.%2.me.coder"` -/
def tailnetHostname (agentName workspaceName : String) : String :=
  agentName ++ "." ++ workspaceName ++ ".me.coder"

/-- `"/@%1/%2/apps/%3"` -/
def proxyPath (ownerName workspaceName appSlug : String) : String :=
  "/@" ++ ownerName ++ "/" ++ workspaceName ++ "/apps/" ++ appSlug

/-- The URL an app is opened under. -/
def buildAppUrl (qt : UrlFunctions)
    (deploymentUrl appUrl appSlug workspaceName ownerName agentName : String)
    (vpnActive isExternal : Bool) : String :=
  if isExternal then appUrl
  else
    match if vpnActive ∧ appUrl ≠ "" then qt.ofString appUrl else none with
    | some parsed => qt.text (qt.setHost parsed (tailnetHostname agentName workspaceName))
    | none =>
        match qt.ofString deploymentUrl with
        | none => ""
        | some base =>
            if base.scheme = "" then ""
            else qt.text (qt.setPath base (proxyPath ownerName workspaceName appSlug))

/-! ## Host names -/

/-- The full stops that separate the labels of a host name. -/
def isFullStop (letter : Char) : Bool :=
  letter = '.' || letter = '\u3002' || letter = '\uff0e' || letter = '\uff61'

/-- The full stops of a host name. -/
def fullStops (text : String) : Nat := text.toList.countP isFullStop

/-- Full stops add up. -/
theorem fullStops_append (first second : String) :
    fullStops (first ++ second) = fullStops first + fullStops second := by
  unfold fullStops
  rw [String.toList_append, List.countP_append]

/-- A text ends in one label. -/
theorem label_eq {front other label last : List Char} (plain : '.' ∉ label)
    (plainLast : '.' ∉ last) (same : front ++ '.' :: label = other ++ '.' :: last) :
    label = last := by
  rcases List.append_eq_append_iff.mp same with ⟨gap, -, ends⟩ | ⟨gap, -, ends⟩
  · cases gap with
    | nil => exact (List.cons.inj ends).2
    | cons letter rest =>
        have inLabel : label = rest ++ '.' :: last := (List.cons.inj ends).2
        simp [inLabel] at plain
  · cases gap with
    | nil => exact (List.cons.inj ends).2.symm
    | cons letter rest =>
        have inLast : last = rest ++ '.' :: label := (List.cons.inj ends).2
        simp [inLast] at plainLast

/-- A suffix without a full stop, in a name that ends in ".coder". -/
theorem suffix_eq_of_ends {front other suffix : String} (plain : fullStops suffix = 0)
    (same : front ++ "." ++ suffix = other ++ ".coder") : suffix = "coder" := by
  have noStop : '.' ∉ suffix.toList := by
    intro member
    have counted := List.countP_eq_zero.mp plain '.' member
    exact counted rfl
  apply String.toList_inj.mp
  apply label_eq noStop (show '.' ∉ "coder".toList by decide)
  have texts := congrArg String.toList same
  simpa [String.toList_append] using texts

/-! ## What is relied on of `QUrl` -/

/-- `setHost` changes the host alone and yields no other URL than one whose text reads back.
It maps the labels of a name one by one, and keeps "coder" as the last one. -/
structure Documented (qt : UrlFunctions) : Prop where
  empty : qt.ofString "" = none
  hostOnly : ∀ {url name after}, qt.setHost url name = some after →
    after = { url with host := after.host }
  labels : ∀ {url front after}, qt.setHost url (front ++ ".coder") = some after →
    ∃ labels, after.host = labels ++ ".coder" ∧ fullStops labels = fullStops front
  readsBack : ∀ {text url name after}, qt.ofString text = some url →
    qt.setHost url name = some after → qt.ofString (qt.toString after) = some after

/-- The name is the host as it stands. -/
def TakesHost (qt : UrlFunctions) (url : QUrl) (name : String) : Prop :=
  (qt.setHost url name).map QUrl.host = some name

instance (qt : UrlFunctions) (url : QUrl) (name : String) : Decidable (TakesHost qt url name) :=
  inferInstanceAs (Decidable (_ = _))

section VpnMode

variable {qt : UrlFunctions} {appUrl : String} {url : QUrl}

/-- Under the VPN the app's URL gets the agent's host. -/
theorem buildAppUrl_vpn (nonempty : appUrl ≠ "") (valid : qt.ofString appUrl = some url)
    (deploymentUrl appSlug workspaceName ownerName agentName : String) :
    buildAppUrl qt deploymentUrl appUrl appSlug workspaceName ownerName agentName true false =
      qt.text (qt.setHost url (tailnetHostname agentName workspaceName)) := by
  simp [buildAppUrl, nonempty, valid]

/-- What is read back of the text is the URL that the host was set of. -/
theorem ofString_text (documented : Documented qt) (valid : qt.ofString appUrl = some url)
    (name : String) : qt.ofString (qt.text (qt.setHost url name)) = qt.setHost url name := by
  cases set : qt.setHost url name with
  | none => exact documented.empty
  | some after => exact documented.readsBack valid set

/-- The tailnet host name has the labels that the helper's has, up to the suffix. -/
theorem suffix_of_served (documented : Documented qt) {agentName workspaceName suffix : String}
    (named : workspaceName ≠ "")
    (served : qt.setHost url (tailnetHostname agentName workspaceName) =
      some { url with host := formatHostname agentName workspaceName suffix }) :
    suffix = "coder" := by
  have grouped : tailnetHostname agentName workspaceName =
      agentName ++ "." ++ workspaceName ++ ".me" ++ ".coder" := by
    apply String.toList_inj.mp
    simp [tailnetHostname]
  rw [grouped] at served
  obtain ⟨labels, host, sameStops⟩ := documented.labels served
  have parted : agentName ++ "." ++ workspaceName ++ ".me" ++ "." ++ suffix =
      labels ++ ".coder" := by
    rw [← host]
    apply String.toList_inj.mp
    simp [formatHostname, named]
  apply suffix_eq_of_ends _ parted
  have counted := congrArg fullStops parted
  rw [fullStops_append, fullStops_append, fullStops_append labels, sameStops] at counted
  have dot : fullStops "." = 1 := rfl
  have coder : fullStops ".coder" = 1 := rfl
  omega

/-- While the tunnel is up, the URL of an application is its own with the host that the
helper announces, if and only if the deployment's suffix is "coder" and the name is one
that `QUrl` takes as it stands. -/
theorem app_url_served_iff (documented : Documented qt) (nonempty : appUrl ≠ "")
    (valid : qt.ofString appUrl = some url) {workspaceName : String} (named : workspaceName ≠ "")
    (deploymentUrl appSlug ownerName agentName reported : String) :
    qt.ofString (buildAppUrl qt deploymentUrl appUrl appSlug workspaceName ownerName agentName
        true false) =
      some { url with host := formatHostname agentName workspaceName (hostnameSuffix reported) } ↔
    hostnameSuffix reported = "coder" ∧
      TakesHost qt url (agentName ++ "." ++ workspaceName ++ ".me.coder") := by
  rw [buildAppUrl_vpn nonempty valid, ofString_text documented valid]
  have same : formatHostname agentName workspaceName "coder" =
      tailnetHostname agentName workspaceName := by
    apply String.toList_inj.mp
    simp [formatHostname, tailnetHostname, named]
  constructor
  · intro served
    have suffix := suffix_of_served documented named served
    refine ⟨suffix, ?_⟩
    rw [suffix, same] at served
    exact congrArg (Option.map QUrl.host) served
  · rintro ⟨suffix, takes⟩
    obtain ⟨after, set, host⟩ := Option.map_eq_some_iff.mp takes
    rw [suffix, same]
    have kept := documented.hostOnly set
    rw [host] at kept
    exact set.trans (congrArg some kept)

end VpnMode

/-! ## The URLs of one application -/

/-- `http://host:8080/lab?reset#top` -/
def labUrl (host : String) : QUrl := ⟨"http", "", host, 8080, "/lab", some "reset", some "top"⟩

/-- The part of the example's URL before its host. -/
def labFront : List Char := "http://".toList

/-- The part of the example's URL after its host. -/
def labBack : List Char := ":8080/lab?reset#top".toList

/-- A host name in lower case, which `QUrl` takes as it stands. -/
def isPlainHost (host : List Char) : Bool :=
  !host.isEmpty &&
    host.all fun letter => letter.isLower || letter.isDigit || letter = '-' || letter = '.'

/-- What stands between the scheme and the port. -/
def labHost (text : String) : List Char :=
  (text.toList.drop labFront.length).take (text.toList.length - labFront.length - labBack.length)

/-- The functions of `QUrl`, for one application and plain hosts. -/
def labUrls : UrlFunctions where
  ofString text :=
    if text.toList = labFront ++ (labHost text ++ labBack) ∧ isPlainHost (labHost text) then
      some (labUrl (String.ofList (labHost text)))
    else none
  setHost url name :=
    if url = labUrl url.host ∧ isPlainHost name.toList then some (labUrl name) else none
  setPath url path := if path.toList.head? = some '/' then some { url with path } else none
  toString url := String.ofList (labFront ++ (url.host.toList ++ labBack))

/-- The host between the two parts is found. -/
theorem labHost_ofList (host : List Char) :
    labHost (String.ofList (labFront ++ (host ++ labBack))) = host := by
  unfold labHost
  rw [String.toList_ofList, List.drop_left, List.length_append, List.length_append,
    show labFront.length + (host.length + labBack.length) - labFront.length - labBack.length =
      host.length by omega, List.take_left]

/-- Setting the host leaves the parts around it. -/
theorem labUrls_setHost {url after : QUrl} {name : String}
    (set : labUrls.setHost url name = some after) :
    url = labUrl url.host ∧ isPlainHost name.toList = true ∧ after = labUrl name := by
  simp only [labUrls] at set
  split at set
  · rename_i plain
    exact ⟨plain.1, plain.2, (Option.some.inj set).symm⟩
  · cases set

/-- The example behaves as QUrl is documented to. -/
theorem labUrls_documented : Documented labUrls where
  empty := by decide
  hostOnly set := by
    obtain ⟨shape, -, rfl⟩ := labUrls_setHost set
    rw [shape]
    rfl
  labels set := by
    obtain ⟨-, -, rfl⟩ := labUrls_setHost set
    exact ⟨_, rfl, rfl⟩
  readsBack {_ _ name _} _ set := by
    obtain ⟨-, plain, rfl⟩ := labUrls_setHost set
    have written := labHost_ofList (labUrl name).host.toList
    simp only [labUrls, written, String.toList_ofList, String.ofList_toList, true_and]
    exact if_pos plain

/-- A deployment that reports no suffix. -/
theorem app_url_served_lab :
    labUrls.ofString (buildAppUrl labUrls "https://dev.example"
        "http://localhost:8080/lab?reset#top" "lab" "dev" "alice" "main" true false) =
      some (labUrl "main.dev.me.coder") :=
  (app_url_served_iff labUrls_documented (by decide)
    (show labUrls.ofString "http://localhost:8080/lab?reset#top" = some (labUrl "localhost") by
      decide) (by decide) "https://dev.example" "lab" "alice" "main" "").mpr
    ⟨by decide, by decide⟩

/-- A deployment whose suffix is "corp": the helper announces "main.dev.me.corp". -/
theorem app_url_not_served :
    ¬ ∀ reported agentName workspaceName : String, workspaceName ≠ "" →
      labUrls.ofString (buildAppUrl labUrls "https://dev.example"
        "http://localhost:8080/lab?reset#top" "lab" workspaceName "alice" agentName true false) =
        some (labUrl (formatHostname agentName workspaceName (hostnameSuffix reported))) := by
  intro served
  have corp := served "corp" "main" "dev" (by decide)
  revert corp
  decide

end CoderDesktop.Webview
