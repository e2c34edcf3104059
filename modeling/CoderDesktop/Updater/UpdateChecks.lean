import CoderDesktop.Semantics.Run
import CoderDesktop.Settings.LockedSettings
import CoderDesktop.Updater.AutoUpdater

/-!
# Checking for updates

`AutoUpdater` with its timers, the requests it has under way and the settings it asks.
A check is made by the single shot of the constructor, by the periodic timer or by a
caller; its reply comes at any later time, and several may be outstanding. The history
keeps what was emitted.

The constructor gives the periodic timer its interval and does not start it.
-/

namespace CoderDesktop.Updater

open Semantics Settings

/-- The updater's versions, its flag and its timer. -/
structure AutoUpdater where
  currentVersion : String
  latestVersion : String
  downloadUrl : String
  updateReady : Bool
  /-- `m_timer.isActive()` -/
  timerActive : Bool
deriving DecidableEq, Repr

/-- The signals of the updater. -/
inductive UpdateSignal where
  | updateAvailable (version url : String)
  | checkFinished
deriving DecidableEq, Repr

namespace AutoUpdater

/-- No update is known, and the timer does not run. -/
def new (currentVersion : String) : AutoUpdater := ⟨currentVersion, "", "", false, false⟩

/-- The address of the first asset, or of the release page. -/
def assetUrl (root : List (String × Json)) : String :=
  let url :=
    match (Json.value root "assets").toArray with
    | [] => ""
    | first :: _ => (Json.value first.toObject "browser_download_url").toText
  if url = "" then (Json.value root "html_url").toText else url

/-- A reply: the error's text, or the document of the body, `none` if it is not JSON. -/
def onReplyFinished (updater : AutoUpdater) (reply : Except String (Option Json)) :
    AutoUpdater × UpdateSignal :=
  match reply with
  | .error _ => (updater, .checkFinished)
  | .ok (some (.object root)) =>
      let tagName := (Json.value root "tag_name").toText
      if tagName = "" then (updater, .checkFinished)
      else if isNewerVersion updater.currentVersion tagName then
        ({ updater with
            latestVersion := tagName, downloadUrl := assetUrl root, updateReady := true },
          .updateAvailable tagName (assetUrl root))
      else (updater, .checkFinished)
  | .ok _ => (updater, .checkFinished)

/-- The interval is in milliseconds. -/
def setCheckInterval (updater : AutoUpdater) (interval : Int) : AutoUpdater :=
  { updater with timerActive := 0 < interval }

end AutoUpdater

/-- `SettingsManager::checkForUpdates` -/
def checkForUpdates (settings : SettingsManager) : Bool :=
  (settings.resolve "checkForUpdates" (.bool true)).toBool

/-- The updater with the settings and the requests it waits for. -/
structure UpdateWorld where
  settings : SettingsManager
  updater : AutoUpdater
  /-- The single shot has not fired yet. -/
  singleShot : Bool
  /-- Requests under way; all ask for the same. -/
  requests : Nat
  /-- History. -/
  signals : List UpdateSignal

/-- The settings change, timers fire, a check is asked for, replies arrive. -/
inductive UpdateEvent where
  | settings (event : SettingsEvent)
  | singleShot
  /-- The periodic timer fires. -/
  | timeout
  | checkNow
  | setCheckInterval (interval : Int)
  | replied (reply : Except String (Option Json))

namespace UpdateWorld

/-- The first check is scheduled. -/
def startup (settings : SettingsManager) (currentVersion : String) : UpdateWorld :=
  ⟨settings, .new currentVersion, true, 0, []⟩

/-- `checkNow` -/
def checkNow (world : UpdateWorld) : UpdateWorld :=
  if ¬ checkForUpdates world.settings then
    { world with signals := world.signals ++ [.checkFinished] }
  else
    { world with requests := world.requests + 1 }

/-- One event, where it can happen. -/
def next (world : UpdateWorld) : UpdateEvent → Option UpdateWorld
  | .settings event => some { world with settings := (world.settings.apply event).1 }
  | .singleShot =>
      if world.singleShot then some (checkNow { world with singleShot := false }) else none
  | .timeout => if world.updater.timerActive then some world.checkNow else none
  | .checkNow => some world.checkNow
  | .setCheckInterval interval =>
      some { world with updater := world.updater.setCheckInterval interval }
  | .replied reply =>
      if 0 < world.requests then
        let handled := world.updater.onReplyFinished reply
        some { world with
          updater := handled.1
          requests := world.requests - 1
          signals := world.signals ++ [handled.2] }
      else none

end UpdateWorld

/-- The event makes a check. -/
def UpdateEvent.checks : UpdateEvent → Bool
  | .singleShot | .timeout | .checkNow => true
  | .settings _ | .setCheckInterval _ | .replied _ => false

/-- The single shot of the constructor. -/
def UpdateEvent.isShot : UpdateEvent → Bool
  | .singleShot => true
  | .settings _ | .timeout | .checkNow | .setCheckInterval _ | .replied _ => false

/-- The update that was announced last. -/
def announced (signals : List UpdateSignal) : Option (String × String) :=
  signals.foldl (fun last signal =>
    match signal with
    | .updateAvailable version url => some (version, url)
    | .checkFinished => last) none

/-- What is true of the updater after the events of a run. -/
structure Checked (currentVersion : String) (events : List UpdateEvent) (world : UpdateWorld) :
    Prop where
  version : world.updater.currentVersion = currentVersion
  /-- Every check made is answered by one signal, or its request is under way. -/
  answered : events.countP UpdateEvent.checks = world.signals.length + world.requests
  /-- What is offered is what was announced last: it is never withdrawn. -/
  offered : (if world.updater.updateReady then
      some (world.updater.latestVersion, world.updater.downloadUrl) else none) =
    announced world.signals
  /-- Only newer versions are announced. -/
  newer : ∀ version url, .updateAvailable version url ∈ world.signals →
    isNewerVersion currentVersion version = true
  /-- The periodic timer runs only after it was given an interval. -/
  periodic : world.updater.timerActive = true → ∃ interval, 0 < interval ∧
    .setCheckInterval interval ∈ events
  timeout : .timeout ∈ events → ∃ interval, 0 < interval ∧ .setCheckInterval interval ∈ events
  /-- The single shot fires once. -/
  once : events.countP UpdateEvent.isShot = if world.singleShot then 0 else 1

/-- The last announcement counts. -/
theorem announced_snoc (signals : List UpdateSignal) (signal : UpdateSignal) :
    announced (signals ++ [signal]) =
      match signal with
      | .updateAvailable version url => some (version, url)
      | .checkFinished => announced signals := by
  cases signal <;> simp [announced]

namespace AutoUpdater

/-- A reply changes nothing but the finished check, or offers a newer version. -/
theorem onReplyFinished_cases (updater : AutoUpdater) (reply : Except String (Option Json)) :
    updater.onReplyFinished reply = (updater, .checkFinished) ∨
      ∃ version url, isNewerVersion updater.currentVersion version = true ∧
        updater.onReplyFinished reply =
          ({ updater with latestVersion := version, downloadUrl := url, updateReady := true },
            .updateAvailable version url) := by
  unfold onReplyFinished
  split
  · exact .inl rfl
  · dsimp only
    split
    · exact .inl rfl
    · split
      · exact .inr ⟨_, _, ‹_›, rfl⟩
      · exact .inl rfl
  · exact .inl rfl

end AutoUpdater

/-! ## Steps -/

section Steps

variable {currentVersion : String} {events : List UpdateEvent} {world : UpdateWorld}

/-- A check adds a signal or a request. -/
theorem checkNow_cases (world : UpdateWorld) :
    ∃ signals requests, world.checkNow =
        { world with signals := world.signals ++ signals, requests := world.requests + requests } ∧
      signals.length + requests = 1 ∧ ∀ signal ∈ signals, signal = .checkFinished := by
  unfold UpdateWorld.checkNow
  split
  · exact ⟨[.checkFinished], 0, rfl, rfl, by simp⟩
  · exact ⟨[], 1, by simp, rfl, by simp⟩

/-- A finished check announces nothing. -/
theorem announced_append_finished {signals more : List UpdateSignal}
    (finished : ∀ signal ∈ more, signal = .checkFinished) :
    announced (signals ++ more) = announced signals := by
  induction more using List.reverseRecOn with
  | nil => rw [List.append_nil]
  | append_singleton more signal inductionHypothesis =>
      obtain rfl := finished signal (by simp)
      rw [← List.append_assoc, announced_snoc]
      exact inductionHypothesis fun other member => finished other (List.mem_append_left _ member)

/-- A check that an event makes, and the single shot it may use up. -/
theorem Checked.check (checked : Checked currentVersion events world) {event : UpdateEvent}
    (checks : event.checks = true) {singleShot : Bool}
    (fires : event = .timeout → world.updater.timerActive = true)
    (once : (if singleShot then 0 else 1) =
      (if world.singleShot then 0 else 1) + if event.isShot then 1 else 0) :
    Checked currentVersion (events ++ [event])
      (UpdateWorld.checkNow { world with singleShot }) := by
  obtain ⟨signals, requests, shape, one, finished⟩ :=
    checkNow_cases { world with singleShot }
  rw [shape]
  refine ⟨checked.version, ?_, ?_, fun version url member => ?_, fun active => ?_, fun member => ?_,
    ?_⟩
  · have answered := checked.answered
    simp only [List.countP_append, List.countP_singleton, checks, if_true, List.length_append]
    omega
  · rw [announced_append_finished finished]
    exact checked.offered
  · rcases List.mem_append.mp member with old | new
    · exact checked.newer version url old
    · cases finished _ new
  · obtain ⟨interval, positive, given⟩ := checked.periodic active
    exact ⟨interval, positive, List.mem_append_left _ given⟩
  · have given : ∃ interval, 0 < interval ∧ .setCheckInterval interval ∈ events := by
      rcases List.mem_append.mp member with old | new
      · exact checked.timeout old
      · exact checked.periodic (fires (List.mem_singleton.mp new).symm)
    obtain ⟨interval, positive, given⟩ := given
    exact ⟨interval, positive, List.mem_append_left _ given⟩
  · rw [List.countP_append, List.countP_singleton, checked.once, once]

/-- An event that makes no check and leaves the single shot. -/
theorem Checked.keep (checked : Checked currentVersion events world) {event : UpdateEvent}
    (silent : event.checks = false) {after : UpdateWorld}
    (version : after.updater.currentVersion = currentVersion)
    (balance : after.signals.length + after.requests = world.signals.length + world.requests)
    (offered : (if after.updater.updateReady then
        some (after.updater.latestVersion, after.updater.downloadUrl) else none) =
      announced after.signals)
    (newer : ∀ version url, .updateAvailable version url ∈ after.signals →
      isNewerVersion currentVersion version = true)
    (timer : after.updater.timerActive = true → world.updater.timerActive = true ∨
      ∃ interval, 0 < interval ∧ event = .setCheckInterval interval)
    (singleShot : after.singleShot = world.singleShot) :
    Checked currentVersion (events ++ [event]) after := by
  have given (known : ∃ interval, 0 < interval ∧ .setCheckInterval interval ∈ events) :
      ∃ interval, 0 < interval ∧ .setCheckInterval interval ∈ events ++ [event] := by
    obtain ⟨interval, positive, member⟩ := known
    exact ⟨interval, positive, List.mem_append_left _ member⟩
  refine ⟨version, ?_, offered, newer, fun active => ?_, fun member => ?_, ?_⟩
  · rw [List.countP_append, List.countP_singleton, checked.answered, balance, silent]
    rfl
  · rcases timer active with before | ⟨interval, positive, rfl⟩
    · exact given (checked.periodic before)
    · exact ⟨interval, positive, List.mem_append_right _ (List.mem_singleton_self _)⟩
  · rcases List.mem_append.mp member with old | new
    · exact given (checked.timeout old)
    · rw [← List.mem_singleton.mp new] at silent
      cases silent
  · have notShot : event.isShot = false := by
      cases event <;> first | rfl | cases silent
    rw [List.countP_append, List.countP_singleton, checked.once, singleShot, notShot]
    rfl

/-- Every event keeps the updater with what it announced. -/
theorem Checked.next (checked : Checked currentVersion events world) {event : UpdateEvent}
    {after : UpdateWorld} (taken : world.next event = some after) :
    Checked currentVersion (events ++ [event]) after := by
  cases event with
  | settings event =>
      obtain rfl := Option.some.inj taken
      exact checked.keep rfl checked.version rfl checked.offered checked.newer .inl rfl
  | singleShot =>
      obtain ⟨pending, rfl⟩ := of_guarded taken
      exact checked.check rfl nofun (by simp [pending, UpdateEvent.isShot])
  | timeout =>
      obtain ⟨active, rfl⟩ := of_guarded taken
      exact checked.check rfl (fun _ => active) rfl
  | checkNow =>
      obtain rfl := Option.some.inj taken
      exact checked.check rfl nofun rfl
  | setCheckInterval interval =>
      obtain rfl := Option.some.inj taken
      exact checked.keep rfl checked.version rfl checked.offered checked.newer
        (fun active => .inr ⟨interval, of_decide_eq_true active, rfl⟩) rfl
  | replied reply =>
      obtain ⟨outstanding, rfl⟩ := of_guarded taken
      have balance (signal : UpdateSignal) : (world.signals ++ [signal]).length +
          (world.requests - 1) = world.signals.length + world.requests := by
        rw [List.length_append, List.length_singleton]
        omega
      rcases world.updater.onReplyFinished_cases reply with same | ⟨version, url, newer, offers⟩
      · rw [same]
        refine checked.keep rfl checked.version (balance _) ?_ (fun version url member => ?_)
          .inl rfl
        · rw [announced_snoc]
          exact checked.offered
        · exact checked.newer version url (by simpa using member)
      · rw [offers]
        refine checked.keep rfl checked.version (balance _) ?_ (fun other link member => ?_)
          .inl rfl
        · rw [announced_snoc]
          rfl
        · rcases List.mem_append.mp member with old | new
          · exact checked.newer other link old
          · obtain ⟨rfl, -⟩ := UpdateSignal.updateAvailable.inj (List.mem_singleton.mp new)
            exact checked.version ▸ newer

end Steps

/-! ## Results -/

/-- In every run each check is answered exactly once, what is offered is the update announced
last, and it is newer than the running version. Unless somebody sets an interval, the periodic
timer never fires, and there is one check besides those that callers make. -/
theorem updates_checked (settings : SettingsManager) (currentVersion : String)
    {events : List UpdateEvent} {world : UpdateWorld}
    (run : Runs UpdateWorld.next (.startup settings currentVersion) events world) :
    Checked currentVersion events world :=
  run.induct (Checked currentVersion)
    ⟨rfl, rfl, rfl, fun _ _ => List.not_mem_nil.elim, fun active => (by cases active),
      List.not_mem_nil.elim, rfl⟩
    (fun _ _ _ _ _ checked _ taken => checked.next taken) (conforms_true events)

/-- No request was ever sent. -/
structure Silent (world : UpdateWorld) : Prop where
  disabled : checkForUpdates world.settings = false
  requests : world.requests = 0
  signals : ∀ signal ∈ world.signals, signal = .checkFinished
  updateReady : world.updater.updateReady = false

/-- A check under the policy ends at once. -/
theorem Silent.checkNow {world : UpdateWorld} (silent : Silent world) : Silent world.checkNow := by
  have skipped : world.checkNow = { world with signals := world.signals ++ [.checkFinished] } := by
    simp [UpdateWorld.checkNow, silent.disabled]
  rw [skipped]
  refine ⟨silent.disabled, silent.requests, fun signal member => ?_, silent.updateReady⟩
  rcases List.mem_append.mp member with old | new
  · exact silent.signals signal old
  · exact List.mem_singleton.mp new

/-- Every event under the policy keeps it silent. -/
theorem Silent.next {world after : UpdateWorld} {event : UpdateEvent} (silent : Silent world)
    (fixed : ∀ change, checkForUpdates (world.settings.apply change).1 = false)
    (taken : world.next event = some after) : Silent after := by
  cases event with
  | settings event =>
      obtain rfl := Option.some.inj taken
      exact ⟨fixed event, silent.requests, silent.signals, silent.updateReady⟩
  | singleShot =>
      obtain ⟨-, rfl⟩ := of_guarded taken
      exact Silent.checkNow ⟨silent.disabled, silent.requests, silent.signals, silent.updateReady⟩
  | timeout =>
      obtain ⟨-, rfl⟩ := of_guarded taken
      exact silent.checkNow
  | checkNow =>
      obtain rfl := Option.some.inj taken
      exact silent.checkNow
  | setCheckInterval interval =>
      obtain rfl := Option.some.inj taken
      exact ⟨silent.disabled, silent.requests, silent.signals, silent.updateReady⟩
  | replied reply =>
      obtain ⟨outstanding, -⟩ := of_guarded taken
      rw [silent.requests] at outstanding
      exact absurd outstanding (Nat.lt_irrefl 0)

@[simp] theorem settings_checkNow (world : UpdateWorld) :
    world.checkNow.settings = world.settings := by
  unfold UpdateWorld.checkNow
  split <;> rfl

/-- The policy stays. -/
theorem mdm_next {world after : UpdateWorld} {event : UpdateEvent}
    (taken : world.next event = some after) : after.settings.mdm = world.settings.mdm := by
  cases event with
  | settings event =>
      obtain rfl := Option.some.inj taken
      exact SettingsManager.apply_mdm _ _
  | checkNow | setCheckInterval _ =>
      obtain rfl := Option.some.inj taken
      simp
  | singleShot | timeout | replied _ =>
      obtain ⟨-, rfl⟩ := of_guarded taken
      simp

/-- A policy value for the key decides, whatever the user does. -/
theorem checkForUpdates_of_policy {settings : SettingsManager}
    (enabled : settings.mdm.enabled = true)
    (off : settings.mdm.value "checkForUpdates" = .bool false) :
    checkForUpdates settings = false := by
  rw [checkForUpdates, SettingsManager.resolve_of_valid enabled (by rw [off]; rfl), off]
  rfl

/-- Under a policy that switches updates off nothing is ever asked for or offered, whatever the
user sets, whoever asks for a check and however the timers are set. -/
theorem policy_silences_updates (policy : Option Json) (userSettings : String → Option QVariant)
    (currentVersion : String) (enabled : (MdmConfigManager.parse policy).enabled = true)
    (off : (MdmConfigManager.parse policy).value "checkForUpdates" = .bool false)
    {events : List UpdateEvent} {world : UpdateWorld}
    (run : Runs UpdateWorld.next (.startup (.start policy userSettings) currentVersion) events
      world) :
    world.requests = 0 ∧ world.updater.updateReady = false ∧
      ∀ signal ∈ world.signals, signal = .checkFinished := by
  have held := run.induct (fun _ world => world.settings.mdm = .parse policy ∧ Silent world)
    ⟨rfl, checkForUpdates_of_policy enabled off, rfl, fun _ => List.not_mem_nil.elim, rfl⟩
    (fun _ world event after _ held _ taken => ?_) (conforms_true events)
  · exact ⟨held.2.requests, held.2.updateReady, held.2.signals⟩
  · obtain ⟨mdm, silent⟩ := held
    refine ⟨(mdm_next taken).trans mdm, silent.next (fun change => ?_) taken⟩
    refine checkForUpdates_of_policy ?_ ?_ <;> rw [SettingsManager.apply_mdm, mdm]
    · exact enabled
    · exact off

/-! ## Runs -/

/-- A release that is newer than 1.2.0. -/
def newRelease : Json :=
  .object [("tag_name", .string "v1.10.0"), ("html_url", .string "https://example.com/release"),
    ("assets", .array [])]

/-- A release is found, checks are switched off, and the last reply is an error. -/
def offeredTwice : List UpdateEvent :=
  [.singleShot, .setCheckInterval 1000, .timeout, .replied (.ok (some newRelease)),
    .settings (.setUserPreference "checkForUpdates" (.bool false)), .checkNow,
    .replied (.error "timeout")]

/-- The run, checked. -/
theorem updates_checked_offeredTwice :
    ∃ world, Runs UpdateWorld.next (.startup (.start none fun _ => none) "1.2.0") offeredTwice
        world ∧ world.updater.latestVersion = "v1.10.0" ∧
      Checked "1.2.0" offeredTwice world := by
  have reached : (replay UpdateWorld.next (.startup (.start none fun _ => none) "1.2.0")
      offeredTwice).any (fun world => world.updater.latestVersion = "v1.10.0") = true := by
    decide +kernel
  obtain ⟨world, run, observed⟩ := runs_of_replay _ reached
  exact ⟨world, run, of_decide_eq_true observed, updates_checked _ _ run⟩

/-- A policy without updates. -/
def noUpdates : Option Json :=
  some (.object [("version", .number 1), ("settings", .object [("checkForUpdates",
    .object [("value", .bool false), ("locked", .bool true)])])])

/-- A policy against checks, which the user tries to override. -/
theorem policy_silences_updates_locked :
    ∃ world, Runs UpdateWorld.next (.startup (.start noUpdates fun _ => none) "1.2.0")
        [.singleShot, .settings (.setUserPreference "checkForUpdates" (.bool true)), .checkNow]
        world ∧ world.signals.length = 2 ∧
      world.requests = 0 ∧ world.updater.updateReady = false ∧
        ∀ signal ∈ world.signals, signal = .checkFinished := by
  have reached : (replay UpdateWorld.next (.startup (.start noUpdates fun _ => none) "1.2.0")
      [.singleShot, .settings (.setUserPreference "checkForUpdates" (.bool true)),
        .checkNow]).any (fun world => world.signals.length = 2) = true := by
    decide +kernel
  obtain ⟨world, run, observed⟩ := runs_of_replay _ reached
  exact ⟨world, run, of_decide_eq_true observed,
    policy_silences_updates noUpdates (fun _ => none) "1.2.0" (by decide) rfl run⟩

end CoderDesktop.Updater
