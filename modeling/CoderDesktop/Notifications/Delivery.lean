import CoderDesktop.Api.ChangeNotifications
import CoderDesktop.Notifications.NotificationManager
import CoderDesktop.Settings.LockedSettings

/-!
# From a change to the tray

The settings, the polling controller and the notification manager as `main` connects them: a
reply asks for notifications, the manager passes them on to the tray icon, and the setting
switches the manager on and off. `observed` is what the replies changed while the setting was
on. How the refresh interval is read from its setting plays no part.
-/

namespace CoderDesktop.Notifications

open Semantics Settings Api

/-- The setting, which is on by default. -/
def notificationsEnabled (settings : SettingsManager) : Bool :=
  (settings.resolve "notificationsEnabled" (.bool true)).toBool

variable (refreshIntervalSec : SettingsManager → Int)

/-- What the polling controller reads of the settings. -/
def pollingSettings (settings : SettingsManager) : PollingSettings where
  notificationsEnabled := notificationsEnabled settings
  refreshIntervalSec := refreshIntervalSec settings
  disableDataCache := settings.flag "disableDataCache"

/-- The settings, the polling and the notifications, as the application connects them. -/
structure Delivery where
  settings : SettingsManager
  polling : PollingController
  manager : NotificationManager
  /-- Every change that a reply brought while the setting was on. -/
  observed : List Notification

/-- The settings change, the controller polls, the tray icon comes or goes. -/
inductive DeliveryEvent where
  /-- A change of the settings, and which cache files can be removed. -/
  | settings (event : SettingsEvent) (removes : Resource → Bool)
  /-- A step of the controller, and the times the manager reads for each notification. -/
  | polling (event : PollingEvent) (clock : Nat → Int × Int)
  | setTrayIcon (present : Bool)

/-- The controller's own steps; it is told of settings by the wiring, and this is one run of
the application. -/
def ownStep : PollingEvent → Bool
  | .start _ | .stop | .tick | .refreshNow | .setBaseUrl _ | .setSessionToken _
  | .replied _ _ _ => true
  | .settingsChanged _ _ | .restart _ => false

/-- The manager is called for one notification after the other. -/
def notifyAll (manager : NotificationManager) (clock : Nat → Int × Int) :
    List Notification → NotificationManager
  | [] => manager
  | notification :: rest =>
      notifyAll (manager.notify notification (clock 0).1 (clock 0).2).1 (fun index =>
        clock (index + 1)) rest

/-- What a reply changes of the rows shown. -/
def replyChanges (polling : PollingController) : PollingEvent → List Notification
  | .replied index (.ok doc) _ =>
      ((polling.requests[index]?).map fun request => polling.changes doc request.resource).getD []
  | .replied _ (.error _) _ | .start _ | .stop | .tick | .refreshNow | .setBaseUrl _
  | .setSessionToken _ | .settingsChanged _ _ | .restart _ => []

namespace Delivery

/-- The application starts, with the settings and cache it finds. -/
def startup (settings : SettingsManager) (cache : String → Resource → Option (List Json))
    (suppressMs : Int) : Delivery where
  settings := settings
  polling := .new (pollingSettings refreshIntervalSec settings) cache
  manager := (NotificationManager.new suppressMs).setEnabled (notificationsEnabled settings)
  observed := []

/-- The two connections of `settingsChanged`. -/
def onSettingsChanged (world : Delivery) (removes : Resource → Bool) : Delivery :=
  { world with
    polling :=
      world.polling.settingsChanged (pollingSettings refreshIntervalSec world.settings) removes
    manager := world.manager.setEnabled (notificationsEnabled world.settings) }

/-- A reply's notifications reach the manager, changed settings reach both. -/
def next (world : Delivery) : DeliveryEvent → Option Delivery
  | .settings event removes =>
      let changed := { world with settings := (world.settings.apply event).1 }
      some (if (world.settings.apply event).2 then
        changed.onSettingsChanged refreshIntervalSec removes else changed)
  | .polling event clock =>
      if ownStep event then
        (world.polling.step event).map fun result =>
          { world with
            polling := result.1
            manager := notifyAll world.manager clock result.2
            observed :=
              if notificationsEnabled world.settings then
                world.observed ++ replyChanges world.polling event
              else world.observed }
      else none
  | .setTrayIcon present => some { world with manager := world.manager.setTrayIcon present }

end Delivery

/-! ## The manager -/

/-- What the tray shows of a notification. -/
def shownText (notification : Notification) : String × String :=
  (notification.title, notification.message)

section Notify

variable (manager : NotificationManager) (notification : Notification) (now cleanupNow : Int)

/-- One text more is shown at most. -/
theorem shown_sendViaTray (title message : String) :
    ∀ text ∈ (manager.sendViaTray title message).shown,
      text = (title, message) ∨ text ∈ manager.shown := by
  unfold NotificationManager.sendViaTray
  split
  · exact fun text member => List.mem_cons.mp member
  · exact fun text member => .inr member

/-- A call shows its own text, or nothing new; a manager that is off shows nothing new. -/
theorem shown_notify : ∀ text ∈ (manager.notify notification now cleanupNow).1.shown,
    (manager.enabled = true ∧ text = shownText notification) ∨ text ∈ manager.shown := by
  unfold NotificationManager.notify
  intro text member
  cases enabled : manager.enabled with
  | false => exact .inr (by simpa [enabled] using member)
  | true =>
      simp only [enabled, Bool.not_true, Bool.false_eq_true, if_false] at member
      split at member
      · exact .inr member
      · exact (shown_sendViaTray _ _ _ text member).imp_left fun same => ⟨rfl, same⟩

@[simp] theorem enabled_notify :
    (manager.notify notification now cleanupNow).1.enabled = manager.enabled := by
  unfold NotificationManager.notify
  cases enabled : manager.enabled with
  | false => simp [enabled]
  | true =>
      simp only [Bool.not_true, Bool.false_eq_true, if_false]
      split
      · exact enabled
      · simpa [NotificationManager.cleanupRecent] using enabled

end Notify

@[simp] theorem enabled_notifyAll (manager : NotificationManager) (clock : Nat → Int × Int)
    (notifications : List Notification) :
    (notifyAll manager clock notifications).enabled = manager.enabled := by
  induction notifications generalizing manager clock with
  | nil => rfl
  | cons notification rest inductionHypothesis =>
      rw [notifyAll, inductionHypothesis, enabled_notify]

/-- A text that is shown is of a notification, if the manager is enabled. -/
theorem shown_notifyAll (manager : NotificationManager) (clock : Nat → Int × Int)
    (notifications : List Notification) :
    ∀ text ∈ (notifyAll manager clock notifications).shown,
      (manager.enabled = true ∧ ∃ notification ∈ notifications, text = shownText notification) ∨
        text ∈ manager.shown := by
  induction notifications generalizing manager clock with
  | nil => exact fun text member => .inr member
  | cons notification rest inductionHypothesis =>
      intro text member
      rcases inductionHypothesis _ _ text member with ⟨enabled, later, among, same⟩ | before
      · rw [enabled_notify] at enabled
        exact .inl ⟨enabled, later, List.mem_cons_of_mem _ among, same⟩
      · rcases shown_notify _ _ _ _ text before with ⟨enabled, same⟩ | former
        · exact .inl ⟨enabled, notification, List.mem_cons_self, same⟩
        · exact .inr former

/-! ## The controller -/

/-- With the setting on, a step asks only for what its reply changed. -/
theorem notifications_step {polling : PollingController} {event : PollingEvent}
    {result : PollingController × List Notification}
    (enabled : polling.settings.notificationsEnabled = true)
    (stepped : polling.step event = some result) :
    ∀ notification ∈ result.2, notification ∈ replyChanges polling event := by
  intro notification asked
  cases event with
  | replied index reply saves =>
      cases reply with
      | error err =>
          have none := Watched.no_notifications (by intro _ _ _ same; cases same) stepped
          rw [none] at asked
          exact absurd asked List.not_mem_nil
      | ok doc =>
          obtain ⟨request, found, rfl⟩ := Option.map_eq_some_iff.mp stepped
          simp only [replyChanges, found, Option.map_some, Option.getD_some]
          rw [PollingController.notifications_handleReply
            { polling with requests := polling.requests.eraseIdx index } enabled] at asked
          split at asked
          · exact absurd asked List.not_mem_nil
          · exact asked
  | _ =>
      have none := Watched.no_notifications (by intro _ _ _ same; cases same) stepped
      rw [none] at asked
      exact absurd asked List.not_mem_nil

/-- Polling leaves the settings alone. -/
theorem settings_step {polling : PollingController} {event : PollingEvent}
    {result : PollingController × List Notification} (own : ownStep event = true)
    (stepped : polling.step event = some result) : result.1.settings = polling.settings := by
  cases event with
  | settingsChanged | restart => cases own
  | stop | refreshNow | setBaseUrl | setSessionToken =>
      obtain rfl := Option.some.inj stepped
      rfl
  | start opens =>
      obtain rfl := Option.some.inj stepped
      change (PollingController.loadCache _ opens).settings = _
      simp only [PollingController.loadCache]
      split <;> split <;> rfl
  | tick =>
      obtain ⟨-, rfl⟩ := of_guarded stepped
      rfl
  | replied index reply saves =>
      obtain ⟨request, -, rfl⟩ := Option.map_eq_some_iff.mp stepped
      unfold PollingController.handleReply
      split
      · unfold PollingController.requestFailed
        split <;> rfl
      · simp only [PollingController.handleWorkspacesReceived, PollingController.saveCache]
        split <;> rfl
      · simp only [PollingController.handleTasksReceived, PollingController.saveCache]
        split <;> rfl

/-! ## Runs -/

/-- Changed settings are taken over. -/
theorem settings_settingsChanged (polling : PollingController) (settings : PollingSettings)
    (removes : Resource → Bool) :
    (polling.settingsChanged settings removes).settings = settings := by
  unfold PollingController.settingsChanged
  dsimp only
  split <;> rfl

namespace Delivery

variable {world after : Delivery}

/-- Controller and manager follow the setting, and the tray shows observed changes only. -/
structure Sound (world : Delivery) : Prop where
  polling : world.polling.settings = pollingSettings refreshIntervalSec world.settings
  manager : world.manager.enabled = notificationsEnabled world.settings
  shown : ∀ text ∈ world.manager.shown, ∃ notification ∈ world.observed,
    text = shownText notification

variable {refreshIntervalSec}

/-- Nothing is shown at first. -/
theorem sound_startup (settings : SettingsManager)
    (cache : String → Resource → Option (List Json)) (suppressMs : Int) :
    (startup refreshIntervalSec settings cache suppressMs).Sound refreshIntervalSec :=
  ⟨rfl, rfl, fun _ => List.not_mem_nil.elim⟩

/-- A change of the settings is told to both, or there is none. -/
theorem Sound.settings (sound : world.Sound refreshIntervalSec) {event : SettingsEvent}
    {removes : Resource → Bool}
    (taken : world.next refreshIntervalSec (.settings event removes) = some after) :
    after.Sound refreshIntervalSec := by
  obtain rfl := Option.some.inj taken
  cases told : (world.settings.apply event).2 with
  | true => exact ⟨settings_settingsChanged _ _ _, rfl, sound.shown⟩
  | false =>
      have same := SettingsManager.apply_of_silent told
      simp only [Bool.false_eq_true, if_false, same]
      exact ⟨sound.polling, sound.manager, sound.shown⟩

/-- What a reply shows was observed. -/
theorem Sound.polling_step (sound : world.Sound refreshIntervalSec) {event : PollingEvent}
    {clock : Nat → Int × Int}
    (taken : world.next refreshIntervalSec (.polling event clock) = some after) :
    after.Sound refreshIntervalSec := by
  obtain ⟨own, taken⟩ := Option.ite_none_right_eq_some.mp taken
  obtain ⟨result, stepped, rfl⟩ := Option.map_eq_some_iff.mp taken
  refine ⟨(settings_step own stepped).trans sound.polling, ?_, fun text member => ?_⟩
  · rw [enabled_notifyAll]
    exact sound.manager
  · dsimp only
    rcases shown_notifyAll _ _ _ text member with ⟨enabled, notification, asked, same⟩ | former
    · rw [sound.manager] at enabled
      have reads : world.polling.settings.notificationsEnabled = true := by
        rw [sound.polling]
        exact enabled
      rw [if_pos enabled]
      exact ⟨notification, List.mem_append_right _ (notifications_step reads stepped _ asked), same⟩
    · obtain ⟨notification, seen, same⟩ := sound.shown text former
      refine ⟨notification, ?_, same⟩
      split
      · exact List.mem_append_left _ seen
      · exact seen

/-- Every event shows what was observed only. -/
theorem Sound.next (sound : world.Sound refreshIntervalSec) {event : DeliveryEvent}
    (taken : world.next refreshIntervalSec event = some after) :
    after.Sound refreshIntervalSec := by
  cases event with
  | settings event removes => exact sound.settings taken
  | polling event clock => exact sound.polling_step taken
  | setTrayIcon present =>
      obtain rfl := Option.some.inj taken
      exact ⟨sound.polling, sound.manager, sound.shown⟩

/-- Nothing is observed in a step that begins while the setting is off. -/
theorem observed_next (off : notificationsEnabled world.settings = false) {event : DeliveryEvent}
    (taken : world.next refreshIntervalSec event = some after) :
    after.observed = world.observed := by
  cases event with
  | settings event removes =>
      obtain rfl := Option.some.inj taken
      split <;> rfl
  | polling event clock =>
      obtain ⟨-, taken⟩ := Option.ite_none_right_eq_some.mp taken
      obtain ⟨result, -, rfl⟩ := Option.map_eq_some_iff.mp taken
      exact if_neg (Bool.eq_false_iff.mp off)
  | setTrayIcon present =>
      obtain rfl := Option.some.inj taken
      rfl

/-- The policy stays. -/
theorem mdm_next {event : DeliveryEvent}
    (taken : world.next refreshIntervalSec event = some after) :
    after.settings.mdm = world.settings.mdm := by
  cases event with
  | settings event removes =>
      obtain rfl := Option.some.inj taken
      split <;> exact SettingsManager.apply_mdm _ _
  | polling event clock =>
      obtain ⟨-, taken⟩ := Option.ite_none_right_eq_some.mp taken
      obtain ⟨result, -, rfl⟩ := Option.map_eq_some_iff.mp taken
      rfl
  | setTrayIcon present =>
      obtain rfl := Option.some.inj taken
      rfl

/-- Whatever the tray shows was a change that a reply brought while the setting was on. -/
theorem shown_was_observed (settings : SettingsManager)
    (cache : String → Resource → Option (List Json)) (suppressMs : Int)
    {events : List DeliveryEvent} {world : Delivery}
    (run : Runs (next refreshIntervalSec) (startup refreshIntervalSec settings cache suppressMs)
      events world) :
    ∀ text ∈ world.manager.shown, ∃ notification ∈ world.observed,
      text = shownText notification := by
  have sound : world.Sound refreshIntervalSec := run.invariant (sound_startup settings cache
    suppressMs) fun _ _ _ sound taken => sound.next taken
  exact sound.shown

/-- A policy against notifications prevails. -/
theorem notificationsEnabled_of_policy {settings : SettingsManager}
    (enabled : settings.mdm.enabled = true)
    (off : settings.mdm.value "notificationsEnabled" = .bool false) :
    notificationsEnabled settings = false := by
  rw [notificationsEnabled, SettingsManager.resolve_of_valid enabled (by rw [off]; rfl), off]
  rfl

/-- Under a policy that switches notifications off the tray never shows one, whatever the user
sets and whatever changes. -/
theorem policy_silences_notifications (policy : Option Json)
    (userSettings : String → Option QVariant)
    (cache : String → Resource → Option (List Json)) (suppressMs : Int)
    (enabled : (MdmConfigManager.parse policy).enabled = true)
    (off : (MdmConfigManager.parse policy).value "notificationsEnabled" = .bool false)
    {events : List DeliveryEvent} {world : Delivery}
    (run : Runs (next refreshIntervalSec)
      (startup refreshIntervalSec (.start policy userSettings) cache suppressMs) events world) :
    world.manager.shown = [] := by
  have held : world.settings.mdm = .parse policy ∧ world.observed = [] ∧
      world.Sound refreshIntervalSec := by
    refine run.induct (fun _ world => world.settings.mdm = .parse policy ∧ world.observed = [] ∧
      world.Sound refreshIntervalSec) ⟨rfl, rfl, sound_startup _ _ _⟩
      (fun _ before event next _ held _ taken => ?_) (conforms_true events)
    obtain ⟨mdm, none, sound⟩ := held
    refine ⟨(mdm_next taken).trans mdm, (observed_next ?_ taken).trans none, sound.next taken⟩
    refine notificationsEnabled_of_policy ?_ ?_ <;> rw [mdm]
    · exact enabled
    · exact off
  obtain ⟨-, none, sound⟩ := held
  refine List.eq_nil_iff_forall_not_mem.mpr fun text member => ?_
  obtain ⟨notification, seen, -⟩ := sound.shown text member
  rw [none] at seen
  exact List.not_mem_nil seen

/-! ## Runs -/

/-- A reply with one task. -/
def taskReply (status : String) : DeliveryEvent :=
  .polling (.replied 0 (.ok (.array [Watched.taskInStatus status])) false) fun _ => (0, 0)

/-- The workspaces are fetched once, the tasks twice. -/
def taskChanges : List DeliveryEvent :=
  [.setTrayIcon true, .polling .refreshNow fun _ => (0, 0),
    .polling (.replied 0 (.ok (.object [])) false) fun _ => (0, 0), taskReply "pending",
    .polling .refreshNow fun _ => (0, 0),
    .polling (.replied 0 (.error "timeout") false) fun _ => (0, 0), taskReply "active"]

/-- A task that changes is shown. -/
theorem shown_was_observed_taskChanges : ∃ world : Delivery,
    Runs (next fun _ => 10) (startup (fun _ => 10) (.start none fun _ => none)
      (fun _ _ => none) 60000) taskChanges world ∧
      world.manager.shown = [("Task: build", "Status changed")] ∧
      ∀ text ∈ world.manager.shown, ∃ notification ∈ world.observed,
        text = shownText notification := by
  have reached : (replay (next fun _ => 10) (startup (fun _ => 10) (.start none fun _ => none)
      (fun _ _ => none) 60000) taskChanges).any
      (fun world => world.manager.shown = [("Task: build", "Status changed")]) = true := by
    decide +kernel
  obtain ⟨world, run, observed⟩ := runs_of_replay _ reached
  exact ⟨world, run, of_decide_eq_true observed, shown_was_observed _ _ _ run⟩

/-- A policy without notifications. -/
def noNotifications : Option Json :=
  some (.object [("version", .number 1), ("settings", .object [("notificationsEnabled",
    .object [("value", .bool false), ("locked", .bool true)])])])

/-- The same change under a policy that the user tries to override. -/
theorem policy_silences_notifications_taskChanges : ∃ world : Delivery,
    Runs (next fun _ => 10) (startup (fun _ => 10) (.start noNotifications fun _ => none)
      (fun _ _ => none) 60000)
      (.settings (.setUserPreference "notificationsEnabled" (.bool true)) (fun _ => true) ::
        taskChanges) world ∧
      world.polling.taskModel.rows.length = 1 ∧ world.manager.shown = [] := by
  have reached : (replay (next fun _ => 10) (startup (fun _ => 10)
      (.start noNotifications fun _ => none) (fun _ _ => none) 60000)
      (.settings (.setUserPreference "notificationsEnabled" (.bool true)) (fun _ => true) ::
        taskChanges)).any (fun world => world.polling.taskModel.rows.length = 1) = true := by
    decide +kernel
  obtain ⟨world, run, observed⟩ := runs_of_replay _ reached
  exact ⟨world, run, of_decide_eq_true observed,
    policy_silences_notifications noNotifications _ _ _ (by decide) rfl run⟩

end Delivery

end CoderDesktop.Notifications
