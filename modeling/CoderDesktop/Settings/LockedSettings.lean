import CoderDesktop.Settings.SettingsManager

/-!
# Locked settings

What a user can do to a setting the administrator has locked. The lock is one
member of the policy entry and the value another: `setUserPreference` obeys the
lock, `resolve` looks at the value only.
-/

namespace CoderDesktop.Settings

/-- An application that starts with a policy and some user settings file. -/
def SettingsManager.start (policy : Option Json) (userSettings : String → Option QVariant) :
    SettingsManager :=
  ⟨.parse policy, userSettings⟩

/-- The settings after a sequence of changes. -/
def SettingsManager.run (settings : SettingsManager) (events : List SettingsEvent) :
    SettingsManager :=
  events.foldl (fun current event => (current.apply event).1) settings

@[simp] theorem SettingsManager.apply_mdm (settings : SettingsManager) (event : SettingsEvent) :
    (settings.apply event).1.mdm = settings.mdm := by
  cases event with
  | setUserPreference key value =>
      simp only [apply, setUserPreference]
      split <;> rfl
  | resetToDefaults => rfl

/-- Nothing the user does changes the policy. -/
@[simp] theorem SettingsManager.run_mdm (settings : SettingsManager)
    (events : List SettingsEvent) : (settings.run events).mdm = settings.mdm := by
  induction events generalizing settings with
  | nil => rfl
  | cons event rest inductionHypothesis =>
      have tail := inductionHypothesis (settings.apply event).1
      rw [apply_mdm] at tail
      exact tail

/-- A valid policy value is what a key resolves to. -/
theorem SettingsManager.resolve_of_valid {settings : SettingsManager} {key : String}
    (enabled : settings.mdm.enabled = true) (valid : (settings.mdm.value key).isValid = true)
    (compiled : QVariant) : settings.resolve key compiled = settings.mdm.value key :=
  if_pos ⟨enabled, valid⟩

/-- Without one the user's value decides, then the compiled default. -/
theorem SettingsManager.resolve_of_invalid {settings : SettingsManager} {key : String}
    (invalid : ¬ (settings.mdm.value key).isValid = true) (compiled : QVariant) :
    settings.resolve key compiled = (settings.userValue key).getD compiled :=
  if_neg fun both => invalid both.2

/-- Only a policy that is in force locks. -/
theorem MdmConfigManager.enabled_of_isLocked {mdm : MdmConfigManager} {key : String}
    (locked : mdm.isLocked key = true) : mdm.enabled = true := by
  by_contra disabled
  simp [isLocked, disabled] at locked

/-- What a run resolves a key to does not depend on the user. -/
def OutOfUsersReach (policy : Option Json) (key : String) (compiled : QVariant) : Prop :=
  ∀ userSettings userSettings' events events',
    ((SettingsManager.start policy userSettings).run events).resolve key compiled =
      ((SettingsManager.start policy userSettings').run events').resolve key compiled

section

variable {policy : Option Json} {key : String}

/-- Users do not change the policy. -/
theorem SettingsManager.policy_run (userSettings : String → Option QVariant)
    (events : List SettingsEvent) :
    ((SettingsManager.start policy userSettings).run events).mdm = .parse policy :=
  SettingsManager.run_mdm _ _

/-- A user whose file has the key shadows the compiled default. -/
theorem valid_of_outOfUsersReach {compiled : QVariant}
    (unreachable : OutOfUsersReach policy key compiled) :
    ((MdmConfigManager.parse policy).value key).isValid = true ∨ key = "" := by
  by_contra reachable
  obtain ⟨invalid, stored⟩ := not_or.mp reachable
  have same := unreachable (fun _ => some (.bool true)) (fun _ => some (.bool false)) [] []
  rw [SettingsManager.resolve_of_invalid (by rwa [SettingsManager.policy_run]),
    SettingsManager.resolve_of_invalid (by rwa [SettingsManager.policy_run])] at same
  simp [SettingsManager.run, SettingsManager.start, SettingsManager.userValue, stored] at same

/-- A locked setting with a value is out of the users' reach. -/
theorem outOfUsersReach_of_valid
    (locked : (MdmConfigManager.parse policy).isLocked key = true)
    (valid : ((MdmConfigManager.parse policy).value key).isValid = true) (compiled : QVariant) :
    OutOfUsersReach policy key compiled := by
  have enabled := MdmConfigManager.enabled_of_isLocked locked
  have fixed : ∀ userSettings events,
      ((SettingsManager.start policy userSettings).run events).resolve key compiled =
        (MdmConfigManager.parse policy).value key := by
    intro userSettings events
    rw [SettingsManager.resolve_of_valid (by rwa [SettingsManager.policy_run])
      (by rwa [SettingsManager.policy_run]), SettingsManager.policy_run]
  intro userSettings userSettings' events events'
  rw [fixed, fixed]

end

/-- A locked setting is out of the user's reach exactly when its policy entry has
a value (or its key is the empty one, which is never stored). -/
theorem outOfUsersReach_iff (policy : Option Json) (key : String) (compiled : QVariant)
    (locked : (MdmConfigManager.parse policy).isLocked key = true) :
    OutOfUsersReach policy key compiled ↔
      ((MdmConfigManager.parse policy).value key).isValid = true ∨ key = "" := by
  constructor
  · exact valid_of_outOfUsersReach
  · rintro (valid | rfl)
    · exact outOfUsersReach_of_valid locked valid compiled
    · intro userSettings userSettings' events events'
      simp only [SettingsManager.resolve, SettingsManager.policy_run, SettingsManager.userValue,
        if_pos]

/-- A policy with one entry, for the theme. -/
def themePolicy (entry : List (String × Json)) : Option Json :=
  some (.object [("version", .number 1), ("settings", .object [("theme", .object entry)])])

/-- A locked theme. -/
theorem outOfUsersReach_iff_theme :
    (MdmConfigManager.parse
        (themePolicy [("value", .string "dark"), ("locked", .bool true)])).isLocked "theme" = true ∧
      OutOfUsersReach (themePolicy [("value", .string "dark"), ("locked", .bool true)]) "theme"
        (.string "system") :=
  ⟨by decide, (outOfUsersReach_iff _ _ _ (by decide)).mpr (.inl (by decide))⟩

/-- A lock without a value leaves the setting to the user's file. -/
theorem lockedTheme_in_users_reach :
    ¬ ∀ policy key compiled, (MdmConfigManager.parse policy).isLocked key = true →
      OutOfUsersReach policy key compiled := by
  intro everywhere
  have unreachable := everywhere (themePolicy [("locked", .bool true)]) "theme"
    (.string "system") (by decide)
  exact absurd (valid_of_outOfUsersReach unreachable) (by decide)

end CoderDesktop.Settings
