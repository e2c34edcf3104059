import CoderDesktop.Settings.Variant

/-!
# The settings of the application

`MdmConfigManager` holds an administrator's policy document, `SettingsManager`
resolves a key from it, then from the user's preferences, then from the compiled
defaults. `SettingsEvent` is what can change a setting while the application runs.
-/

namespace CoderDesktop.Settings

/-- The policy, as far as it was loaded. -/
structure MdmConfigManager where
  enabled : Bool
  settings : List (String × Json)

namespace MdmConfigManager

/-- There is no policy. -/
def disabled : MdmConfigManager := ⟨false, []⟩

/-- `parse`; `none` is a document that is missing, unreadable or not JSON. -/
def parse : Option Json → MdmConfigManager
  | some (.object root) =>
      if ((Json.entry root "version").map Json.toInt).getD 0 ≠ 1 then disabled
      else
        match Json.entry root "settings" with
        | some (.object settings) => ⟨true, settings⟩
        | _ => disabled
  | _ => disabled

/-- The policy's value of a setting, where it has one. -/
def value (mdm : MdmConfigManager) (key : String) : QVariant :=
  if ¬ mdm.enabled then .invalid
  else
    match Json.entry mdm.settings key with
    | some (.object entry) => ((Json.entry entry "value").map Json.toVariant).getD .invalid
    | _ => .invalid

/-- The policy locks the setting. -/
def isLocked (mdm : MdmConfigManager) (key : String) : Bool :=
  if ¬ mdm.enabled then false
  else
    match Json.entry mdm.settings key with
    | some (.object entry) => ((Json.entry entry "locked").map Json.toBool).getD false
    | _ => false

end MdmConfigManager

/-- `kDefaults`. -/
def kDefaults : List (String × QVariant) :=
  [("deploymentUrl", .string ""),
    ("allowedDeployments", .stringList []),
    ("disableMultiDeployment", .bool false),
    ("requireVpn", .bool false),
    ("autoConnectVpn", .bool false),
    ("dlpEnabled", .bool false),
    ("dlpClipboardBlock", .bool false),
    ("dlpScreenshotBlock", .bool false),
    ("dlpFileSandbox", .bool false),
    ("dlpNetworkSandbox", .bool false),
    ("dlpForceInAppBrowser", .bool false),
    ("dlpDisableExternalBrowser", .bool false),
    ("dlpWatermark", .bool false),
    ("dlpDbusFilter", .bool false),
    ("dlpDbusAllowedNames", .stringList []),
    ("disableFileUpload", .bool false),
    ("disableFileDownload", .bool false),
    ("theme", .string "system"),
    ("notificationsEnabled", .bool true),
    ("checkForUpdates", .bool true),
    ("logLevel", .string "info"),
    ("refreshIntervalSec", .number 10),
    ("disableDataCache", .bool false)]

/-- The key `QSettings` stores a value under: slashes at the ends and repeated
slashes do not count. -/
def normalizedKey (key : String) : String :=
  String.ofList (['/'].intercalate ((key.toList.splitOn '/').filter (· ≠ [])))

/-- The policy and the user's preferences. -/
structure SettingsManager where
  mdm : MdmConfigManager
  userSettings : String → Option QVariant

/-- The invokables that change preferences. -/
inductive SettingsEvent where
  | setUserPreference (key : String) (value : QVariant)
  | resetToDefaults

namespace SettingsManager

/-- The user's value of a key, `none` when `QSettings` does not contain it. -/
def userValue (settings : SettingsManager) (key : String) : Option QVariant :=
  if key = "" then none else settings.userSettings (normalizedKey key)

/-- The policy's value, else the user's, else the compiled one. -/
def resolve (settings : SettingsManager) (key : String) (compiled : QVariant) : QVariant :=
  let mdmVal := settings.mdm.value key
  if settings.mdm.enabled ∧ mdmVal.isValid then mdmVal
  else (settings.userValue key).getD compiled

/-- The getters of boolean settings that default to false. -/
def flag (settings : SettingsManager) (key : String) : Bool :=
  (settings.resolve key (.bool false)).toBool

/-- Whether the clipboard is blocked. -/
def dlpClipboardBlock (settings : SettingsManager) : Bool := settings.flag "dlpClipboardBlock"

/-- Whether the filesystem is isolated. -/
def dlpFileSandbox (settings : SettingsManager) : Bool := settings.flag "dlpFileSandbox"

/-- Whether the network is isolated. -/
def dlpNetworkSandbox (settings : SettingsManager) : Bool := settings.flag "dlpNetworkSandbox"

/-- Whether frames are watermarked. -/
def dlpWatermark (settings : SettingsManager) : Bool := settings.flag "dlpWatermark"

/-- Whether D-Bus is filtered. -/
def dlpDbusFilter (settings : SettingsManager) : Bool := settings.flag "dlpDbusFilter"

/-- Whether uploads are disabled. -/
def disableFileUpload (settings : SettingsManager) : Bool := settings.flag "disableFileUpload"

/-- Whether downloads are disabled. -/
def disableFileDownload (settings : SettingsManager) : Bool := settings.flag "disableFileDownload"

/-- `QSettings::setValue`; an empty key is ignored. -/
def setValue (userSettings : String → Option QVariant) (key : String) (value : QVariant) :
    String → Option QVariant :=
  if key = "" then userSettings
  else fun other => if other = normalizedKey key then some value else userSettings other

/-- The settings afterwards, and whether `settingsChanged` was emitted. -/
def setUserPreference (settings : SettingsManager) (key : String) (value : QVariant) :
    SettingsManager × Bool :=
  if settings.mdm.isLocked key then (settings, false)
  else ({ settings with userSettings := setValue settings.userSettings key value }, true)

/-- The keys `resetToDefaults` removes. -/
def resetKeys (settings : SettingsManager) : List String :=
  (kDefaults.map Prod.fst).filter fun key =>
    ¬ settings.mdm.isLocked key ∧ (settings.userSettings key).isSome

/-- The user's values of the resettable settings go; tells whether there are any. -/
def resetToDefaults (settings : SettingsManager) : SettingsManager × Bool :=
  ({ settings with
      userSettings := fun key =>
        if key ∈ settings.resetKeys then none else settings.userSettings key },
    settings.resetKeys ≠ [])

/-- The settings after an event, and whether `settingsChanged` follows. -/
def apply (settings : SettingsManager) : SettingsEvent → SettingsManager × Bool
  | .setUserPreference key value => settings.setUserPreference key value
  | .resetToDefaults => settings.resetToDefaults

/-- Settings change only together with a `settingsChanged` signal. -/
theorem apply_of_silent {settings : SettingsManager} {event : SettingsEvent}
    (silent : (settings.apply event).2 = false) : (settings.apply event).1 = settings := by
  cases event with
  | setUserPreference key value =>
      simp only [apply, setUserPreference] at silent ⊢
      split at silent
      · rw [if_pos ‹_›]
      · cases silent
  | resetToDefaults =>
      have none : settings.resetKeys = [] := by simpa [apply, resetToDefaults] using silent
      simp [apply, resetToDefaults, none]

end SettingsManager
end CoderDesktop.Settings
