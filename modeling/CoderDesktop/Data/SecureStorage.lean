import Mathlib.Data.List.TakeWhile
import CoderDesktop.Encoding.Base64
import CoderDesktop.Encoding.Utf8
import CoderDesktop.Settings.Variant

/-!
# Credential storage

`SecureStorage` with the two places it keeps tokens in: the keyring, reached
through libsecret, and the fallback file, which holds base64 texts and, for every
token in the keyring, a marker. The result of each call to libsecret and of each
access to the file is an input. Texts are well-formed Unicode.
-/

namespace CoderDesktop.Data

open Settings Encoding

/-! ## Texts and bytes -/

/-- What a C string made from a text keeps of it. -/
def cString (text : String) : String :=
  String.ofList (text.toList.takeWhile (· ≠ '\x00'))

/-- `QString::fromUtf8`, which drops a leading byte order mark. -/
def fromUtf8 (bytes : List UInt8) : String :=
  match Utf8.decode bytes with
  | first :: rest => if first = Char.ofNat 0xfeff then String.ofList rest
      else String.ofList (first :: rest)
  | [] => ""

/-- The bytes of a text. -/
def toUtf8 (text : String) : List UInt8 :=
  Utf8.encode text.toList

/-- `toUtf8().toBase64()` -/
def toBase64 (text : String) : String :=
  String.ofList (Base64.encode (toUtf8 text))

/-- `fromUtf8(fromBase64(toLatin1()))`. A character outside Latin-1 becomes a
question mark, which the decoder skips like any other. -/
def fromBase64 (text : String) : String :=
  fromUtf8 (Base64.decode text.toList)

/-- A text that starts with a byte order mark. -/
def hasMark (text : String) : Prop :=
  text.toList.head? = some (Char.ofNat 0xfeff)

instance (text : String) : Decidable (hasMark text) :=
  inferInstanceAs (Decidable (_ = _))

/-- Only a leading byte order mark is lost on the way through UTF-8. -/
theorem fromUtf8_toUtf8 {text : String} (plain : ¬ hasMark text) :
    fromUtf8 (toUtf8 text) = text := by
  rw [fromUtf8, toUtf8, Utf8.decode_encode]
  cases chars : text.toList with
  | nil => exact (String.toList_inj.mp (by rw [chars]; rfl))
  | cons first rest =>
      have notMark : first ≠ Char.ofNat 0xfeff := by
        rintro rfl
        exact plain (by simp [hasMark, chars])
      simp only [if_neg notMark]
      rw [← chars, String.ofList_toList]

/-- A text without a mark survives Base64. -/
theorem fromBase64_toBase64 {text : String} (plain : ¬ hasMark text) :
    fromBase64 (toBase64 text) = text := by
  rw [fromBase64, toBase64, String.toList_ofList, Base64.decode_encode, fromUtf8_toUtf8 plain]

/-- A text without NUL is what its C string says. -/
theorem cString_eq_self {text : String} (noNul : '\x00' ∉ text.toList) : cString text = text := by
  rw [cString, List.takeWhile_eq_self_iff.mpr, String.ofList_toList]
  intro char member
  exact decide_eq_true fun nul => noNul (nul ▸ member)

/-! ## State -/

/-- Where tokens are stored. -/
inductive Backend where
  | libSecret
  | encryptedFile
deriving DecidableEq, Repr

/-- A `QJsonObject` -/
abbrev JsonObject := String → Option Json

/-- What stands in the fallback file. -/
inductive FileContent where
  /-- Not the text of a JSON object. -/
  | corrupt
  | object (root : JsonObject)

/-- The backend chosen at the start, the keyring and the file. -/
structure SecureStorage where
  backend : Backend
  /-- The secret of each `deployment_url` attribute. -/
  keyring : String → Option String
  /-- `none` when there is no file. -/
  file : Option FileContent

/-- How writing the fallback file ends. `torn` is an open that truncated the file
and a write that did not complete, which the code does not look at. -/
inductive WriteOutcome where
  | notOpened
  | torn
  | written
deriving DecidableEq, Repr

/-- The accesses `storeToken` and `removeToken` may make. -/
structure ChangeOutcome where
  /-- The call to libsecret makes no error. -/
  libsecret : Bool
  /-- The file opens for reading. -/
  readable : Bool
  write : WriteOutcome
deriving DecidableEq, Repr

/-- The accesses `retrieveToken` may make. -/
structure LookupOutcome where
  libsecret : Bool
  readable : Bool
deriving DecidableEq, Repr

namespace SecureStorage

/-! ## libsecret -/

/-- The keyring takes what stands before the first NUL. -/
def libsecretStore (storage : SecureStorage) (key value : String) (succeeds : Bool) :
    SecureStorage × Bool :=
  if succeeds then
    ({ storage with
        keyring := Function.update storage.keyring (cString key) (some (cString value)) },
      true)
  else
    (storage, false)

/-- What the keyring has, or the empty text. -/
def libsecretRetrieve (storage : SecureStorage) (key : String) (succeeds : Bool) : String :=
  if succeeds then
    match storage.keyring (cString key) with
    | some password => fromUtf8 (toUtf8 password)
    | none => ""
  else
    ""

/-- The result says whether there was a secret to clear. -/
def libsecretRemove (storage : SecureStorage) (key : String) (succeeds : Bool) :
    SecureStorage × Bool :=
  if succeeds then
    ({ storage with keyring := Function.update storage.keyring (cString key) none },
      (storage.keyring (cString key)).isSome)
  else
    (storage, false)

/-! ## The fallback file -/

/-- A file that cannot be read or parsed counts as empty. -/
def loadFallbackFile (storage : SecureStorage) (readable : Bool) : JsonObject :=
  if readable then
    match storage.file with
    | some (.object root) => root
    | some .corrupt | none => fun _ => none
  else
    fun _ => none

/-- A write that is cut off counts as written. -/
def saveFallbackFile (storage : SecureStorage) (root : JsonObject) :
    WriteOutcome → SecureStorage × Bool
  | .notOpened => (storage, false)
  | .torn => ({ storage with file := some .corrupt }, true)
  | .written => ({ storage with file := some (.object root) }, true)

/-- The token is put into the file in base64. -/
def fileStore (storage : SecureStorage) (key value : String) (outcome : ChangeOutcome) :
    SecureStorage × Bool :=
  let root := storage.loadFallbackFile outcome.readable
  storage.saveFallbackFile (Function.update root key (some (.string (toBase64 value))))
    outcome.write

/-- The text of the file, decoded, or the empty text. -/
def fileRetrieve (storage : SecureStorage) (key : String) (readable : Bool) : String :=
  let encoded := ((storage.loadFallbackFile readable key).getD .null).toText
  if encoded = "" then "" else fromBase64 encoded

/-- Only what the file has is removed. -/
def fileRemove (storage : SecureStorage) (key : String) (outcome : ChangeOutcome) :
    SecureStorage × Bool :=
  let root := storage.loadFallbackFile outcome.readable
  if (root key).isNone then (storage, false)
  else storage.saveFallbackFile (Function.update root key none) outcome.write

/-! ## Public operations -/

/-- The entry that mirrors a URL whose token is in the keyring. -/
def marker : Json := .string "libsecret"

/-- Whether saving the mirror worked is not looked at. -/
def storeToken (storage : SecureStorage) (deploymentUrl token : String) (outcome : ChangeOutcome) :
    SecureStorage × Bool :=
  match storage.backend with
  | .libSecret =>
      let (stored, succeeded) := storage.libsecretStore deploymentUrl token outcome.libsecret
      if succeeded then
        let root := stored.loadFallbackFile outcome.readable
        ((stored.saveFallbackFile (Function.update root deploymentUrl (some marker))
          outcome.write).1, true)
      else
        stored.fileStore deploymentUrl token outcome
  | .encryptedFile => storage.fileStore deploymentUrl token outcome

/-- With the keyring in reach the file is asked second. -/
def retrieveToken (storage : SecureStorage) (deploymentUrl : String) (outcome : LookupOutcome) :
    String :=
  match storage.backend with
  | .libSecret =>
      let token := storage.libsecretRetrieve deploymentUrl outcome.libsecret
      if token ≠ "" then token else storage.fileRetrieve deploymentUrl outcome.readable
  | .encryptedFile => storage.fileRetrieve deploymentUrl outcome.readable

/-- With the keyring in reach the file's result is not looked at. -/
def removeToken (storage : SecureStorage) (deploymentUrl : String) (outcome : ChangeOutcome) :
    SecureStorage × Bool :=
  match storage.backend with
  | .libSecret =>
      let (cleared, removed) := storage.libsecretRemove deploymentUrl outcome.libsecret
      let root := cleared.loadFallbackFile outcome.readable
      ((cleared.saveFallbackFile (Function.update root deploymentUrl none) outcome.write).1,
        removed)
  | .encryptedFile => storage.fileRemove deploymentUrl outcome

/-- A start of the application chooses the backend afresh. -/
def restart (storage : SecureStorage) (reachable : Bool) : SecureStorage :=
  { storage with backend := if reachable then .libSecret else .encryptedFile }

/-- No keyring entry and no file. -/
def empty (reachable : Bool) : SecureStorage :=
  ⟨if reachable then .libSecret else .encryptedFile, fun _ => none, none⟩

/-! ## What a place holds -/

/-- The token the keyring has for a URL. -/
def keyringText (storage : SecureStorage) (deploymentUrl : String) : String :=
  storage.libsecretRetrieve deploymentUrl true

/-- The token the file has for a URL. -/
def fileText (storage : SecureStorage) (deploymentUrl : String) : String :=
  storage.fileRetrieve deploymentUrl true

/-- The file's entry for a URL. -/
def fileEntry (storage : SecureStorage) (deploymentUrl : String) : Option Json :=
  storage.loadFallbackFile true deploymentUrl

section Fields

variable (storage : SecureStorage) (root : JsonObject) (write : WriteOutcome)

@[simp] theorem backend_saveFallbackFile :
    (storage.saveFallbackFile root write).1.backend = storage.backend := by
  cases write <;> rfl

@[simp] theorem keyring_saveFallbackFile :
    (storage.saveFallbackFile root write).1.keyring = storage.keyring := by
  cases write <;> rfl

/-- A save leaves the file, replaces it or ruins it. -/
theorem fileEntry_saveFallbackFile (deploymentUrl : String) :
    (storage.saveFallbackFile root write).1.fileEntry deploymentUrl =
      if write = .notOpened then storage.fileEntry deploymentUrl
      else if write = .written then root deploymentUrl else none := by
  cases write <;> rfl

/-- The file counts as saved once it was opened. -/
theorem saved_iff : (storage.saveFallbackFile root write).2 = true ↔ write ≠ .notOpened := by
  cases write <;> simp [saveFallbackFile]

/-- Reading gives what stands in the file, or nothing. -/
theorem loadFallbackFile_eq (readable : Bool) (deploymentUrl : String) :
    storage.loadFallbackFile readable deploymentUrl =
      if readable then storage.fileEntry deploymentUrl else none := by
  cases readable <;> rfl

/-- A readable file answers with its entry's text. -/
theorem fileRetrieve_eq (readable : Bool) (deploymentUrl : String) :
    storage.fileRetrieve deploymentUrl readable =
      if readable then storage.fileText deploymentUrl else "" := by
  cases readable <;> rfl

/-- A working keyring answers with its text. -/
theorem libsecretRetrieve_eq (succeeds : Bool) (deploymentUrl : String) :
    storage.libsecretRetrieve deploymentUrl succeeds =
      if succeeds then storage.keyringText deploymentUrl else "" := by
  cases succeeds <;> rfl

end Fields

/-- The file's token depends on the file's entry only. -/
theorem fileText_eq (storage : SecureStorage) (deploymentUrl : String) :
    storage.fileText deploymentUrl =
      if ((storage.fileEntry deploymentUrl).getD .null).toText = "" then ""
      else fromBase64 ((storage.fileEntry deploymentUrl).getD .null).toText := rfl

/-- No entry, no text. -/
theorem fileText_of_none {storage : SecureStorage} {deploymentUrl : String}
    (absent : storage.fileEntry deploymentUrl = none) : storage.fileText deploymentUrl = "" := by
  rw [fileText_eq, absent]
  rfl

/-- The entry of a token without a mark gives the token. -/
theorem fileText_of_token {storage : SecureStorage} {deploymentUrl token : String}
    (present : storage.fileEntry deploymentUrl = some (.string (toBase64 token)))
    (plain : ¬ hasMark token) : storage.fileText deploymentUrl = token := by
  rw [fileText_eq, present]
  have read := fromBase64_toBase64 plain
  change (if toBase64 token = "" then "" else fromBase64 (toBase64 token)) = token
  by_cases blank : toBase64 token = ""
  · rw [if_pos blank, ← read, blank]
    decide
  · rw [if_neg blank, read]

/-! ## What an operation does to a place -/

/-- The secret a keyring entry is read back as. -/
theorem keyringText_eq (storage : SecureStorage) (deploymentUrl : String) :
    storage.keyringText deploymentUrl =
      ((storage.keyring (cString deploymentUrl)).map fun secret =>
        fromUtf8 (toUtf8 secret)).getD "" := by
  unfold keyringText libsecretRetrieve
  cases storage.keyring (cString deploymentUrl) <;> rfl

/-- The token goes to the keyring. -/
def storesInKeyring (storage : SecureStorage) (outcome : ChangeOutcome) : Bool :=
  storage.backend = .libSecret ∧ outcome.libsecret = true

/-- A token goes into the keyring under the URL up to its first NUL. -/
theorem keyring_storeToken (storage : SecureStorage) (deploymentUrl token : String)
    (outcome : ChangeOutcome) :
    (storage.storeToken deploymentUrl token outcome).1.keyring =
      if storage.storesInKeyring outcome then
        Function.update storage.keyring (cString deploymentUrl) (some (cString token))
      else storage.keyring := by
  unfold storeToken storesInKeyring
  cases storage.backend <;> cases outcome.libsecret <;>
    simp [libsecretStore, fileStore]

/-- When a store reports success. -/
theorem storeToken_iff (storage : SecureStorage) (deploymentUrl token : String)
    (outcome : ChangeOutcome) :
    (storage.storeToken deploymentUrl token outcome).2 = true ↔
      storage.storesInKeyring outcome = true ∨ outcome.write ≠ .notOpened := by
  unfold storeToken storesInKeyring
  cases storage.backend <;> cases outcome.libsecret <;>
    simp [libsecretStore, fileStore, saved_iff]

/-- What storing writes to the file for the URL itself. -/
def storedEntry (storage : SecureStorage) (token : String) (outcome : ChangeOutcome) : Json :=
  if storage.storesInKeyring outcome then marker else .string (toBase64 token)

/-- What the file holds after a token was stored. -/
theorem fileEntry_storeToken (storage : SecureStorage) (deploymentUrl token : String)
    (outcome : ChangeOutcome) (other : String) :
    (storage.storeToken deploymentUrl token outcome).1.fileEntry other =
      if outcome.write = .notOpened then storage.fileEntry other
      else if outcome.write = .written then
        Function.update (storage.loadFallbackFile outcome.readable) deploymentUrl
          (some (storage.storedEntry token outcome)) other
      else none := by
  unfold storeToken storedEntry storesInKeyring
  cases storage.backend <;> cases outcome.libsecret <;>
    simp only [libsecretStore, fileStore, if_true, if_false, fileEntry_saveFallbackFile,
      Bool.false_eq_true, and_true, and_false, decide_true, decide_false, reduceCtorEq]
  all_goals rfl

/-- A removal clears the keyring's entry where the keyring is used. -/
theorem keyring_removeToken (storage : SecureStorage) (deploymentUrl : String)
    (outcome : ChangeOutcome) :
    (storage.removeToken deploymentUrl outcome).1.keyring =
      if storage.storesInKeyring outcome then
        Function.update storage.keyring (cString deploymentUrl) none
      else storage.keyring := by
  unfold removeToken storesInKeyring
  cases storage.backend <;> cases outcome.libsecret <;>
    simp [libsecretRemove, fileRemove, apply_ite]

/-- What the file holds after a removal. -/
theorem fileEntry_removeToken (storage : SecureStorage) (deploymentUrl : String)
    (outcome : ChangeOutcome) (other : String) :
    (storage.removeToken deploymentUrl outcome).1.fileEntry other =
      if outcome.write = .notOpened ∨ storage.backend = .encryptedFile ∧
          storage.loadFallbackFile outcome.readable deploymentUrl = none then
        storage.fileEntry other
      else if outcome.write = .written then
        Function.update (storage.loadFallbackFile outcome.readable) deploymentUrl none other
      else none := by
  unfold removeToken
  cases storage.backend with
  | libSecret =>
      cases outcome.libsecret <;>
        simp only [libsecretRemove, if_true, if_false, fileEntry_saveFallbackFile,
          Bool.false_eq_true, reduceCtorEq, false_and, or_false]
      all_goals rfl
  | encryptedFile =>
      cases found : storage.loadFallbackFile outcome.readable deploymentUrl with
      | none => simp [fileRemove, found]
      | some entry => simp [fileRemove, found, fileEntry_saveFallbackFile]

/-- When a removal reports success. -/
theorem removeToken_iff (storage : SecureStorage) (deploymentUrl : String)
    (outcome : ChangeOutcome) :
    (storage.removeToken deploymentUrl outcome).2 = true ↔
      if storage.backend = .libSecret then
        outcome.libsecret = true ∧ (storage.keyring (cString deploymentUrl)).isSome = true
      else
        (storage.loadFallbackFile outcome.readable deploymentUrl).isSome = true ∧
          outcome.write ≠ .notOpened := by
  unfold removeToken
  cases storage.backend with
  | libSecret => cases outcome.libsecret <;> simp [libsecretRemove]
  | encryptedFile =>
      cases found : storage.loadFallbackFile outcome.readable deploymentUrl with
      | none => simp [fileRemove, found]
      | some entry => simp [fileRemove, found, saved_iff]

/-- Rewriting the file for one URL keeps another one's entry or loses it. -/
theorem loadFallbackFile_le (storage : SecureStorage) (readable : Bool) (deploymentUrl : String) :
    storage.loadFallbackFile readable deploymentUrl = storage.fileEntry deploymentUrl ∨
      storage.loadFallbackFile readable deploymentUrl = none := by
  rw [loadFallbackFile_eq]
  cases readable <;> simp

/-- Storing a token at most loses another URL's entry. -/
theorem fileEntry_storeToken_le (storage : SecureStorage) {deploymentUrl other : String}
    (different : other ≠ deploymentUrl) (token : String) (outcome : ChangeOutcome) :
    (storage.storeToken deploymentUrl token outcome).1.fileEntry other = storage.fileEntry other ∨
      (storage.storeToken deploymentUrl token outcome).1.fileEntry other = none := by
  rw [fileEntry_storeToken, Function.update_of_ne different]
  cases outcome.write with
  | notOpened => exact .inl rfl
  | torn => exact .inr rfl
  | written => exact storage.loadFallbackFile_le outcome.readable other

/-- A removal at most loses entries of the file. -/
theorem fileEntry_removeToken_le (storage : SecureStorage) (deploymentUrl other : String)
    (outcome : ChangeOutcome) :
    (storage.removeToken deploymentUrl outcome).1.fileEntry other = storage.fileEntry other ∨
      (storage.removeToken deploymentUrl outcome).1.fileEntry other = none := by
  rw [fileEntry_removeToken]
  split
  · exact .inl rfl
  · split
    · by_cases same : other = deploymentUrl
      · rw [same, Function.update_self]
        exact .inr rfl
      · rw [Function.update_of_ne same]
        exact storage.loadFallbackFile_le outcome.readable other
    · exact .inr rfl

/-- A removal at most clears entries of the keyring. -/
theorem keyring_removeToken_le (storage : SecureStorage) (deploymentUrl other : String)
    (outcome : ChangeOutcome) :
    (storage.removeToken deploymentUrl outcome).1.keyring (cString other) =
        storage.keyring (cString other) ∨
      (storage.removeToken deploymentUrl outcome).1.keyring (cString other) = none := by
  rw [keyring_removeToken]
  split
  · by_cases same : cString other = cString deploymentUrl
    · rw [same, Function.update_self]
      exact .inr rfl
    · rw [Function.update_of_ne same]
      exact .inl rfl
  · exact .inl rfl

end SecureStorage

end CoderDesktop.Data
