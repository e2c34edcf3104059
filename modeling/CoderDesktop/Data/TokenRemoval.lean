import CoderDesktop.Data.SecureStorage
import CoderDesktop.Semantics.Run

/-!
# Removed credentials

`StorageEvent` is what happens to a storage over the starts of the application.
A removal that reports success has to leave no token in either place, because a
lookup falls through from the keyring to the file and a later start may choose
the other backend.
-/

namespace CoderDesktop.Data

open Semantics

/-- The operations of the storage, and restarts. -/
inductive StorageEvent where
  | restart (reachable : Bool)
  | store (deploymentUrl token : String) (outcome : ChangeOutcome)
  | retrieve (deploymentUrl : String) (outcome : LookupOutcome)
  | remove (deploymentUrl : String) (outcome : ChangeOutcome)

namespace SecureStorage

/-- What an event leaves of the storage. -/
def apply (storage : SecureStorage) : StorageEvent → SecureStorage
  | .restart reachable => storage.restart reachable
  | .store deploymentUrl token outcome => (storage.storeToken deploymentUrl token outcome).1
  | .retrieve _ _ => storage
  | .remove deploymentUrl outcome => (storage.removeToken deploymentUrl outcome).1

/-- No lookup, under any backend, finds a token. -/
def Forgotten (storage : SecureStorage) (deploymentUrl : String) : Prop :=
  ∀ reachable outcome, (storage.restart reachable).retrieveToken deploymentUrl outcome = ""

/-- A token is forgotten when neither place has one. -/
theorem forgotten_iff {storage : SecureStorage} {deploymentUrl : String} :
    storage.Forgotten deploymentUrl ↔
      storage.keyringText deploymentUrl = "" ∧ storage.fileText deploymentUrl = "" := by
  constructor
  · intro forgotten
    have file : storage.fileText deploymentUrl = "" := forgotten false ⟨true, true⟩
    refine ⟨?_, file⟩
    by_contra found
    have both := forgotten true ⟨true, true⟩
    change (if storage.keyringText deploymentUrl ≠ "" then storage.keyringText deploymentUrl
      else storage.fileText deploymentUrl) = "" at both
    rw [if_pos found] at both
    exact found both
  · rintro ⟨keyring, file⟩ reachable outcome
    have fromFile :
        (storage.restart reachable).fileRetrieve deploymentUrl outcome.readable = "" := by
      rw [fileRetrieve_eq]
      split
      · exact file
      · rfl
    have fromKeyring :
        (storage.restart reachable).libsecretRetrieve deploymentUrl outcome.libsecret = "" := by
      rw [libsecretRetrieve_eq]
      split
      · exact keyring
      · rfl
    cases reachable with
    | false => exact fromFile
    | true =>
        change (if _ ≠ "" then _ else _) = ""
        rw [fromKeyring]
        exact fromFile

/-! ## Operations on what is forgotten -/

/-- No entry, no text. -/
theorem keyringText_of_none {storage : SecureStorage} {deploymentUrl : String}
    (absent : storage.keyring (cString deploymentUrl) = none) :
    storage.keyringText deploymentUrl = "" := by
  rw [keyringText_eq, absent]
  rfl

/-- An operation that only loses entries of a URL keeps it forgotten. -/
theorem Forgotten.of_le {storage after : SecureStorage} {deploymentUrl : String}
    (forgotten : storage.Forgotten deploymentUrl)
    (keyring : after.keyring (cString deploymentUrl) = storage.keyring (cString deploymentUrl) ∨
      after.keyring (cString deploymentUrl) = none)
    (file : after.fileEntry deploymentUrl = storage.fileEntry deploymentUrl ∨
      after.fileEntry deploymentUrl = none) : after.Forgotten deploymentUrl := by
  obtain ⟨noSecret, noEntry⟩ := forgotten_iff.mp forgotten
  refine forgotten_iff.mpr ⟨?_, ?_⟩
  · rcases keyring with same | absent
    · rwa [keyringText_eq, same, ← keyringText_eq]
    · exact keyringText_of_none absent
  · rcases file with same | absent
    · rwa [fileText_eq, same, ← fileText_eq]
    · exact fileText_of_none absent

/-- What a removal that reports success has to find in the place it does not clear. -/
def LeavesNothing (storage : SecureStorage) (deploymentUrl : String) (outcome : ChangeOutcome) :
    Prop :=
  match storage.backend with
  | .libSecret => outcome.write = .notOpened → storage.fileText deploymentUrl = ""
  | .encryptedFile => storage.keyringText deploymentUrl = ""

/-- A successful removal forgets the token exactly when the other place has none. -/
theorem forgotten_removeToken_iff {storage : SecureStorage} {deploymentUrl : String}
    {outcome : ChangeOutcome} (removed : (storage.removeToken deploymentUrl outcome).2 = true) :
    (storage.removeToken deploymentUrl outcome).1.Forgotten deploymentUrl ↔
      storage.LeavesNothing deploymentUrl outcome := by
  rw [forgotten_iff]
  have succeeded := (removeToken_iff storage deploymentUrl outcome).mp removed
  unfold LeavesNothing
  cases backend : storage.backend with
  | libSecret =>
      rw [if_pos backend] at succeeded
      have cleared :
          (storage.removeToken deploymentUrl outcome).1.keyringText deploymentUrl = "" := by
        refine keyringText_of_none ?_
        rw [keyring_removeToken, if_pos (by simp [storesInKeyring, backend, succeeded.1]),
          Function.update_self]
      rw [fileText_eq, fileEntry_removeToken]
      cases outcome.write with
      | notOpened => simp [cleared, fileText_eq]
      | torn => simp [cleared, backend, Settings.Json.toText]
      | written => simp [cleared, backend, Settings.Json.toText]
  | encryptedFile =>
      rw [if_neg (by simp [backend])] at succeeded
      have noEntry :
          (storage.removeToken deploymentUrl outcome).1.fileEntry deploymentUrl = none := by
        rw [fileEntry_removeToken, if_neg]
        · split <;> simp
        · rintro (notOpened | ⟨-, absent⟩)
          · exact succeeded.2 notOpened
          · simp [absent] at succeeded
      rw [keyringText_eq, keyring_removeToken, if_neg (by simp [storesInKeyring, backend]),
        ← keyringText_eq]
      simp [fileText_of_none noEntry]

end SecureStorage

/-! ## Runs -/

/-- A storage with the URLs whose token was removed and not stored since. -/
structure Removals where
  storage : SecureStorage
  removed : String → Bool

namespace Removals

/-- Nothing is stored. -/
def new (reachable : Bool) : Removals := ⟨.empty reachable, fun _ => false⟩

/-- An event; a removal counts when it says that it worked. -/
def step (state : Removals) (event : StorageEvent) : Removals where
  storage := state.storage.apply event
  removed := match event with
    | .store deploymentUrl _ _ => Function.update state.removed deploymentUrl false
    | .remove deploymentUrl outcome =>
        if (state.storage.removeToken deploymentUrl outcome).2 then
          Function.update state.removed deploymentUrl true
        else state.removed
    | .restart _ | .retrieve _ _ => state.removed

/-- Every event can come at any time. -/
def next (state : Removals) (event : StorageEvent) : Option Removals :=
  some (state.step event)

/-- A removed credential stays removed. -/
def StaysRemoved (state : Removals) : Prop :=
  ∀ deploymentUrl, state.removed deploymentUrl = true → state.storage.Forgotten deploymentUrl

/-- A removal that reports success finds nothing in the place it does not clear, and
no store puts a token under a removed URL's C string. -/
def Thorough (state : Removals) : StorageEvent → Prop
  | .restart _ | .retrieve _ _ => True
  | .store deploymentUrl token outcome =>
      state.storage.storesInKeyring outcome = true → fromUtf8 (toUtf8 (cString token)) ≠ "" →
        ∀ other, state.removed other = true → other ≠ deploymentUrl →
          cString other ≠ cString deploymentUrl
  | .remove deploymentUrl outcome =>
      (state.storage.removeToken deploymentUrl outcome).2 = true →
        state.storage.LeavesNothing deploymentUrl outcome

variable {state : Removals} {deploymentUrl : String} {outcome : ChangeOutcome}

/-- Removed tokens stay removed exactly when a removal is thorough. -/
theorem staysRemoved_remove_iff (stays : state.StaysRemoved) :
    (state.step (.remove deploymentUrl outcome)).StaysRemoved ↔
      state.Thorough (.remove deploymentUrl outcome) := by
  have kept : ∀ other, state.removed other = true →
      (state.storage.removeToken deploymentUrl outcome).1.Forgotten other := fun other removed =>
    (stays other removed).of_le (state.storage.keyring_removeToken_le _ _ _)
      (state.storage.fileEntry_removeToken_le _ _ _)
  constructor
  · intro after removed
    refine (SecureStorage.forgotten_removeToken_iff removed).mp (after deploymentUrl ?_)
    simp only [step, if_pos removed, Function.update_self]
  · intro thorough other removed
    simp only [step] at removed
    split at removed
    · rename_i succeeded
      by_cases same : other = deploymentUrl
      · subst same
        exact (SecureStorage.forgotten_removeToken_iff succeeded).mpr (thorough succeeded)
      · rw [Function.update_of_ne same] at removed
        exact kept other removed
    · exact kept other removed

/-- Removed tokens stay removed exactly when a store is thorough. -/
theorem staysRemoved_store_iff (stays : state.StaysRemoved) {token : String} :
    (state.step (.store deploymentUrl token outcome)).StaysRemoved ↔
      state.Thorough (.store deploymentUrl token outcome) := by
  constructor
  · intro after inKeyring readable other removed different same
    have forgotten := after other (by simp only [step, Function.update_of_ne different, removed])
    have noSecret := (SecureStorage.forgotten_iff.mp forgotten).1
    rw [SecureStorage.keyringText_eq] at noSecret
    simp only [step, SecureStorage.apply, SecureStorage.keyring_storeToken, if_pos inKeyring, same,
      Function.update_self, Option.map_some, Option.getD_some] at noSecret
    exact readable noSecret
  · intro thorough other removed
    have different : other ≠ deploymentUrl := by
      rintro rfl
      simp [step] at removed
    simp only [step, Function.update_of_ne different] at removed
    have file := state.storage.fileEntry_storeToken_le different token outcome
    by_cases inKeyring : state.storage.storesInKeyring outcome = true
    · by_cases same : cString other = cString deploymentUrl
      · -- the shared C string is harmless only if nothing can be read back
        have unreadable : fromUtf8 (toUtf8 (cString token)) = "" := by
          by_contra readable
          exact thorough inKeyring readable other removed different same
        refine SecureStorage.forgotten_iff.mpr ⟨?_, ?_⟩
        · rw [SecureStorage.keyringText_eq]
          simp only [step, SecureStorage.apply, SecureStorage.keyring_storeToken, if_pos inKeyring,
            same, Function.update_self, Option.map_some, Option.getD_some, unreadable]
        · have noEntry := (SecureStorage.forgotten_iff.mp (stays other removed)).2
          rcases file with kept | absent
          · rw [SecureStorage.fileText_eq] at noEntry ⊢
            rwa [← kept] at noEntry
          · exact SecureStorage.fileText_of_none absent
      · refine (stays other removed).of_le (.inl ?_) file
        simp only [step, SecureStorage.apply, SecureStorage.keyring_storeToken, if_pos inKeyring,
          Function.update_of_ne same]
    · refine (stays other removed).of_le (.inl ?_) file
      simp only [step, SecureStorage.apply, SecureStorage.keyring_storeToken, if_neg inKeyring]

/-- What decides, at each step, whether removed credentials stay removed. -/
theorem staysRemoved_step_iff (event : StorageEvent) (stays : state.StaysRemoved) :
    (state.step event).StaysRemoved ↔ state.Thorough event := by
  cases event with
  | restart reachable => exact iff_of_true stays trivial
  | retrieve deploymentUrl outcome => exact iff_of_true stays trivial
  | store deploymentUrl token outcome => exact staysRemoved_store_iff stays
  | remove deploymentUrl outcome => exact staysRemoved_remove_iff stays

/-- Removed credentials stay removed throughout a run exactly when every removal
that reports success is thorough. -/
theorem staysRemoved_iff_thorough (reachable : Bool) (events : List StorageEvent) :
    (∀ state, Visits next (new reachable) events state → state.StaysRemoved) ↔
      Conforms next Thorough (new reachable) events := by
  refine visits_iff_conforms (fun _ => True) StaysRemoved (fun _ _ _ _ _ => trivial) ?_ trivial ?_ _
  · intro state event after _ stays taken
    obtain rfl := Option.some.inj taken
    exact staysRemoved_step_iff event stays
  · intro deploymentUrl removed
    cases removed

/-- The token is stored in the keyring, removed while the keyring is away, and found
again when it is back. -/
theorem token_survives_removal_without_keyring :
    ¬ ∀ state, Visits next (new true)
        [.store "https://dev.coder.com" "t1" ⟨true, true, .written⟩, .restart false,
          .remove "https://dev.coder.com" ⟨true, true, .written⟩, .restart true] state →
        state.StaysRemoved := by
  refine not_visits_of_replay (fun state =>
    state.removed "https://dev.coder.com" = true ∧
      (state.storage.restart true).retrieveToken "https://dev.coder.com" ⟨true, true⟩ = "t1")
    (by decide) ?_
  intro state reached stays
  obtain ⟨removed, found⟩ := of_decide_eq_true reached
  rw [stays _ removed true ⟨true, true⟩] at found
  exact absurd found (by decide)

end Removals

end CoderDesktop.Data
