import CoderDesktop.Data.TokenRemoval

/-!
# What an operation does to other credentials

Every change of the fallback file reads all of it, changes one entry and writes all of it
back. A file that cannot be read counts as empty, and opening it for writing truncates it,
so that the entries of other deployments survive only when both accesses succeed.
-/

namespace CoderDesktop.Data

namespace StorageEvent

/-- The deployment an operation changes the token of. -/
def changes : StorageEvent → Option String
  | .restart _ | .retrieve _ _ => none
  | .store deploymentUrl _ _ | .remove deploymentUrl _ => some deploymentUrl

/-- The operation opens the file for writing. Without a keyring, removing what was not read
does not. -/
def Rewrites (storage : SecureStorage) : StorageEvent → Prop
  | .restart _ | .retrieve _ _ => False
  | .store _ _ outcome => outcome.write ≠ .notOpened
  | .remove deploymentUrl outcome =>
      outcome.write ≠ .notOpened ∧
        (storage.backend = .libSecret ∨
          storage.loadFallbackFile outcome.readable deploymentUrl ≠ none)

/-- The file could be read and was written completely. -/
def Completes : StorageEvent → Prop
  | .restart _ | .retrieve _ _ => True
  | .store _ _ outcome | .remove _ outcome => outcome.readable = true ∧ outcome.write = .written

end StorageEvent

namespace SecureStorage

variable {storage : SecureStorage} {event : StorageEvent} {other : String}

/-- Without opening the file for writing, an operation leaves it. -/
theorem fileEntry_apply_of_not_rewrites (leaves : ¬ event.Rewrites storage) :
    (storage.apply event).fileEntry other = storage.fileEntry other := by
  cases event with
  | restart reachable => rfl
  | retrieve deploymentUrl outcome => rfl
  | store deploymentUrl token outcome =>
      have notOpened : outcome.write = .notOpened := not_not.mp leaves
      rw [apply, fileEntry_storeToken, if_pos notOpened]
  | remove deploymentUrl outcome =>
      rw [apply, fileEntry_removeToken, if_pos]
      by_cases notOpened : outcome.write = .notOpened
      · exact .inl notOpened
      · obtain ⟨noKeyring, nothing⟩ := not_or.mp fun rest => leaves ⟨notOpened, rest⟩
        refine .inr ⟨?_, not_not.mp nothing⟩
        cases backend : storage.backend with
        | libSecret => exact absurd backend noKeyring
        | encryptedFile => rfl

/-- What rewriting the file leaves of an entry that is not changed. -/
theorem rewritten_cases (outcome : ChangeOutcome) :
    ((outcome.readable = true ∧ outcome.write = .written) ∧
        (if outcome.write = .written then storage.loadFallbackFile outcome.readable other
          else none) = storage.fileEntry other) ∨
      (¬ (outcome.readable = true ∧ outcome.write = .written) ∧
        (if outcome.write = .written then storage.loadFallbackFile outcome.readable other
          else none) = none) := by
  rw [loadFallbackFile_eq]
  by_cases written : outcome.write = .written
  · rw [if_pos written]
    by_cases readable : outcome.readable = true
    · exact .inl ⟨⟨readable, written⟩, if_pos readable⟩
    · exact .inr ⟨fun both => readable both.1, if_neg readable⟩
  · exact .inr ⟨fun both => written both.2, if_neg written⟩

/-- An entry survives a rewrite of the file when the file was read and written completely,
and is lost otherwise. -/
theorem fileEntry_apply_of_rewrites (different : event.changes ≠ some other)
    (rewrites : event.Rewrites storage) :
    (event.Completes ∧ (storage.apply event).fileEntry other = storage.fileEntry other) ∨
      (¬ event.Completes ∧ (storage.apply event).fileEntry other = none) := by
  cases event with
  | restart reachable => exact rewrites.elim
  | retrieve deploymentUrl outcome => exact rewrites.elim
  | store deploymentUrl token outcome =>
      have notSame : other ≠ deploymentUrl := fun same => different (congrArg some same.symm)
      rw [apply, fileEntry_storeToken, if_neg rewrites, Function.update_of_ne notSame]
      exact rewritten_cases outcome
  | remove deploymentUrl outcome =>
      have notSame : other ≠ deploymentUrl := fun same => different (congrArg some same.symm)
      obtain ⟨opened, wanted⟩ := rewrites
      have rewritten : ¬ (outcome.write = .notOpened ∨ storage.backend = .encryptedFile ∧
          storage.loadFallbackFile outcome.readable deploymentUrl = none) := by
        rintro (notOpened | ⟨noKeyring, nothing⟩)
        · exact opened notOpened
        · cases wanted with
          | inl keyring => exact absurd (noKeyring.symm.trans keyring) (by decide)
          | inr something => exact something nothing
      rw [apply, fileEntry_removeToken, if_neg rewritten, Function.update_of_ne notSame]
      exact rewritten_cases outcome

/-- A change that completes leaves the other URLs' entries alone. -/
theorem fileEntry_apply_of_completes (different : event.changes ≠ some other)
    (completes : event.Completes) :
    (storage.apply event).fileEntry other = storage.fileEntry other := by
  by_cases rewrites : event.Rewrites storage
  · cases fileEntry_apply_of_rewrites different rewrites with
    | inl completed => exact completed.2
    | inr lost => exact absurd completes lost.1
  · exact fileEntry_apply_of_not_rewrites rewrites

/-- Storing or removing a token keeps what is recorded for another deployment exactly when
there is nothing to keep, the file is not opened for writing, or it could be read and was
written completely. -/
theorem keepsOther_iff (storage : SecureStorage) (event : StorageEvent) {other : String}
    (different : event.changes ≠ some other) :
    (∀ entry, storage.fileEntry other = some entry →
        (storage.apply event).fileEntry other = some entry) ↔
      storage.fileEntry other = none ∨ ¬ event.Rewrites storage ∨ event.Completes := by
  constructor
  · intro keeps
    cases recorded : storage.fileEntry other with
    | none => exact .inl rfl
    | some entry =>
        right
        by_cases rewrites : event.Rewrites storage
        · cases fileEntry_apply_of_rewrites different rewrites with
          | inl completed => exact .inr completed.1
          | inr lost => exact absurd (lost.2.symm.trans (keeps entry recorded)) (by simp)
        · exact .inl rewrites
  · rintro (nothing | leaves | completes) entry recorded
    · exact absurd (nothing.symm.trans recorded) (by simp)
    · rw [fileEntry_apply_of_not_rewrites leaves, recorded]
    · rw [fileEntry_apply_of_completes different completes, recorded]

/-- A token stored without a keyring keeps the one of another deployment, when the file is
read and written completely. -/
theorem keepsOther_of_complete_store :
    let file : FileContent :=
      .object fun url => if url = "https://a.dev" then some (.string "c2VjcmV0") else none
    (∀ entry, SecureStorage.fileEntry ⟨.encryptedFile, fun _ => none, some file⟩
          "https://a.dev" = some entry →
        (SecureStorage.apply ⟨.encryptedFile, fun _ => none, some file⟩
          (.store "https://b.dev" "token" ⟨false, true, .written⟩)).fileEntry
          "https://a.dev" = some entry) :=
  (keepsOther_iff _ _ (by decide)).mpr (.inr (.inr ⟨rfl, rfl⟩))

/-- With the file unreadable for a moment, or a write cut short, the token of another
deployment is lost, by a store and by a removal. -/
theorem storeToken_loses_other :
    let storage : SecureStorage :=
      ⟨.libSecret, fun _ => none,
        some (.object fun url => if url = "https://a.dev" then some (.string "c2VjcmV0") else none)⟩
    storage.fileEntry "https://a.dev" = some (.string "c2VjcmV0") ∧
      (storage.apply (.store "https://b.dev" "token" ⟨false, false, .written⟩)).fileEntry
        "https://a.dev" = none ∧
      (storage.apply (.store "https://b.dev" "token" ⟨false, true, .torn⟩)).fileEntry
        "https://a.dev" = none ∧
      (storage.apply (.remove "https://b.dev" ⟨true, false, .written⟩)).fileEntry
        "https://a.dev" = none := by
  refine ⟨rfl, rfl, rfl, rfl⟩

end SecureStorage

end CoderDesktop.Data
