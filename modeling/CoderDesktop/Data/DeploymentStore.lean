import CoderDesktop.Data.SessionManager
import CoderDesktop.Encoding.IsoDate
import CoderDesktop.Encoding.JsonText
import CoderDesktop.Semantics.Run
import Mathlib.Data.List.Nodup
import Mathlib.Data.String.Basic

/-!
# The saved deployments

The session with the text its list of deployments is saved as. `QJsonDocument` and the
ISO format of `QDateTime` are parameters; a restart builds the session from the text.
Each operation keeps the list, the copy of its active entry and the text in agreement.
-/

namespace CoderDesktop.Settings.Json

/-- Assignment to a key; an object keeps its entries in the order of their keys. -/
def insert (key : String) (value : Json) : List (String × Json) → List (String × Json)
  | [] => [(key, value)]
  | (other, old) :: rest =>
      if key < other then (key, value) :: (other, old) :: rest
      else if key = other then (key, value) :: rest
      else (other, old) :: insert key value rest

/-- `QJsonObject` from a list of assignments. -/
def ofAssignments (assignments : List (String × Json)) : List (String × Json) :=
  assignments.foldl (fun entries assignment => insert assignment.1 assignment.2 entries) []

/-- The value of a field of a deployment. -/
def isScalar : Json → Bool
  | .bool _ | .string _ => true
  | .null | .number _ | .array _ | .object _ => false

/-- The objects with texts and booleans only. -/
structure IsFlat (entries : List (String × Json)) : Prop where
  inOrder : (entries.map Prod.fst).Pairwise (· < ·)
  scalar : ∀ entry ∈ entries, entry.2.isScalar = true

variable {key : String} {value : Json} {entries : List (String × Json)}

/-- The first entry of a key is its value. -/
theorem value_cons (other : String) :
    Json.value ((key, value) :: entries) other =
      if other = key then value else Json.value entries other := by
  unfold Json.value entry
  by_cases same : other = key
  · subst same
    simp
  · have differs : (other == key) = false := beq_eq_false_iff_ne.mpr same
    simp only [List.lookup_cons, differs, if_neg same]

/-- An inserted entry is its key's value. -/
theorem value_insert (other : String) :
    Json.value (insert key value entries) other =
      if other = key then value else Json.value entries other := by
  induction entries with
  | nil => exact value_cons other
  | cons head rest inductionHypothesis =>
      obtain ⟨name, old⟩ := head
      unfold insert
      split
      · exact value_cons other
      split
      · rename_i same
        subst same
        rw [value_cons, value_cons]
        split <;> rfl
      · rename_i differs
        rw [value_cons, value_cons, inductionHypothesis]
        by_cases first : other = name
        · have apart : other ≠ key := fun same => differs (same ▸ first)
          rw [if_pos first, if_neg apart, if_pos first]
        · rw [if_neg first, if_neg first]

/-- Inserting adds one entry at most. -/
theorem mem_insert {entry : String × Json} (member : entry ∈ insert key value entries) :
    entry = (key, value) ∨ entry ∈ entries := by
  induction entries with
  | nil => exact .inl (List.mem_singleton.mp member)
  | cons head rest inductionHypothesis =>
      unfold insert at member
      split at member
      · exact List.mem_cons.mp member
      split at member
      · exact (List.mem_cons.mp member).imp_right (List.mem_cons_of_mem head)
      · rcases List.mem_cons.mp member with rfl | later
        · exact .inr List.mem_cons_self
        · exact (inductionHypothesis later).imp_right (List.mem_cons_of_mem head)

/-- An object is flat when its head is scalar and comes first, and its rest is flat. -/
theorem isFlat_cons {head : String × Json} : IsFlat (head :: entries) ↔
    (head.2.isScalar = true ∧ ∀ entry ∈ entries, head.1 < entry.1) ∧ IsFlat entries := by
  constructor
  · rintro ⟨inOrder, scalar⟩
    obtain ⟨first, rest⟩ := List.pairwise_cons.mp inOrder
    refine ⟨⟨scalar head List.mem_cons_self, fun entry member => ?_⟩, rest, fun entry member => ?_⟩
    · exact first entry.1 (List.mem_map_of_mem member)
    · exact scalar entry (.tail _ member)
  · rintro ⟨⟨scalar, first⟩, rest⟩
    refine ⟨List.pairwise_cons.mpr ⟨fun other member => ?_, rest.inOrder⟩, ?_⟩
    · obtain ⟨entry, listed, rfl⟩ := List.mem_map.mp member
      exact first entry listed
    · exact List.forall_mem_cons.mpr ⟨scalar, rest.scalar⟩

/-- Inserting a scalar keeps an object flat. -/
theorem IsFlat.insert (flat : IsFlat entries) (scalar : value.isScalar = true) :
    IsFlat (Json.insert key value entries) := by
  induction entries with
  | nil => exact isFlat_cons.mpr ⟨⟨scalar, nofun⟩, flat⟩
  | cons head rest inductionHypothesis =>
      obtain ⟨⟨known, first⟩, later⟩ := isFlat_cons.mp flat
      unfold Json.insert
      split
      · rename_i earlier
        refine isFlat_cons.mpr ⟨⟨scalar, List.forall_mem_cons.mpr ⟨earlier, ?_⟩⟩, flat⟩
        exact fun entry member => earlier.trans (first entry member)
      split
      · rename_i same
        exact isFlat_cons.mpr ⟨⟨scalar, same ▸ first⟩, later⟩
      · rename_i notEarlier differs
        have behind := lt_of_le_of_ne (not_lt.mp notEarlier) (Ne.symm differs)
        refine isFlat_cons.mpr ⟨⟨known, fun entry member => ?_⟩, inductionHypothesis later⟩
        rcases mem_insert member with rfl | listed
        · exact behind
        · exact first entry listed

/-- Assignments of scalars make a flat object. -/
theorem isFlat_ofAssignments {assignments : List (String × Json)}
    (scalar : ∀ assignment ∈ assignments, assignment.2.isScalar = true) :
    IsFlat (ofAssignments assignments) := by
  unfold ofAssignments
  induction assignments using List.reverseRecOn with
  | nil => exact ⟨List.Pairwise.nil, nofun⟩
  | append_singleton assignments last inductionHypothesis =>
      rw [List.foldl_append]
      refine IsFlat.insert (inductionHypothesis fun other member => ?_) (scalar last (by simp))
      exact scalar other (List.mem_append_left _ member)

end CoderDesktop.Settings.Json

namespace CoderDesktop.Data

open Semantics Settings Encoding

/-- What a list goes through when it is saved and loaded. -/
structure TextFormats where
  /-- `QJsonDocument::toJson(Compact)`, as a text. -/
  toJson : Json → String
  /-- `QJsonDocument::fromJson`; nothing when the text is no JSON. -/
  fromJson : String → Option Json
  /-- `QDateTime::toString(Qt::ISODate)`, of a time in milliseconds. -/
  toIsoDate : Int → String
  fromIsoDate : String → Int

/-- The years an ISO date has four digits for, from the epoch on. -/
def InTime (time : Int) : Prop := 0 ≤ time ∧ time < 1000 * (IsoDate.endOfTime : Int)

instance (time : Int) : Decidable (InTime time) := inferInstanceAs (Decidable (_ ∧ _))

/-- What is written is read back, a time to the second. -/
structure TextFormats.Faithful (formats : TextFormats) : Prop where
  written : ∀ values, formats.toJson (.array values) ≠ ""
  json : ∀ objects : List (List (String × Json)), (∀ entries ∈ objects, Json.IsFlat entries) →
    formats.fromJson (formats.toJson (.array (objects.map .object))) =
      some (.array (objects.map .object))
  isoDate : ∀ time, InTime time →
    formats.fromIsoDate (formats.toIsoDate time) = time / 1000 * 1000

variable (formats : TextFormats)

namespace Deployment

/-- A deployment as it is saved. -/
def toObject (deployment : Deployment) : List (String × Json) :=
  Json.ofAssignments [("id", .string deployment.id), ("name", .string deployment.name),
    ("url", .string deployment.url), ("username", .string deployment.username),
    ("avatarUrl", .string deployment.avatarUrl), ("isActive", .bool deployment.isActive),
    ("addedAt", .string (formats.toIsoDate deployment.addedAt))]

/-- A deployment as it is loaded; a field that is not there is empty. -/
def ofObject (entries : List (String × Json)) : Deployment where
  id := (Json.value entries "id").toText
  name := (Json.value entries "name").toText
  url := (Json.value entries "url").toText
  username := (Json.value entries "username").toText
  avatarUrl := (Json.value entries "avatarUrl").toText
  isActive := (Json.value entries "isActive").toBool
  addedAt := formats.fromIsoDate (Json.value entries "addedAt").toText

end Deployment

/-- The text `saveDeployments` puts into the settings. -/
def saveDeployments (deployments : List Deployment) : String :=
  formats.toJson (.array (deployments.map fun deployment => .object (deployment.toObject formats)))

/-- The list and the active deployment `loadDeployments` makes of the text. -/
def loadDeployments (raw : String) : List Deployment × Deployment :=
  if raw = "" then ([], .none)
  else
    match formats.fromJson raw with
    | some (.array values) =>
        let loaded := values.map fun value => Deployment.ofObject formats value.toObject
        (loaded, SessionManager.loadDeployments loaded)
    | _ => ([], .none)

/-- The session manager, and the setting with the saved deployments. -/
structure DeploymentStore where
  session : SessionManager
  /-- The setting, empty when there is none. -/
  raw : String

/-- An operation, or a restart of the application. -/
inductive StoreEvent where
  | operation (event : SessionEvent)
  | restart (lookup : LookupOutcome)

/-- The operation ends in `saveDeployments`. -/
def SessionManager.saves (session : SessionManager) : SessionEvent → Bool
  | .login _ _ | .loginFinished _ (.error _) _ _ => false
  | .loginFinished _ (.ok _) _ _ | .logout _ | .removeDeployment _ _ => true
  | .switchDeployment url lookup =>
      session.deployments.any (·.url = url) ∧ session.storage.retrieveToken url lookup ≠ ""

/-- The clock shows a year of four digits. -/
def SessionEvent.InTime : SessionEvent → Prop
  | .loginFinished _ _ _ now => Data.InTime now
  | .login _ _ | .logout _ | .switchDeployment _ _ | .removeDeployment _ _ => True

instance : (event : SessionEvent) → Decidable event.InTime
  | .loginFinished _ _ _ now => inferInstanceAs (Decidable (Data.InTime now))
  | .login _ _ | .logout _ | .switchDeployment _ _ | .removeDeployment _ _ => .isTrue trivial

namespace DeploymentStore

/-- Nothing saved yet. -/
def new (storage : SecureStorage) (lookup : LookupOutcome) : DeploymentStore where
  session := .new storage [] lookup
  raw := ""

/-- An operation writes the setting when it saves; a restart reads it. -/
def next (store : DeploymentStore) : StoreEvent → Option DeploymentStore
  | .operation event =>
      if event.InTime then
        (store.session.step event).map fun result =>
          { session := result.1
            raw :=
              if store.session.saves event then saveDeployments formats result.1.deployments
              else store.raw }
      else none
  | .restart lookup =>
      some { store with
        session := .new store.session.storage (loadDeployments formats store.raw).1 lookup }

/-- What holds of the list, of the copy of its active entry and of the text. -/
structure Consistent (store : DeploymentStore) : Prop where
  distinct : (store.session.deployments.map (·.url)).Nodup
  active : (store.session.deployments.filter (·.isActive) = [] ∧
      store.session.activeDeployment = .none) ∨
    store.session.deployments.filter (·.isActive) = [store.session.activeDeployment]
  reloads : loadDeployments formats store.raw =
    (store.session.deployments.map Deployment.persisted, store.session.activeDeployment.persisted)

end DeploymentStore

variable {formats}

/-! ## The text -/

namespace Deployment

/-- A deployment makes a flat object. -/
theorem isFlat_toObject (deployment : Deployment) : Json.IsFlat (deployment.toObject formats) :=
  Json.isFlat_ofAssignments (by simp [Json.isScalar])

/-- What is written of a deployment is read back. -/
theorem ofObject_toObject (faithful : formats.Faithful) {deployment : Deployment}
    (time : InTime deployment.addedAt) :
    ofObject formats (deployment.toObject formats) = deployment.persisted := by
  have date := faithful.isoDate _ time
  simp [ofObject, toObject, Json.ofAssignments, Json.value_insert, Json.toText, Json.toBool,
    persisted, date]

/-- Writing twice loses nothing more. -/
theorem persisted_persisted (deployment : Deployment) :
    deployment.persisted.persisted = deployment.persisted := by
  simp [persisted]

/-- What is read back has a time the format knows. -/
theorem inTime_persisted {deployment : Deployment} (time : InTime deployment.addedAt) :
    InTime deployment.persisted.addedAt := by
  unfold InTime persisted at *
  dsimp only
  omega

end Deployment

/-- The active deployment is found in the list that was loaded. -/
theorem snd_loadDeployments (raw : String) : (loadDeployments formats raw).2 =
    SessionManager.loadDeployments (loadDeployments formats raw).1 := by
  unfold loadDeployments
  split
  · rfl
  · split <;> rfl

/-- What is saved is loaded again. -/
theorem loadDeployments_saveDeployments (faithful : formats.Faithful)
    {deployments : List Deployment} (times : ∀ entry ∈ deployments, InTime entry.addedAt) :
    (loadDeployments formats (saveDeployments formats deployments)).1 =
      deployments.map Deployment.persisted := by
  have objects : deployments.map (fun entry => Json.object (entry.toObject formats)) =
      (deployments.map (Deployment.toObject formats)).map Json.object := by
    rw [List.map_map]
    rfl
  have flat : ∀ entries ∈ deployments.map (Deployment.toObject formats), Json.IsFlat entries := by
    intro entries member
    obtain ⟨entry, -, rfl⟩ := List.mem_map.mp member
    exact entry.isFlat_toObject
  unfold loadDeployments saveDeployments
  rw [if_neg (faithful.written _), objects, faithful.json _ flat]
  simp only [List.map_map]
  refine List.map_congr_left fun entry member => ?_
  simp only [Function.comp_apply, Json.toObject]
  exact Deployment.ofObject_toObject faithful (times entry member)

/-! ## The list and the copy of its active entry -/

/-- What the operations keep of the list and the copy. -/
structure Listed (deployments : List Deployment) (active : Deployment) : Prop where
  distinct : (deployments.map (·.url)).Nodup
  active : (deployments.filter (·.isActive) = [] ∧ active = .none) ∨
    deployments.filter (·.isActive) = [active]
  times : ∀ entry ∈ deployments, InTime entry.addedAt

/-- After deactivating no deployment is active. -/
theorem filter_deactivate (deployments : List Deployment) :
    (deployments.map Deployment.deactivate).filter (·.isActive) = [] := by
  rw [List.filter_eq_nil_iff]
  intro entry member
  obtain ⟨other, -, rfl⟩ := List.mem_map.mp member
  exact Bool.false_ne_true

/-- An active deployment put in a list without one is the only one. -/
theorem filter_replaceDeployment {deployment : Deployment} (active : deployment.isActive = true)
    {deployments : List Deployment} (inactive : deployments.filter (·.isActive) = []) :
    (replaceDeployment deployment deployments).filter (·.isActive) = [deployment] := by
  induction deployments with
  | nil => exact List.filter_cons_of_pos active
  | cons entry rest inductionHypothesis =>
      obtain ⟨first, later⟩ := List.forall_mem_cons.mp (List.filter_eq_nil_iff.mp inactive)
      have others := List.filter_eq_nil_iff.mpr later
      unfold replaceDeployment
      split
      · rw [List.filter_cons_of_pos active, others]
      · rw [List.filter_cons_of_neg first, inductionHypothesis others]

/-- Replacing adds one deployment at most. -/
theorem mem_replaceDeployment {deployment entry : Deployment} {deployments : List Deployment}
    (member : entry ∈ replaceDeployment deployment deployments) :
    entry = deployment ∨ entry ∈ deployments := by
  induction deployments with
  | nil => exact .inl (List.mem_singleton.mp member)
  | cons head rest inductionHypothesis =>
      unfold replaceDeployment at member
      split at member
      · exact (List.mem_cons.mp member).imp_right (.tail _)
      · rcases List.mem_cons.mp member with rfl | later
        · exact .inr List.mem_cons_self
        · exact (inductionHypothesis later).imp_right (.tail _)

/-- Replacing keeps the URLs distinct. -/
theorem nodup_replaceDeployment {deployment : Deployment} {deployments : List Deployment}
    (distinct : (deployments.map (·.url)).Nodup) :
    ((replaceDeployment deployment deployments).map (·.url)).Nodup := by
  induction deployments with
  | nil => exact List.nodup_singleton _
  | cons head rest inductionHypothesis =>
      obtain ⟨fresh, others⟩ := List.nodup_cons.mp distinct
      unfold replaceDeployment
      split
      · rename_i same
        have absent : head.url ∉ rest.map (·.url) := fresh
        exact List.nodup_cons.mpr ⟨(same ▸ absent : deployment.url ∉ rest.map (·.url)), others⟩
      · rename_i differs
        refine List.nodup_cons.mpr ⟨fun listed => ?_, inductionHypothesis others⟩
        obtain ⟨entry, member, same⟩ := List.mem_map.mp listed
        rcases mem_replaceDeployment member with rfl | later
        · exact differs same.symm
        · exact fresh (same ▸ List.mem_map_of_mem later)

/-- A change keeps the fields it does not touch. -/
theorem map_modify_of_same (change : Deployment → Deployment) {Field : Type}
    (field : Deployment → Field) (same : ∀ entry, field (change entry) = field entry)
    (deployments : List Deployment) (index : Nat) :
    (deployments.modify index change).map field = deployments.map field := by
  refine List.ext_getElem? fun other => ?_
  rw [List.getElem?_map, List.getElem?_map, List.getElem?_modify]
  cases deployments[other]? with
  | none => rfl
  | some entry =>
      simp only [Option.map_eq_map, Option.map_some]
      split <;> simp [same]

namespace Listed

variable {deployments : List Deployment} {active : Deployment}

/-- An empty list has no active deployment. -/
theorem empty : Listed [] .none := ⟨List.nodup_nil, .inl ⟨rfl, rfl⟩, nofun⟩

/-- A change to the entries that keeps URLs and times. -/
theorem rewrite (listed : Listed deployments active) {after : List Deployment} {next : Deployment}
    (urls : after.map (·.url) = deployments.map (·.url))
    (times : after.map (·.addedAt) = deployments.map (·.addedAt))
    (nowActive : (after.filter (·.isActive) = [] ∧ next = .none) ∨
      after.filter (·.isActive) = [next]) : Listed after next := by
  refine ⟨(urls ▸ listed.distinct :), nowActive, fun entry member => ?_⟩
  have known : entry.addedAt ∈ deployments.map (·.addedAt) := times ▸ List.mem_map_of_mem member
  obtain ⟨other, old, same⟩ := List.mem_map.mp known
  exact same ▸ listed.times other old

/-- The active entry is the session's. -/
theorem isActive_iff (listed : Listed deployments active) {entry : Deployment}
    (member : entry ∈ deployments) (isActive : entry.isActive = true) : entry = active := by
  have found : entry ∈ deployments.filter (·.isActive) := List.mem_filter.mpr ⟨member, isActive⟩
  rcases listed.active with ⟨none, -⟩ | single
  · rw [none] at found
    cases found
  · rw [single] at found
    exact List.mem_singleton.mp found

/-- A login's deployment is the only active one. -/
theorem loginSucceeded (listed : Listed deployments active) {deployment : Deployment}
    (isActive : deployment.isActive = true) (time : InTime deployment.addedAt) :
    Listed (replaceDeployment deployment (deployments.map Deployment.deactivate)) deployment := by
  refine ⟨nodup_replaceDeployment ?_, .inr ?_, fun entry member => ?_⟩
  · rw [List.map_map]
    exact listed.distinct
  · exact filter_replaceDeployment isActive (filter_deactivate deployments)
  · rcases mem_replaceDeployment member with rfl | old
    · exact time
    · obtain ⟨other, known, rfl⟩ := List.mem_map.mp old
      exact listed.times other known

/-- A logout leaves none active. -/
theorem logout (listed : Listed deployments active) :
    Listed (deployments.map fun entry => if entry.url = active.url then entry.deactivate else entry)
      .none := by
  refine listed.rewrite ?_ ?_ (.inl ⟨?_, rfl⟩)
  · rw [List.map_map]
    refine List.map_congr_left fun entry _ => ?_
    simp only [Function.comp_apply]
    split <;> rfl
  · rw [List.map_map]
    refine List.map_congr_left fun entry _ => ?_
    simp only [Function.comp_apply]
    split <;> rfl
  · rw [List.filter_eq_nil_iff]
    intro entry member
    obtain ⟨other, known, rfl⟩ := List.mem_map.mp member
    split
    · exact Bool.false_ne_true
    · rename_i apart
      exact fun isActive => apart (congrArg _ (listed.isActive_iff known isActive))

/-- A switch makes another one active. -/
theorem switchDeployment (listed : Listed deployments active) {index : Nat}
    (within : index < deployments.length) :
    Listed ((deployments.map Deployment.deactivate).modify index .activate)
      deployments[index].activate := by
  have inactive := List.filter_eq_nil_iff.mp (filter_deactivate deployments)
  refine listed.rewrite ?_ ?_ (.inr ?_)
  · rw [map_modify_of_same .activate (·.url) fun _ => rfl, List.map_map]
    rfl
  · rw [map_modify_of_same .activate (·.addedAt) fun _ => rfl, List.map_map]
    rfl
  · rw [List.modify_eq_take_cons_drop (by rwa [List.length_map]), List.filter_append,
      List.filter_cons_of_pos rfl, List.getElem_map]
    have earlier : ((deployments.map Deployment.deactivate).take index).filter (·.isActive) = [] :=
      List.filter_eq_nil_iff.mpr fun entry member => inactive entry (List.mem_of_mem_take member)
    have later :
        ((deployments.map Deployment.deactivate).drop (index + 1)).filter (·.isActive) = [] :=
      List.filter_eq_nil_iff.mpr fun entry member => inactive entry (List.mem_of_mem_drop member)
    rw [earlier, later]
    rfl

/-- A removal keeps the active one unless it is removed. -/
theorem removeDeployment (listed : Listed deployments active) (url : String) :
    Listed (deployments.filter (·.url ≠ url)) (if active.url = url then .none else active) := by
  refine ⟨?_, ?_, fun entry member => listed.times entry (List.mem_filter.mp member).1⟩
  · exact listed.distinct.sublist (List.filter_sublist.map _)
  · rw [List.filter_comm]
    rcases listed.active with ⟨none, empty⟩ | single
    · refine .inl ⟨by rw [none]; rfl, ?_⟩
      rw [empty]
      split <;> rfl
    · rw [single]
      split
      · rename_i same
        exact .inl ⟨by simp [same], rfl⟩
      · rename_i differs
        exact .inr (by simp [differs])

/-- What is written is well formed too. -/
theorem persisted (listed : Listed deployments active) :
    Listed (deployments.map Deployment.persisted) active.persisted := by
  have filtered : (deployments.map Deployment.persisted).filter (·.isActive) =
      (deployments.filter (·.isActive)).map Deployment.persisted := List.filter_map
  refine ⟨?_, ?_, fun entry member => ?_⟩
  · rw [List.map_map]
    exact listed.distinct
  · rw [filtered]
    rcases listed.active with ⟨none, empty⟩ | single
    · exact .inl ⟨by rw [none]; rfl, by rw [empty]; rfl⟩
    · exact .inr (by rw [single]; rfl)
  · obtain ⟨other, known, rfl⟩ := List.mem_map.mp member
    exact Deployment.inTime_persisted (listed.times other known)

/-- The active deployment is what loading makes of the list. -/
theorem loadDeployments_eq (listed : Listed deployments active) :
    SessionManager.loadDeployments deployments = active := by
  unfold SessionManager.loadDeployments
  rcases listed.active with ⟨none, empty⟩ | single
  · rw [none, empty]
    rfl
  · rw [single]
    rfl

end Listed

/-! ## Runs -/

namespace DeploymentStore

variable {store after : DeploymentStore}

/-- The list and the copy are kept, and the text is that of the list. -/
structure Kept (formats : TextFormats) (store : DeploymentStore) : Prop where
  listed : Listed store.session.deployments store.session.activeDeployment
  reloads : (loadDeployments formats store.raw).1 =
    store.session.deployments.map Deployment.persisted

/-- A store that is kept is consistent. -/
theorem Kept.consistent (kept : store.Kept formats) : store.Consistent formats := by
  refine ⟨kept.listed.distinct, kept.listed.active, Prod.ext kept.reloads ?_⟩
  rw [snd_loadDeployments, kept.reloads]
  exact kept.listed.persisted.loadDeployments_eq

/-- A session is kept once it is saved. -/
theorem Kept.saved {session : SessionManager} (faithful : formats.Faithful)
    (listed : Listed session.deployments session.activeDeployment) :
    Kept formats ⟨session, saveDeployments formats session.deployments⟩ :=
  ⟨listed, loadDeployments_saveDeployments faithful listed.times⟩

/-- An operation that does not save leaves list and copy alone. -/
theorem Kept.unsaved (kept : store.Kept formats) {session : SessionManager}
    (deployments : session.deployments = store.session.deployments)
    (active : session.activeDeployment = store.session.activeDeployment) :
    Kept formats ⟨session, store.raw⟩ :=
  ⟨deployments ▸ active ▸ kept.listed, deployments ▸ kept.reloads⟩

/-- A new store is kept. -/
theorem kept_new (storage : SecureStorage) (lookup : LookupOutcome) :
    (new storage lookup).Kept formats :=
  ⟨.empty, rfl⟩

/-- Nothing happens, or the switch finds an entry and a token. -/
theorem switchDeployment_outcome (session : SessionManager) (url : String)
    (lookup : LookupOutcome) :
    (session.saves (.switchDeployment url lookup) = false ∧
        (session.switchDeployment url lookup).1 = session) ∨
      ∃ index, ∃ within : index < session.deployments.length,
        session.saves (.switchDeployment url lookup) = true ∧
          (session.switchDeployment url lookup).1.deployments =
            (session.deployments.map Deployment.deactivate).modify index .activate ∧
          (session.switchDeployment url lookup).1.activeDeployment =
            session.deployments[index].activate := by
  unfold SessionManager.switchDeployment
  cases found : session.deployments.findIdx? (·.url = url) with
  | none =>
      have unlisted : session.deployments.any (·.url = url) = false :=
        List.any_eq_false.mpr fun entry member =>
          Bool.eq_false_iff.mp (List.findIdx?_eq_none_iff.mp found entry member)
      exact .inl ⟨by simp only [SessionManager.saves, unlisted]; rfl, rfl⟩
  | some index =>
      obtain ⟨within, matching, -⟩ := List.findIdx?_eq_some_iff_getElem.mp found
      have listed : session.deployments.any (·.url = url) = true :=
        List.any_eq_true.mpr ⟨_, List.getElem_mem within, matching⟩
      simp only
      by_cases noToken : session.storage.retrieveToken url lookup = ""
      · rw [if_pos noToken]
        exact .inl ⟨by simp [SessionManager.saves, noToken], rfl⟩
      · rw [if_neg noToken]
        refine .inr ⟨index, within, ?_, rfl, ?_⟩
        · simp [SessionManager.saves, listed, noToken]
        · simp [SessionManager.saveDeployments, List.getElem?_eq_getElem within]

/-- Every operation keeps the store. -/
theorem kept_operation (faithful : formats.Faithful) (kept : store.Kept formats)
    {event : SessionEvent} (time : event.InTime) {session : SessionManager}
    {signals : List SessionSignal} (step : store.session.step event = some (session, signals)) :
    Kept formats
      { session := session
        raw :=
          if store.session.saves event then saveDeployments formats session.deployments
          else store.raw } := by
  cases event with
  | login url token =>
      obtain rfl := (Prod.mk.inj (Option.some.inj step)).1
      exact kept.unsaved rfl rfl
  | loginFinished index reply storing now =>
      obtain ⟨login, -, answered⟩ := Option.map_eq_some_iff.mp step
      cases reply with
      | error err =>
          obtain rfl := (Prod.mk.inj answered).1
          exact kept.unsaved rfl rfl
      | ok body =>
          obtain rfl := (Prod.mk.inj answered).1
          exact .saved faithful (kept.listed.loginSucceeded rfl time)
  | logout removing =>
      obtain rfl := (Prod.mk.inj (Option.some.inj step)).1
      exact .saved faithful kept.listed.logout
  | switchDeployment url lookup =>
      obtain rfl := congrArg Prod.fst (Option.some.inj step)
      rcases switchDeployment_outcome store.session url lookup with
        ⟨unsaved, same⟩ | ⟨index, within, saved, deployments, active⟩
      · rw [unsaved]
        exact kept.unsaved (congrArg _ same) (congrArg _ same)
      · rw [saved]
        refine .saved faithful ?_
        rw [deployments, active]
        exact kept.listed.switchDeployment within
  | removeDeployment url removing =>
      obtain rfl := congrArg Prod.fst (Option.some.inj step)
      refine .saved faithful ?_
      have removed := kept.listed.removeDeployment url
      unfold SessionManager.removeDeployment
      split
      · rename_i active
        rwa [if_pos active] at removed
      · rename_i other
        rwa [if_neg other] at removed

/-- Operations and restarts keep the store. -/
theorem kept_next (faithful : formats.Faithful) (kept : store.Kept formats) {event : StoreEvent}
    (taken : store.next formats event = some after) : after.Kept formats := by
  cases event with
  | operation event =>
      simp only [next] at taken
      split at taken
      · rename_i time
        obtain ⟨⟨session, signals⟩, step, rfl⟩ := Option.map_eq_some_iff.mp taken
        exact kept_operation faithful kept time step
      · cases taken
  | restart lookup =>
      obtain rfl := Option.some.inj taken
      have persisted := kept.listed.persisted
      have active := persisted.loadDeployments_eq
      rw [kept.reloads]
      refine ⟨?_, ?_⟩
      · exact (active ▸ persisted :)
      · exact kept.reloads.trans (by simp [SessionManager.new, Deployment.persisted_persisted])

/-- Whatever logins, logouts, switches, removals and restarts follow each other, URLs are
distinct, the copy is the active entry, and the text loads as the same list with the same
active entry, times to the second. -/
theorem consistent_of_runs (faithful : formats.Faithful) {storage : SecureStorage}
    {lookup : LookupOutcome} {events : List StoreEvent}
    (run : Runs (next formats) (new storage lookup) events store) : store.Consistent formats := by
  have kept : store.Kept formats := run.invariant (kept_new storage lookup)
    fun _ _ _ kept taken => kept_next faithful kept taken
  exact kept.consistent

/-! ## Formats that are faithful -/

/-- The value of a field, as the text of JSON has it. -/
def scalar? : Json → Option JsonText.Scalar
  | .string value => some (.text value)
  | .bool value => some (.bool value)
  | .null | .number _ | .array _ | .object _ => none

/-- A value of the text as JSON. -/
def ofScalar : JsonText.Scalar → Json
  | .text value => .string value
  | .bool value => .bool value

/-- Compact JSON, of arrays of flat objects, and ISO dates. -/
def compactFormats : TextFormats where
  toJson document := String.ofList <| JsonText.write <| document.toArray.map fun value =>
    value.toObject.filterMap fun entry => (scalar? entry.2).map (Prod.mk entry.1)
  fromJson text := (JsonText.read text.toList).map fun objects =>
    .array (objects.map fun members => .object (members.map (Prod.map id ofScalar)))
  toIsoDate time := String.ofList (IsoDate.write (.ofSeconds (time / 1000).toNat))
  fromIsoDate text :=
    ((IsoDate.read text.toList).map fun moment => (moment.seconds : Int) * 1000).getD 0

/-- Scalars survive being written. -/
theorem map_ofScalar {entries : List (String × Json)}
    (scalar : ∀ entry ∈ entries, entry.2.isScalar = true) :
    (entries.filterMap fun entry => (scalar? entry.2).map (Prod.mk entry.1)).map
      (Prod.map id ofScalar) = entries := by
  induction entries with
  | nil => rfl
  | cons head rest inductionHypothesis =>
      obtain ⟨known, others⟩ := List.forall_mem_cons.mp scalar
      obtain ⟨key, value⟩ := head
      have same := inductionHypothesis others
      cases value with
      | bool value => exact congrArg (List.cons _) same
      | string value => exact congrArg (List.cons _) same
      | null | number _ | array _ | object _ => cases known

/-- The example's formats read back what they write. -/
theorem compactFormats_faithful : compactFormats.Faithful where
  written values empty := by
    have chars := congrArg String.toList empty
    rw [compactFormats, String.toList_ofList, JsonText.write] at chars
    unfold writeList at chars
    split at chars <;> cases chars
  json objects flat := by
    simp only [compactFormats, String.toList_ofList, JsonText.read_write, Option.map_some,
      Json.toArray, List.map_map]
    refine congrArg (some ∘ Json.array) (List.map_congr_left fun entries member => ?_)
    exact congrArg Json.object (map_ofScalar (flat entries member).scalar)
  isoDate time inTime := by
    obtain ⟨seconds, whole⟩ := Int.eq_ofNat_of_zero_le (Int.ediv_nonneg inTime.1 (by decide) :
      0 ≤ time / 1000)
    have early : seconds < IsoDate.endOfTime := by
      have before := inTime.2
      omega
    obtain ⟨moment, read, same⟩ := Option.map_eq_some_iff.mp (IsoDate.seconds_read_write early)
    simp [compactFormats, whole, read, same]

/-- A login, one that fails, and a restart. -/
theorem consistent_of_restart : ∃ store,
    Runs (next compactFormats) (new (.empty true) ⟨true, true⟩)
      [.operation (.login "https://a.dev" "t1"),
        .operation (.loginFinished 0 (.ok [("username", .string "ann")]) ⟨true, true, .written⟩
          1709210096789),
        .operation (.login "https://b.dev" "t2"),
        .operation (.loginFinished 0 (.error "Host not found") ⟨true, true, .written⟩
          1709210101000),
        .restart ⟨true, true⟩] store ∧
      store.session.activeDeployment.url = "https://a.dev" ∧ store.Consistent compactFormats := by
  refine (runs_of_replay (fun store : DeploymentStore =>
    store.session.activeDeployment.url = "https://a.dev") (by decide +kernel)).imp
      fun store ⟨run, shown⟩ => ⟨run, of_decide_eq_true shown, ?_⟩
  exact consistent_of_runs compactFormats_faithful run

end DeploymentStore

end CoderDesktop.Data
