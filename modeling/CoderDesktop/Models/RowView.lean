import CoderDesktop.Models.ListModels

/-!
# The view of a list model

A view keeps rows of its own and follows the changes it is told of one by one: it drops
a removed row, and reads an inserted or changed one from the model as it is then. After
`setWorkspaces` and `setTasks` it shows the rows of the model, which are those of the new
list: the surviving ones in their old order, the others behind them.
-/

namespace CoderDesktop.Models

universe u v

variable {Row : Type u} {Key : Type v}

/-! ## Views -/

/-- A change as a view meets it: what it is told, and the model's rows at that moment. -/
structure Told (Row : Type u) where
  change : RowChange
  model : List Row

/-- The rows shown after a change; `none` when its row is not valid for the view. -/
def Told.follow (shown : List Row) (told : Told Row) : Option (List Row) :=
  match told.change with
  | .removed row => if row < shown.length then some (shown.eraseIdx row) else none
  | .dataChanged row =>
      if row < shown.length then told.model[row]?.map fun value => shown.set row value else none
  | .inserted row =>
      if row ≤ shown.length then told.model[row]?.map fun value => shown.insertIdx row value
      else none

/-- The rows shown after changes in order. -/
def shows (shown : List Row) (told : List (Told Row)) : Option (List Row) :=
  told.foldlM Told.follow shown

@[simp] theorem shows_nil (shown : List Row) : shows shown [] = some shown := rfl

@[simp] theorem shows_cons (shown : List Row) (told : Told Row) (rest : List (Told Row)) :
    shows shown (told :: rest) = (told.follow shown).bind fun next => shows next rest := rfl

/-- A view follows the announcements one after the other. -/
theorem shows_append (shown : List Row) (first second : List (Told Row)) :
    shows shown (first ++ second) = (shows shown first).bind fun next => shows next second :=
  List.foldlM_append

/-- A removed row goes from the view. -/
theorem follow_removed {shown model : List Row} {row : Nat} (valid : row < shown.length) :
    (Told.mk (.removed row) model).follow shown = some (shown.eraseIdx row) :=
  if_pos valid

/-- A changed row is read anew. -/
theorem follow_dataChanged {shown : List Row} {row : Nat} (value : Row)
    (valid : row < shown.length) :
    (Told.mk (.dataChanged row) (shown.set row value)).follow shown =
      some (shown.set row value) := by
  rw [Told.follow]
  simp [valid]

/-- An inserted row is read from the model. -/
theorem follow_inserted (shown : List Row) (value : Row) :
    (Told.mk (.inserted shown.length) (shown ++ [value])).follow shown =
      some (shown ++ [value]) := by
  rw [Told.follow]
  simp [List.insertIdx_length_self]

/-! ## What the view meets during an update -/

variable [DecidableEq Key] (key : Row → Key)

/-- `removeMissing` with the rows at each change. -/
def removeMissingTold (keys : List Key) : Nat → List Row → List (Told Row)
  | 0, _ => []
  | row + 1, rows =>
      if (rows[row]?).any (key · ∉ keys) then
        ⟨.removed row, rows.eraseIdx row⟩ :: removeMissingTold keys row (rows.eraseIdx row)
      else removeMissingTold keys row rows

omit [DecidableEq Key] in
/-- `applyRows` with the rows at each change. -/
def applyRowsTold (positions : Key → Option Nat) : List Row → List Row → List (Told Row)
  | [], _ => []
  | row :: rest, rows =>
      match positions (key row) with
      | some index =>
          ⟨.dataChanged index, rows.set index row⟩ ::
            applyRowsTold positions rest (rows.set index row)
      | none =>
          ⟨.inserted rows.length, rows ++ [row]⟩ :: applyRowsTold positions rest (rows ++ [row])

/-- `setRows` with the rows at each change. -/
def setRowsTold (new rows : List Row) : List (Told Row) :=
  let kept := (removeMissing key (new.map key) rows.length rows).1
  removeMissingTold key (new.map key) rows.length rows ++
    applyRowsTold key (currentPositions key kept) new kept

variable {key}

/-- The announcements are those of the source. -/
theorem change_removeMissingTold (keys : List Key) (count : Nat) (rows : List Row) :
    (removeMissingTold key keys count rows).map Told.change =
      (removeMissing key keys count rows).2 := by
  induction count generalizing rows with
  | zero => rfl
  | succ row inductionHypothesis =>
      rw [removeMissingTold, removeMissing]
      split
      · rw [List.map_cons, inductionHypothesis]
      · exact inductionHypothesis rows

omit [DecidableEq Key] in
/-- The announcements of the rows that are set are those of the source. -/
theorem change_applyRowsTold (positions : Key → Option Nat) (new rows : List Row) :
    (applyRowsTold key positions new rows).map Told.change =
      (applyRows key positions new rows).2 := by
  induction new generalizing rows with
  | nil => rfl
  | cons row rest inductionHypothesis =>
      rw [applyRowsTold, applyRows]
      cases positions (key row) with
      | some index => simp only [List.map_cons, inductionHypothesis]
      | none => simp only [List.map_cons, inductionHypothesis]

/-- The changes met are those announced. -/
theorem change_setRowsTold (new rows : List Row) :
    (setRowsTold key new rows).map Told.change = (setRows key new rows).2 := by
  rw [setRowsTold, List.map_append, change_removeMissingTold, change_applyRowsTold]
  rfl

/-! ## The view after an update -/

/-- A view that follows the removals shows what is left. -/
theorem shows_removeMissingTold (keys : List Key) (count : Nat) (rows : List Row) :
    shows rows (removeMissingTold key keys count rows) =
      some (removeMissing key keys count rows).1 := by
  induction count generalizing rows with
  | zero => rfl
  | succ row inductionHypothesis =>
      rw [removeMissingTold, removeMissing]
      by_cases gone : (rows[row]?).any (key · ∉ keys)
      · have valid : row < rows.length := by
          by_contra outside
          rw [List.getElem?_eq_none (Nat.le_of_not_lt outside)] at gone
          cases gone
        rw [if_pos gone, if_pos gone, shows_cons, follow_removed valid, Option.bind_some,
          inductionHypothesis]
      · rw [if_neg gone, if_neg gone, inductionHypothesis]

omit [DecidableEq Key] in
/-- The positions stay valid while rows are appended. -/
theorem shows_applyRowsTold {positions : Key → Option Nat} {new rows : List Row}
    (valid : ∀ row ∈ new, ∀ index, positions (key row) = some index → index < rows.length) :
    shows rows (applyRowsTold key positions new rows) =
      some (applyRows key positions new rows).1 := by
  induction new generalizing rows with
  | nil => rfl
  | cons row rest inductionHypothesis =>
      obtain ⟨atRow, validRest⟩ := List.forall_mem_cons.mp valid
      rw [applyRowsTold, applyRows]
      cases place : positions (key row) with
      | some index =>
          simp only
          rw [shows_cons, follow_dataChanged row (atRow index place), Option.bind_some]
          refine inductionHypothesis ?_
          rwa [List.length_set]
      | none =>
          simp only
          rw [shows_cons, follow_inserted, Option.bind_some]
          refine inductionHypothesis fun other member index found => ?_
          have before := validRest other member index found
          rw [List.length_append]
          omega

/-- A view that showed the old rows shows the new ones, whatever the lists. -/
theorem shows_setRowsTold (new rows : List Row) :
    shows rows (setRowsTold key new rows) = some (setRows key new rows).1 := by
  rw [setRowsTold, shows_append, shows_removeMissingTold, Option.bind_some, shows_applyRowsTold]
  · rfl
  · intro row _ index found
    have keyThere := currentPositions_sound found
    rw [List.getElem?_map] at keyThere
    obtain ⟨there, found, -⟩ := Option.map_eq_some_iff.mp keyThere
    exact (List.getElem?_eq_some_iff.mp found).1

/-! ## Replacing the rows -/

/-- Among rows with distinct keys, the row of a key is the only one with it. -/
theorem find?_key_eq_some_iff {rows : List Row} (distinct : (rows.map key).Nodup) {sought : Key}
    {row : Row} :
    rows.find? (fun other => decide (key other = sought)) = some row ↔
      row ∈ rows ∧ key row = sought := by
  constructor
  · intro found
    have sameKey := List.find?_some found
    exact ⟨List.mem_of_find?_eq_some found, of_decide_eq_true sameKey⟩
  · rintro ⟨member, rfl⟩
    cases found : rows.find? (fun other => decide (key other = key row)) with
    | none => simpa using List.find?_eq_none.mp found row member
    | some other =>
        have sameKey := List.find?_some found
        rw [List.inj_on_of_nodup_map distinct (List.mem_of_find?_eq_some found) member
          (of_decide_eq_true sameKey)]

/-- Rows with distinct keys that are the same up to order have the same row for every key. -/
theorem find?_key_congr {rows others : List Row} (same : rows.Perm others)
    (distinct : (others.map key).Nodup) (sought : Key) :
    rows.find? (fun row => decide (key row = sought)) =
      others.find? (fun row => decide (key row = sought)) := by
  have distinctToo : (rows.map key).Nodup := (same.map key).nodup_iff.mpr distinct
  ext row
  rw [find?_key_eq_some_iff distinctToo, find?_key_eq_some_iff distinct, same.mem_iff]

variable (key) in
/-- An update of `old` that ends in `result`, as good as replacing the rows by `new`. -/
structure Replaces (old new result : List Row) (announced : List RowChange) : Prop where
  /-- Every key has the row it has in the new list. -/
  records : ∀ sought, result.find? (fun row => decide (key row = sought)) =
    new.find? (fun row => decide (key row = sought))
  order : result.map key =
    (old.map key).filter (fun sought => decide (sought ∈ new.map key)) ++
      (new.map key).filter fun sought => !decide (sought ∈ old.map key)
  met : (setRowsTold key new old).map Told.change = announced
  followed : shows old (setRowsTold key new old) = some result

/-- With distinct keys the rows become the new ones, and each change is announced. -/
theorem replaces_setRows {new rows : List Row} (distinctNew : (new.map key).Nodup)
    (distinct : (rows.map key).Nodup) :
    Replaces key rows new (setRows key new rows).1 (setRows key new rows).2 where
  records := find?_key_congr (setRows_perm distinctNew distinct) distinctNew
  order := keys_setRows new rows
  met := change_setRowsTold new rows
  followed := shows_setRowsTold new rows

/-! ## The models' operations -/

variable (key) in
/-- Overwrite the first row of the same key, or append. -/
def updateRow (row : Row) (rows : List Row) : List Row × RowChange :=
  match rows.findIdx? (fun other => decide (key other = key row)) with
  | some index => (rows.set index row, .dataChanged index)
  | none => (rows ++ [row], .inserted rows.length)

/-- An update keeps the keys distinct. -/
theorem nodup_keys_updateRow {rows : List Row} (distinct : (rows.map key).Nodup) (row : Row) :
    ((updateRow key row rows).1.map key).Nodup := by
  unfold updateRow
  cases found : rows.findIdx? (fun other => decide (key other = key row)) with
  | some index =>
      obtain ⟨bound, same, -⟩ := List.findIdx?_eq_some_iff_getElem.mp found
      have keys : (rows.set index row).map key = rows.map key := by
        have inKeys : index < (rows.map key).length := by rwa [List.length_map]
        have there : (rows.map key)[index] = key row := by
          rw [List.getElem_map]
          exact of_decide_eq_true same
        rw [List.map_set, ← there, List.set_getElem_self]
      rwa [keys]
  | none =>
      have absent := List.findIdx?_eq_none_iff.mp found
      rw [List.map_append]
      refine distinct.append (List.nodup_singleton _) ?_
      intro sought before isRow
      obtain ⟨other, member, rfl⟩ := List.mem_map.mp before
      have same : key other = key row := List.mem_singleton.mp isRow
      exact of_decide_eq_false (absent other member) same

/-- `clear`; the second component tells whether the view is reset. -/
def ListModel.clear {Row : Type} (model : ListModel Row) : ListModel Row × Bool :=
  if model.rows.isEmpty then (model, false) else ({ model with rows := [] }, true)

@[simp] theorem ListModel.rows_clear {Row : Type} (model : ListModel Row) :
    model.clear.1.rows = [] := by
  unfold ListModel.clear
  split
  · next empty => exact List.isEmpty_iff.mp empty
  · rfl

/-- `updateWorkspace`, and what the view is told -/
def WorkspaceModel.updateWorkspace (model : WorkspaceModel) (workspace : WorkspaceInfo) :
    WorkspaceModel × RowChange :=
  let result := updateRow WorkspaceInfo.id workspace model.rows
  ({ model with rows := result.1 }, result.2)

/-- `updateTask`, and what the view is told -/
def TaskModel.updateTask (model : TaskModel) (task : TaskInfo) : TaskModel × RowChange :=
  let result := updateRow TaskInfo.id task model.rows
  ({ model with rows := result.1 }, result.2)

/-- A call that changes the rows. -/
inductive ListCall (Row : Type) where
  | set (rows : List Row)
  | update (row : Row)
  | clear

/-- The model after a call. -/
def WorkspaceModel.call (model : WorkspaceModel) : ListCall WorkspaceInfo → WorkspaceModel
  | .set workspaces => (model.setWorkspaces workspaces).1
  | .update workspace => (model.updateWorkspace workspace).1
  | .clear => model.clear.1

/-- The model after a call. -/
def TaskModel.call (model : TaskModel) : ListCall TaskInfo → TaskModel
  | .set tasks => (model.setTasks tasks).1
  | .update task => (model.updateTask task).1
  | .clear => model.clear.1

/-- A list that is set repeats no key. -/
def ListCall.Distinct {Row : Type} (key : Row → Key) : ListCall Row → Prop
  | .set rows => (rows.map key).Nodup
  | .update _ | .clear => True

/-- Setting the rows of a model replaces them, and no call makes two rows of one key. -/
structure RefinesReplacement {Row : Type} (key : Row → Key)
    (set : ListModel Row → List Row → ListModel Row × List RowChange)
    (call : ListModel Row → ListCall Row → ListModel Row) : Prop where
  replaces : ∀ (model : ListModel Row) (new : List Row), (model.rows.map key).Nodup →
    (new.map key).Nodup → Replaces key model.rows new (set model new).1.rows (set model new).2
  staysDistinct : ∀ (model : ListModel Row) (calls : List (ListCall Row)),
    (model.rows.map key).Nodup → (∀ request ∈ calls, request.Distinct key) →
      ((calls.foldl call model).rows.map key).Nodup

omit [DecidableEq Key] in
/-- A run of calls keeps the keys distinct if each call does. -/
theorem nodup_keys_foldl {Row : Type} {key : Row → Key}
    {call : ListModel Row → ListCall Row → ListModel Row}
    (step : ∀ (model : ListModel Row) (request : ListCall Row), (model.rows.map key).Nodup →
      request.Distinct key → ((call model request).rows.map key).Nodup)
    (calls : List (ListCall Row)) :
    ∀ model : ListModel Row, (model.rows.map key).Nodup →
      (∀ request ∈ calls, request.Distinct key) →
        ((calls.foldl call model).rows.map key).Nodup := by
  induction calls with
  | nil => exact fun _ distinct _ => distinct
  | cons request rest inductionHypothesis =>
      intro model distinct requests
      obtain ⟨first, others⟩ := List.forall_mem_cons.mp requests
      exact inductionHypothesis _ (step model request distinct first) others

/-- A call with distinct ids keeps the ids distinct. -/
theorem WorkspaceModel.nodup_ids_call (model : WorkspaceModel) (request : ListCall WorkspaceInfo)
    (distinct : (model.rows.map WorkspaceInfo.id).Nodup)
    (distinctNew : request.Distinct WorkspaceInfo.id) :
    ((model.call request).rows.map WorkspaceInfo.id).Nodup := by
  cases request with
  | set workspaces => exact nodup_keys_setRows distinctNew distinct
  | update workspace => exact nodup_keys_updateRow distinct workspace
  | clear =>
      rw [call, ListModel.rows_clear]
      exact List.nodup_nil

/-- A call with distinct ids keeps the ids distinct. -/
theorem TaskModel.nodup_ids_call (model : TaskModel) (request : ListCall TaskInfo)
    (distinct : (model.rows.map TaskInfo.id).Nodup)
    (distinctNew : request.Distinct TaskInfo.id) :
    ((model.call request).rows.map TaskInfo.id).Nodup := by
  cases request with
  | set tasks => exact nodup_keys_setRows distinctNew distinct
  | update task => exact nodup_keys_updateRow distinct task
  | clear =>
      rw [call, ListModel.rows_clear]
      exact List.nodup_nil

/-- Both models replace their rows, with distinct ids, by updating them. -/
theorem listModels_refineReplacement :
    RefinesReplacement WorkspaceInfo.id WorkspaceModel.setWorkspaces WorkspaceModel.call ∧
      RefinesReplacement TaskInfo.id TaskModel.setTasks TaskModel.call where
  left :=
    { replaces := fun _ _ distinct distinctNew => replaces_setRows distinctNew distinct
      staysDistinct := fun model calls =>
        nodup_keys_foldl WorkspaceModel.nodup_ids_call calls model }
  right :=
    { replaces := fun _ _ distinct distinctNew => replaces_setRows distinctNew distinct
      staysDistinct := fun model calls => nodup_keys_foldl TaskModel.nodup_ids_call calls model }

/-- A task in a state, with its other fields left empty. -/
def TaskInfo.inState (id : String) (currentState : TaskState) : TaskInfo :=
  ⟨id, "", "", "", "", "", "", "", "", .active, "", currentState, "", ""⟩

/-- One task goes, one stays in another state, one is new. -/
theorem setTasks_replaces_two :
    Replaces TaskInfo.id [.inState "a" .idle, .inState "b" .idle]
      [.inState "c" .idle, .inState "b" .failed]
      [.inState "b" .failed, .inState "c" .idle] [.removed 0, .inserted 1, .dataChanged 0] :=
  listModels_refineReplacement.2.replaces
    ⟨[.inState "a" .idle, .inState "b" .idle], false, ""⟩
    [.inState "c" .idle, .inState "b" .failed] (by decide) (by decide)

end CoderDesktop.Models
