import Mathlib.Data.List.Sort
import CoderDesktop.Collections.Outline
import CoderDesktop.Semantics.Run

/-!
# The remote directory picker

The tree of remote directories as the flat array of the dialog, and the listings it asked
for. Listings arrive in any order, but where one goes is remembered for a single request,
as the index of a row.
-/

namespace CoderDesktop.FileSync

open Collections Semantics

/-- An entry of a directory on the agent. -/
structure DirectoryEntry where
  name : String
  absolutePathString : String
  isDir : Bool
deriving DecidableEq, Repr

/-- An object of `dirModel`. The code has no `id`; it stands for the identity of the object. -/
structure DirectoryRow where
  id : Nat
  path : String
  name : String
  depth : Nat
  expanded : Bool
  loaded : Bool
deriving DecidableEq, Repr

/-- The state of `RemoteDirectoryPicker.qml`. -/
structure RemoteDirectoryPicker where
  dirModel : List DirectoryRow
  showDotfiles : Bool
  loading : Bool
  errorMessage : String
  pendingDepth : Nat
  /-- `none` is -1. -/
  pendingParentIndex : Option Nat
deriving DecidableEq, Repr

/-- What `listDirectory` is asked for, and the row that asked. -/
structure ListRequest where
  asker : Option Nat
  segments : List (List Char)
  relativity : String
deriving DecidableEq, Repr

/-- `path.split("/")` without empty parts. -/
def pathSegments (path : String) : List (List Char) :=
  (path.toList.splitOn '/').filter (· ≠ [])

namespace RemoteDirectoryPicker

/-- The dialog before its first request. -/
def new : RemoteDirectoryPicker where
  dirModel := []
  showDotfiles := false
  loading := false
  errorMessage := ""
  pendingDepth := 0
  pendingParentIndex := none

variable (picker : RemoteDirectoryPicker)

/-- `loadDirectory`: the dialog notes where the reply belongs and asks the agent. -/
def loadDirectory (asker : Option Nat) (path relativity : String) (depth : Nat)
    (parentIndex : Option Nat) : RemoteDirectoryPicker × ListRequest :=
  ({ picker with
      loading := true
      errorMessage := ""
      pendingDepth := depth
      pendingParentIndex := parentIndex },
    ⟨asker, pathSegments path, if relativity = "" then "root" else relativity⟩)

/-- `onOpened`, and the checkbox for hidden entries. -/
def reload : RemoteDirectoryPicker × ListRequest :=
  { picker with errorMessage := "", dirModel := [] }.loadDirectory none "" "home" 0 none

/-- The directories of a listing that are shown. -/
def shown (contents : List DirectoryEntry) : List DirectoryEntry :=
  contents.filter fun entry =>
    (picker.showDotfiles || decide (entry.name.toList.head? ≠ some '.')) && entry.isDir

/-- `localeCompare` is that of the strings; new objects are numbered from `nextId` on. -/
def newEntries (localeCompare : String → String → Int) (contents : List DirectoryEntry)
    (nextId : Nat) : List DirectoryRow :=
  (((picker.shown contents).zipIdx nextId).map fun (entry, id) =>
      { id
        path := entry.absolutePathString
        name := entry.name
        depth := picker.pendingDepth
        expanded := false
        loaded := false }).insertionSort
    fun left right => localeCompare left.name right.name ≤ 0

/-- Whether a row is deeper than the one at `index`. -/
def deeperThan (rows : List DirectoryRow) (index : Nat) (row : DirectoryRow) : Bool :=
  rows[index]?.any fun parent => decide (parent.depth < row.depth)

/-- The splices of the two loops. Behind the end, what is inserted is appended. -/
def replaceChildren (rows : List DirectoryRow) (index : Nat) (children : List DirectoryRow) :
    List DirectoryRow :=
  rows.take (index + 1) ++
    (children ++ (rows.drop (index + 1)).dropWhile (deeperThan rows index))

/-- The entries become the tree, or the children of the row that asked. -/
def onDirectoryListed (localeCompare : String → String → Int) (contents : List DirectoryEntry)
    (nextId : Nat) : RemoteDirectoryPicker :=
  let entries := picker.newEntries localeCompare contents nextId
  let listed := { picker with loading := false }
  match picker.pendingParentIndex with
  | none => { listed with dirModel := entries }
  | some parentIndex =>
      let model := replaceChildren picker.dirModel parentIndex entries
      -- Marking a row that does not exist throws before the model is assigned.
      if parentIndex < model.length then
        { listed with
          dirModel :=
            model.modify parentIndex fun row => { row with expanded := true, loaded := true } }
      else listed

/-- The tree stays and the error is shown. -/
def onListDirectoryError (errorMessage : String) : RemoteDirectoryPicker :=
  { picker with
    loading := false
    errorMessage := if errorMessage = "" then "Failed to list directory." else errorMessage }

/-- The second component is a request that is made. -/
def toggleExpand (itemIndex : Nat) : Option (RemoteDirectoryPicker × Option ListRequest) :=
  picker.dirModel[itemIndex]?.map fun item =>
    if item.expanded then
      ({ picker with
          dirModel :=
            (replaceChildren picker.dirModel itemIndex []).modify itemIndex fun row =>
              { row with expanded := false } },
        none)
    else
      let (loading, request) :=
        picker.loadDirectory (some item.id) item.path "" (item.depth + 1) (some itemIndex)
      (loading, some request)

end RemoteDirectoryPicker

/-! ## A picker and its agent -/

/-- What the user and the agent do. -/
inductive PickerEvent where
  | opened
  | dotfilesToggled (checked : Bool)
  | toggleExpand (itemIndex : Nat)
  /-- The reply to one of the outstanding requests. -/
  | directoryListed (request : Nat) (contents : List DirectoryEntry)
  | listDirectoryError (request : Nat) (errorMessage : String)
deriving DecidableEq, Repr

/-- The dialog and the requests without a reply. -/
structure PickerSession where
  picker : RemoteDirectoryPicker
  outstanding : List ListRequest
  nextId : Nat
deriving DecidableEq, Repr

namespace PickerSession

/-- The dialog was not opened yet. -/
def new : PickerSession := ⟨.new, [], 0⟩

variable (localeCompare : String → String → Int) (home : List (List Char))
  (world : PickerSession)

/-- A request is sent. -/
def request (made : RemoteDirectoryPicker × ListRequest) : PickerSession :=
  { world with picker := made.1, outstanding := world.outstanding ++ [made.2] }

/-- The agent lists the directory of the request, which is relative to the root or to the
home directory. -/
def Lists (home : List (List Char)) (request : ListRequest) (contents : List DirectoryEntry) :
    Prop :=
  ∀ entry ∈ contents, pathSegments entry.absolutePathString =
    (if request.relativity = "home" then home else []) ++ request.segments ++ [entry.name.toList]

instance decidableLists (home : List (List Char)) (request : ListRequest)
    (contents : List DirectoryEntry) : Decidable (Lists home request contents) :=
  List.decidableBAll _ _

/-- One event; a reply belongs to an outstanding request. -/
def next : PickerEvent → Option PickerSession
  | .opened => some (world.request world.picker.reload)
  | .dotfilesToggled checked =>
      some (world.request { world.picker with showDotfiles := checked }.reload)
  | .toggleExpand itemIndex =>
      (world.picker.toggleExpand itemIndex).map fun (picker, request) =>
        { world with picker, outstanding := world.outstanding ++ request.toList }
  | .directoryListed index contents =>
      world.outstanding[index]?.bind fun request =>
        if Lists home request contents then
          some
            { picker := world.picker.onDirectoryListed localeCompare contents world.nextId
              outstanding := world.outstanding.eraseIdx index
              nextId := world.nextId + contents.length }
        else none
  | .listDirectoryError index errorMessage =>
      world.outstanding[index]?.map fun _ =>
        { world with
          picker := world.picker.onListDirectoryError errorMessage
          outstanding := world.outstanding.eraseIdx index }

/-! ### Where listings land -/

/-- `row` is an entry of the directory of `parent`. -/
def LiesIn (parent row : DirectoryRow) : Prop :=
  pathSegments row.path = pathSegments parent.path ++ [row.name.toList]

/-- `dirModel` is a tree of directories in preorder. -/
def PreorderTree : Prop := Outline DirectoryRow.depth LiesIn world.picker.dirModel

/-- The rows are those of a listing, in some order. -/
structure RowsOf (shown : List DirectoryEntry) (depth : Nat) (rows : List DirectoryRow) :
    Prop where
  entries : (rows.map fun row => (row.path, row.name)).Perm
    (shown.map fun entry => (entry.absolutePathString, entry.name))
  depth : ∀ row ∈ rows, row.depth = depth

/-- A listing becomes the children of the row that asked for it, instead of what was below
this row. It is dropped if the row is gone. The listing of the root becomes the rows. -/
def Placed : PickerEvent → Prop
  | .directoryListed index contents =>
      ∀ request ∈ world.outstanding[index]?,
      ∀ after ∈ world.next localeCompare home (.directoryListed index contents),
        match request.asker with
        | none => RowsOf (world.picker.shown contents) 0 after.picker.dirModel
        | some asker =>
            (∃ before parent descendants children rest,
              world.picker.dirModel = before ++ parent :: (descendants ++ rest) ∧
                parent.id = asker ∧ (∀ row ∈ descendants, parent.depth < row.depth) ∧
                (∀ row ∈ rest.head?, row.depth ≤ parent.depth) ∧
                RowsOf (world.picker.shown contents) (parent.depth + 1) children ∧
                after.picker.dirModel =
                  before ++ { parent with expanded := true, loaded := true } ::
                    (children ++ rest)) ∨
              (∀ row ∈ world.picker.dirModel, row.id ≠ asker) ∧
                after.picker.dirModel = world.picker.dirModel
  | _ => True

/-- When a listing arrives, what is pending fits the request it answers: the row at the
index asked for it and has the depth it had, or the row is gone and the index is behind the
end of all rows, with those of the listing. -/
def PendingFits (world : PickerSession) : PickerEvent → Prop
  | .directoryListed index contents =>
      ∀ request ∈ world.outstanding[index]?,
        match request.asker, world.picker.pendingParentIndex with
        | none, pending => pending = none
        | some _, none => False
        | some asker, some parentIndex =>
            (∃ parent ∈ world.picker.dirModel[parentIndex]?,
              parent.id = asker ∧ world.picker.pendingDepth = parent.depth + 1) ∨
              (∀ row ∈ world.picker.dirModel, row.id ≠ asker) ∧
                world.picker.dirModel.length + (world.picker.shown contents).length ≤ parentIndex
  | _ => True

/-! ### Rows -/

/-- What the tree is about. -/
def bare (row : DirectoryRow) : DirectoryRow := { row with expanded := false, loaded := false }

/-- Flags do not matter to the tree. -/
theorem continues_of_bare {rows other : List DirectoryRow} (same : rows.map bare = other.map bare)
    (continues : Outline.Continues DirectoryRow.depth LiesIn [] rows) :
    Outline.Continues DirectoryRow.depth LiesIn [] other := by
  have mapped {rows : List DirectoryRow} :
      Outline.Continues DirectoryRow.depth LiesIn (([] : List DirectoryRow).map bare)
          (rows.map bare) ↔
        Outline.Continues DirectoryRow.depth LiesIn [] rows :=
    Outline.continues_map
  rw [← mapped, ← same]
  exact mapped.mpr continues

/-- The row at its index is changed. -/
theorem modify_length {Row : Type} (before : List Row) (row : Row) (after : List Row)
    (change : Row → Row) :
    (before ++ row :: after).modify before.length change = before ++ change row :: after := by
  induction before with
  | nil => rfl
  | cons head before inductionHypothesis =>
      exact congrArg (head :: ·) inductionHypothesis

open RemoteDirectoryPicker

/-- A row with what is below it, which is what the loops replace. -/
theorem exists_split {rows : List DirectoryRow} {index : Nat} {parent : DirectoryRow}
    (found : rows[index]? = some parent) :
    ∃ before descendants rest, rows = before ++ parent :: (descendants ++ rest) ∧
      before.length = index ∧ (∀ row ∈ descendants, parent.depth < row.depth) ∧
      (∀ row ∈ rest.head?, row.depth ≤ parent.depth) ∧
      ∀ children, replaceChildren rows index children = before ++ parent :: (children ++ rest) := by
  obtain ⟨inRange, isParent⟩ := List.getElem?_eq_some_iff.mp found
  have deeper (row : DirectoryRow) :
      deeperThan rows index row = decide (parent.depth < row.depth) := by
    rw [deeperThan, found]
    rfl
  refine ⟨rows.take index, (rows.drop (index + 1)).takeWhile (deeperThan rows index),
    (rows.drop (index + 1)).dropWhile (deeperThan rows index), ?_, ?_, ?_, ?_, ?_⟩
  · rw [List.takeWhile_append_dropWhile, ← isParent, ← List.drop_eq_getElem_cons inRange,
      List.take_append_drop]
  · rw [List.length_take]
    omega
  · intro row member
    have isDeeper := List.all_eq_true.mp List.all_takeWhile row member
    rw [deeper] at isDeeper
    exact of_decide_eq_true isDeeper
  · intro row isFirst
    have notDeeper := List.head?_dropWhile_not (deeperThan rows index) (rows.drop (index + 1))
    rw [Option.mem_def.mp isFirst] at notDeeper
    have notDeeper : deeperThan rows index row = false := notDeeper
    rw [deeper] at notDeeper
    exact Nat.le_of_not_lt (of_decide_eq_false notDeeper)
  · intro children
    rw [replaceChildren, List.take_add_one, found, List.append_assoc]
    rfl

/-! ### New rows -/

section NewEntries

variable {localeCompare : String → String → Int} {home : List (List Char)}
  {picker : RemoteDirectoryPicker} {contents : List DirectoryEntry} {nextId : Nat}

/-- The new rows are the shown entries in some order. -/
theorem newEntries_perm :
    (picker.newEntries localeCompare contents nextId).Perm
      (((picker.shown contents).zipIdx nextId).map fun numbered =>
        ⟨numbered.2, numbered.1.absolutePathString, numbered.1.name, picker.pendingDepth, false,
          false⟩) :=
  List.perm_insertionSort _ _

/-- A new row stands for an entry and has a new id. -/
theorem of_mem_newEntries {row : DirectoryRow}
    (member : row ∈ picker.newEntries localeCompare contents nextId) :
    ∃ entry ∈ contents, row.path = entry.absolutePathString ∧ row.name = entry.name ∧
      row.depth = picker.pendingDepth ∧ nextId ≤ row.id ∧ row.id < nextId + contents.length := by
  obtain ⟨⟨entry, id⟩, numbered, rfl⟩ := List.mem_map.mp (newEntries_perm.mem_iff.mp member)
  have inContents := (List.mem_filter.mp (List.fst_mem_of_mem_zipIdx numbered)).1
  have below := List.snd_lt_add_of_mem_zipIdx numbered
  refine ⟨entry, inContents, rfl, rfl, rfl, List.le_snd_of_mem_zipIdx numbered,
    Nat.lt_of_lt_of_le below ?_⟩
  exact Nat.add_le_add_left (List.length_filter_le _ _) _

/-- There is one row for each shown entry. -/
theorem length_newEntries :
    (picker.newEntries localeCompare contents nextId).length = (picker.shown contents).length := by
  rw [newEntries_perm.length_eq, List.length_map, List.length_zipIdx]

/-- The new ids are distinct. -/
theorem nodup_newEntries :
    ((picker.newEntries localeCompare contents nextId).map DirectoryRow.id).Nodup := by
  rw [(newEntries_perm.map DirectoryRow.id).nodup_iff, List.map_map]
  change (((picker.shown contents).zipIdx nextId).map Prod.snd).Nodup
  rw [List.zipIdx_map_snd]
  exact List.nodup_range'

/-- The new rows are those of the shown entries. -/
theorem rowsOf_newEntries :
    RowsOf (picker.shown contents) picker.pendingDepth
      (picker.newEntries localeCompare contents nextId) where
  entries := by
    have entries := congrArg (List.map fun entry => (entry.absolutePathString, entry.name))
      (List.zipIdx_map_fst nextId (picker.shown contents))
    refine (newEntries_perm.map _).trans (List.Perm.of_eq ?_)
    rw [← entries, List.map_map, List.map_map]
    rfl
  depth row member := by
    obtain ⟨-, -, -, -, depth, -⟩ := of_mem_newEntries member
    exact depth

/-- A listing leaves the pending parent. -/
theorem pendingParentIndex_onDirectoryListed :
    (picker.onDirectoryListed localeCompare contents nextId).pendingParentIndex =
      picker.pendingParentIndex := by
  unfold onDirectoryListed
  dsimp only
  split
  · rfl
  · split <;> rfl

/-- A listing behind the end of all rows is dropped. -/
theorem onDirectoryListed_of_gone {parentIndex : Nat}
    (pending : picker.pendingParentIndex = some parentIndex)
    (beyond : picker.dirModel.length + (picker.shown contents).length ≤ parentIndex) :
    picker.onDirectoryListed localeCompare contents nextId = { picker with loading := false } := by
  have noRow : picker.dirModel.length ≤ parentIndex + 1 := by omega
  simp only [onDirectoryListed, pending, replaceChildren, List.drop_eq_nil_of_le noRow,
    List.take_of_length_le noRow, List.dropWhile_nil, List.append_nil, List.length_append,
    length_newEntries, if_neg (Nat.not_lt_of_le beyond)]

end NewEntries

/-! ### What is kept -/

/-- The tree is well formed and every request asks for what its row stands for. -/
structure Tracked (world : PickerSession) : Prop where
  tree : Outline.Continues DirectoryRow.depth LiesIn [] world.picker.dirModel
  numbered : ∀ row ∈ world.picker.dirModel, row.id < world.nextId
  distinct : (world.picker.dirModel.map DirectoryRow.id).Nodup
  /-- A row asks for its own directory. -/
  asked : ∀ request ∈ world.outstanding, ∀ asker, request.asker = some asker →
    asker < world.nextId ∧ request.relativity = "root" ∧
      ∀ row ∈ world.picker.dirModel, row.id = asker → request.segments = pathSegments row.path
  root : world.picker.pendingParentIndex = none → world.picker.pendingDepth = 0

variable {localeCompare : String → String → Int} {home : List (List Char)}
  {world : PickerSession}

/-- There are no rows at first. -/
theorem tracked_new : Tracked new :=
  ⟨trivial, nofun, List.nodup_nil, nofun, fun _ => rfl⟩

/-- Rows that were there before, or are new. -/
theorem Tracked.asked_of_rows (tracked : world.Tracked) {rows : List DirectoryRow} {nextId : Nat}
    (later : world.nextId ≤ nextId)
    (kept : ∀ row ∈ rows, row.id < world.nextId →
      ∃ old ∈ world.picker.dirModel, old.id = row.id ∧ old.path = row.path)
    {request : ListRequest} (made : request ∈ world.outstanding) {asker : Nat}
    (asks : request.asker = some asker) :
    asker < nextId ∧ request.relativity = "root" ∧
      ∀ row ∈ rows, row.id = asker → request.segments = pathSegments row.path := by
  obtain ⟨isOld, relativity, segments⟩ := tracked.asked request made asker asks
  refine ⟨Nat.lt_of_lt_of_le isOld later, relativity, fun row member isAsker => ?_⟩
  obtain ⟨old, wasThere, sameId, samePath⟩ := kept row member (isAsker ▸ isOld)
  rw [← samePath]
  exact segments old wasThere (sameId.trans isAsker)

/-- The tree after what is below a row was exchanged for new children. -/
theorem Tracked.replace (tracked : world.Tracked)
    {before descendants children rest : List DirectoryRow} {parent marked : DirectoryRow}
    (shape : world.picker.dirModel = before ++ parent :: (descendants ++ rest))
    {picker : RemoteDirectoryPicker}
    (isRows : picker.dirModel = before ++ marked :: (children ++ rest))
    (same : bare parent = bare marked) (deeper : ∀ row ∈ descendants, parent.depth < row.depth)
    (shallow : ∀ row ∈ rest.head?, row.depth ≤ parent.depth) {nextId : Nat}
    (later : world.nextId ≤ nextId)
    (fresh : ∀ row ∈ children, world.nextId ≤ row.id ∧ row.id < nextId)
    (distinct : (children.map DirectoryRow.id).Nodup)
    (areChildren : ∀ row ∈ children, row.depth = parent.depth + 1 ∧ LiesIn parent row)
    {outstanding : List ListRequest}
    (isLeft : ∀ request ∈ outstanding, request ∈ world.outstanding)
    (root : picker.pendingParentIndex = none → picker.pendingDepth = 0) :
    Tracked ⟨picker, outstanding, nextId⟩ := by
  have sameId : parent.id = marked.id := (congrArg DirectoryRow.id same :)
  have samePath : parent.path = marked.path := (congrArg DirectoryRow.path same :)
  have isOld (row : DirectoryRow) (member : row ∈ before ++ parent :: (descendants ++ rest)) :
      row ∈ world.picker.dirModel :=
    shape ▸ member
  have kept (row : DirectoryRow) (member : row ∈ picker.dirModel) :
      row ∈ children ∨ ∃ old ∈ world.picker.dirModel, old.id = row.id ∧ old.path = row.path := by
    rw [isRows, List.mem_append, List.mem_cons, List.mem_append] at member
    rcases member with inBefore | rfl | inChildren | inRest
    · exact .inr ⟨row, isOld row (List.mem_append_left _ inBefore), rfl, rfl⟩
    · exact .inr ⟨parent, isOld parent (List.mem_append_right _ List.mem_cons_self), sameId,
        samePath⟩
    · exact .inl inChildren
    · exact .inr ⟨row, isOld row (List.mem_append_right _ (List.mem_cons_of_mem _
        (List.mem_append_right _ inRest))), rfl, rfl⟩
  refine ⟨?_, fun row member => ?_, ?_, fun request made asker asks => ?_, root⟩
  · have edited := Outline.continues_replace deeper shallow areChildren (shape ▸ tracked.tree)
    dsimp only
    rw [isRows]
    refine continues_of_bare ?_ edited
    simp only [List.map_append, List.map_cons, same]
  · rcases kept row member with inChildren | ⟨old, wasThere, oldId, -⟩
    · exact (fresh row inChildren).2
    · exact oldId ▸ Nat.lt_of_lt_of_le (tracked.numbered old wasThere) later
  · have stays : (before ++ parent :: rest).Sublist world.picker.dirModel := by
      rw [shape]
      exact (List.Sublist.refl before).append ((List.sublist_append_right _ _).cons_cons parent)
    have moved : (picker.dirModel.map DirectoryRow.id).Perm
        (children.map DirectoryRow.id ++ (before ++ parent :: rest).map DirectoryRow.id) := by
      have swapped := List.perm_append_comm_assoc
        (before.map DirectoryRow.id ++ [parent.id]) (children.map DirectoryRow.id)
        (rest.map DirectoryRow.id)
      rw [isRows]
      simpa [sameId] using swapped
    rw [moved.nodup_iff, List.nodup_append]
    refine ⟨distinct, tracked.distinct.sublist (stays.map _), fun new isNew old isOlder => ?_⟩
    obtain ⟨child, inChildren, rfl⟩ := List.mem_map.mp isNew
    obtain ⟨row, wasThere, rfl⟩ := List.mem_map.mp isOlder
    have := tracked.numbered row (stays.subset wasThere)
    have := (fresh child inChildren).1
    omega
  · refine tracked.asked_of_rows later (fun row member isOlder => ?_) (isLeft request made) asks
    rcases kept row member with inChildren | old
    · exact absurd isOlder (Nat.not_lt_of_le (fresh row inChildren).1)
    · exact old

/-! ### Steps -/

/-- A request changes no rows. It is made by the dialog, or by a row for its own path. -/
theorem Tracked.request (tracked : world.Tracked) {picker : RemoteDirectoryPicker}
    (sameRows : picker.dirModel = world.picker.dirModel) {made : ListRequest}
    (asks : ∀ asker, made.asker = some asker → asker < world.nextId ∧ made.relativity = "root" ∧
      ∀ row ∈ world.picker.dirModel, row.id = asker → made.segments = pathSegments row.path)
    (root : picker.pendingParentIndex = none → picker.pendingDepth = 0) :
    (world.request (picker, made)).Tracked := by
  refine ⟨?_, ?_, ?_, fun other isMade => ?_, root⟩
  · exact sameRows ▸ tracked.tree
  · exact sameRows ▸ tracked.numbered
  · exact sameRows ▸ tracked.distinct
  · dsimp only [PickerSession.request]
    rw [sameRows]
    rcases List.mem_append.mp isMade with earlier | isNew
    · exact tracked.asked other earlier
    · cases List.mem_singleton.mp isNew
      exact asks

/-- A reload asks for the root. -/
theorem Tracked.reload (tracked : world.Tracked) (picker : RemoteDirectoryPicker) :
    (world.request picker.reload).Tracked := by
  refine ⟨trivial, nofun, List.nodup_nil, fun request isMade asker asks => ?_, fun _ => rfl⟩
  rcases List.mem_append.mp isMade with earlier | isNew
  · obtain ⟨isOld, relativity, -⟩ := tracked.asked request earlier asker asks
    exact ⟨isOld, relativity, nofun⟩
  · cases List.mem_singleton.mp isNew
    cases asks

/-- A row asks for its own directory. -/
theorem Tracked.toggleExpand (tracked : world.Tracked) {itemIndex : Nat} {after : PickerSession}
    (taken : world.next localeCompare home (.toggleExpand itemIndex) = some after) :
    after.Tracked := by
  obtain ⟨⟨picker, request⟩, toggled, rfl⟩ := Option.map_eq_some_iff.mp taken
  obtain ⟨item, found, made⟩ := Option.map_eq_some_iff.mp toggled
  split at made
  · cases made
    obtain ⟨before, descendants, rest, shape, length, deeper, shallow, replaced⟩ :=
      exists_split found
    have isRows : (replaceChildren world.picker.dirModel itemIndex []).modify itemIndex
        (fun row => { row with expanded := false }) =
          before ++ { item with expanded := false } :: ([] ++ rest) := by
      rw [replaced, ← length]
      exact modify_length before item ([] ++ rest) _
    refine tracked.replace shape isRows ?_ deeper shallow (Nat.le_refl _) ?_ ?_ ?_
      (fun request isMade => ?_) tracked.root
    · rfl
    · exact fun row none => absurd none List.not_mem_nil
    · exact List.nodup_nil
    · exact fun row none => absurd none List.not_mem_nil
    · rwa [Option.toList_none, List.append_nil] at isMade
  · cases made
    change (world.request (world.picker.loadDirectory (some item.id) item.path ""
      (item.depth + 1) (some itemIndex))).Tracked
    refine Tracked.request tracked ?_ (fun asker asks => ?_) fun pending => ?_
    · rfl
    · obtain rfl := Option.some.inj asks
      have isRow := List.mem_of_getElem? found
      refine ⟨tracked.numbered item isRow, rfl, fun row member sameId => ?_⟩
      rw [List.inj_on_of_nodup_map tracked.distinct member isRow sameId]
    · cases pending

section Listed

variable {request : ListRequest} {contents : List DirectoryEntry}

variable (localeCompare contents) in
/-- A listing of the root replaces the tree. -/
theorem Tracked.listed_root (tracked : world.Tracked)
    (pending : world.picker.pendingParentIndex = none) {outstanding : List ListRequest}
    (isLeft : ∀ request ∈ outstanding, request ∈ world.outstanding) :
    Tracked ⟨world.picker.onDirectoryListed localeCompare contents world.nextId, outstanding,
        world.nextId + contents.length⟩ ∧
      RowsOf (world.picker.shown contents) 0
        (world.picker.onDirectoryListed localeCompare contents world.nextId).dirModel := by
  have atRoot := tracked.root pending
  rw [onDirectoryListed, pending]
  constructor
  · refine ⟨Outline.continues_roots fun row member => ?_, fun row member => ?_, nodup_newEntries,
      fun request made asker asks => ?_, fun _ => atRoot⟩
    · obtain ⟨-, -, -, -, depth, -⟩ := of_mem_newEntries member
      exact depth.trans atRoot
    · obtain ⟨-, -, -, -, -, -, numbered⟩ := of_mem_newEntries member
      exact numbered
    · refine tracked.asked_of_rows (Nat.le_add_right _ _) (fun row member isOlder => ?_)
        (isLeft request made) asks
      obtain ⟨-, -, -, -, -, isNew, -⟩ := of_mem_newEntries member
      exact absurd isOlder (Nat.not_lt_of_le isNew)
  · exact atRoot ▸ rowsOf_newEntries

variable (localeCompare) in
/-- A listing of a directory becomes the children of its row. -/
theorem Tracked.listed_children (tracked : world.Tracked) {index parentIndex : Nat}
    (made : world.outstanding[index]? = some request) (lists : Lists home request contents)
    (pending : world.picker.pendingParentIndex = some parentIndex) {parent : DirectoryRow}
    (found : world.picker.dirModel[parentIndex]? = some parent)
    (asks : request.asker = some parent.id)
    (depth : world.picker.pendingDepth = parent.depth + 1) {outstanding : List ListRequest}
    (isLeft : ∀ request ∈ outstanding, request ∈ world.outstanding) :
    Tracked ⟨world.picker.onDirectoryListed localeCompare contents world.nextId, outstanding,
        world.nextId + contents.length⟩ ∧
      ∃ before descendants children rest,
        world.picker.dirModel = before ++ parent :: (descendants ++ rest) ∧
          (∀ row ∈ descendants, parent.depth < row.depth) ∧
          (∀ row ∈ rest.head?, row.depth ≤ parent.depth) ∧
          RowsOf (world.picker.shown contents) (parent.depth + 1) children ∧
          (world.picker.onDirectoryListed localeCompare contents world.nextId).dirModel =
            before ++ { parent with expanded := true, loaded := true } :: (children ++ rest) := by
  obtain ⟨before, descendants, rest, shape, length, deeper, shallow, replaced⟩ :=
    exists_split found
  have inModel : parentIndex < (before ++ parent ::
      (world.picker.newEntries localeCompare contents world.nextId ++ rest)).length := by
    rw [List.length_append, List.length_cons, length]
    omega
  have isRows : (world.picker.onDirectoryListed localeCompare contents world.nextId).dirModel =
      before ++ { parent with expanded := true, loaded := true } ::
        (world.picker.newEntries localeCompare contents world.nextId ++ rest) := by
    simp only [onDirectoryListed, pending, replaced, if_pos inModel]
    rw [← length]
    exact modify_length before parent _ _
  obtain ⟨-, relativity, segments⟩ :=
    tracked.asked request (List.mem_of_getElem? made) parent.id asks
  have inside := segments parent (List.mem_of_getElem? found) rfl
  refine ⟨tracked.replace shape isRows rfl deeper shallow (Nat.le_add_right _ _) ?_
    nodup_newEntries ?_ isLeft ?_, _, _, _, _, shape, deeper, shallow, depth ▸ rowsOf_newEntries,
    isRows⟩
  · intro row member
    obtain ⟨-, -, -, -, -, numbered⟩ := of_mem_newEntries member
    exact numbered
  · intro row member
    obtain ⟨entry, inContents, path, name, rowDepth, -⟩ := of_mem_newEntries member
    refine ⟨rowDepth.trans depth, ?_⟩
    have listed := lists entry inContents
    rw [relativity, inside] at listed
    rw [LiesIn, path, name]
    exact listed
  · rw [pendingParentIndex_onDirectoryListed, pending]
    exact nofun

/-- A listing that is dropped leaves the tree alone. -/
theorem Tracked.listed_gone (tracked : world.Tracked) {parentIndex : Nat}
    (pending : world.picker.pendingParentIndex = some parentIndex)
    (beyond : world.picker.dirModel.length + (world.picker.shown contents).length ≤ parentIndex)
    {outstanding : List ListRequest}
    (isLeft : ∀ request ∈ outstanding, request ∈ world.outstanding) :
    Tracked ⟨world.picker.onDirectoryListed localeCompare contents world.nextId, outstanding,
      world.nextId + contents.length⟩ := by
  rw [onDirectoryListed_of_gone pending beyond]
  refine ⟨tracked.tree, fun row member => ?_, tracked.distinct, fun request made asker asks => ?_,
    tracked.root⟩
  · exact Nat.lt_of_lt_of_le (tracked.numbered row member) (Nat.le_add_right _ _)
  · exact tracked.asked_of_rows (Nat.le_add_right _ _) (fun row member _ => ⟨row, member, rfl, rfl⟩)
      (isLeft request made) asks

/-- A listing that fits what is pending lands where it was asked for. -/
theorem Tracked.listed (tracked : world.Tracked) {index : Nat} {after : PickerSession}
    (fits : world.PendingFits (.directoryListed index contents))
    (taken : world.next localeCompare home (.directoryListed index contents) = some after) :
    after.Tracked ∧ world.Placed localeCompare home (.directoryListed index contents) := by
  obtain ⟨request, made, listed⟩ := Option.bind_eq_some_iff.mp taken
  obtain ⟨lists, rfl⟩ := of_guarded listed
  have fits := fits request made
  have isLeft (other : ListRequest) (member : other ∈ world.outstanding.eraseIdx index) :
      other ∈ world.outstanding :=
    List.mem_of_mem_eraseIdx member
  have only {other : ListRequest} (isMade : other ∈ world.outstanding[index]?) : other = request :=
    Option.some.inj (isMade.symm.trans made)
  have result {after : PickerSession}
      (isAfter : after ∈ world.next localeCompare home (.directoryListed index contents)) :
      after.picker = world.picker.onDirectoryListed localeCompare contents world.nextId := by
    rw [Option.some.inj (isAfter.symm.trans taken)]
  cases asks : request.asker with
  | none =>
      rw [asks] at fits
      have landed := tracked.listed_root localeCompare contents fits isLeft
      refine ⟨landed.1, fun other isMade after isAfter => ?_⟩
      rw [only isMade, asks, result isAfter]
      exact landed.2
  | some asker =>
      rw [asks] at fits
      cases pending : world.picker.pendingParentIndex with
      | none =>
          rw [pending] at fits
          exact fits.elim
      | some parentIndex =>
          rw [pending] at fits
          rcases fits with ⟨parent, found, rfl, depth⟩ | ⟨gone, beyond⟩
          · have landed := tracked.listed_children localeCompare made lists pending found asks depth
              isLeft
            refine ⟨landed.1, fun other isMade after isAfter => ?_⟩
            obtain ⟨before, descendants, children, rest, shape, deeper, shallow, rows, isRows⟩ :=
              landed.2
            rw [only isMade, asks, result isAfter]
            exact .inl ⟨before, parent, descendants, children, rest, shape, rfl, deeper, shallow,
              rows, isRows⟩
          · refine ⟨tracked.listed_gone pending beyond isLeft, fun other isMade after isAfter => ?_⟩
            rw [only isMade, asks, result isAfter, onDirectoryListed_of_gone pending beyond]
            exact .inr ⟨gone, rfl⟩

end Listed

/-- Every event whose pending row fits keeps the tree and places the listing. -/
theorem Tracked.next {event : PickerEvent} {after : PickerSession} (tracked : world.Tracked)
    (fits : world.PendingFits event) (taken : world.next localeCompare home event = some after) :
    after.Tracked ∧ world.Placed localeCompare home event := by
  cases event with
  | opened =>
      obtain rfl := Option.some.inj taken
      exact ⟨tracked.reload _, trivial⟩
  | dotfilesToggled checked =>
      obtain rfl := Option.some.inj taken
      exact ⟨tracked.reload _, trivial⟩
  | toggleExpand itemIndex => exact ⟨tracked.toggleExpand taken, trivial⟩
  | directoryListed index contents => exact tracked.listed fits taken
  | listDirectoryError index errorMessage =>
      obtain ⟨request, -, rfl⟩ := Option.map_eq_some_iff.mp taken
      refine ⟨⟨tracked.tree, tracked.numbered, tracked.distinct, fun other isLeft => ?_,
        tracked.root⟩, trivial⟩
      exact tracked.asked other (List.mem_of_mem_eraseIdx isLeft)

/-! ### Runs -/

/-- If every listing fits what is pending when it arrives, every listing lands where it was
asked for, and the rows are a tree in preorder in every state. -/
theorem preorderTree_of_pendingFits (localeCompare : String → String → Int)
    (home : List (List Char)) {events : List PickerEvent}
    (fits : Conforms (next localeCompare home) PendingFits new events) :
    (∀ world, Visits (next localeCompare home) new events world → world.PreorderTree) ∧
      Conforms (next localeCompare home) (Placed localeCompare home) new events := by
  obtain ⟨tracked, placed⟩ := fits.invariant
    (fun _ _ _ tracked fits taken => Tracked.next tracked fits taken) tracked_new
  exact ⟨fun world visited => Outline.of_continues (tracked world visited).tree, placed⟩

/-- `localeCompare` where the locale orders strings by their code points. -/
def compareCodePoints (left right : String) : Int :=
  if left.toList = right.toList then 0 else if left.toList < right.toList then -1 else 1

/-- One directory is expanded. -/
theorem preorderTree_of_one_expansion :
    (∀ world, Visits (next compareCodePoints []) new
        [.opened, .directoryListed 0 [⟨"a", "/a", true⟩], .toggleExpand 0,
          .directoryListed 0 [⟨"x", "/a/x", true⟩]] world → world.PreorderTree) ∧
      Conforms (next compareCodePoints []) (Placed compareCodePoints []) new
        [.opened, .directoryListed 0 [⟨"a", "/a", true⟩], .toggleExpand 0,
          .directoryListed 0 [⟨"x", "/a/x", true⟩]] := by
  refine preorderTree_of_pendingFits compareCodePoints [] ?_
  intro opened isOpened
  obtain rfl := Option.some.inj (show some _ = some opened from isOpened)
  refine ⟨trivial, fun listed isListed => ⟨fun request made => ?_, ?_⟩⟩
  · obtain rfl := Option.some.inj (show some _ = some request from made)
    rfl
  · obtain rfl := Option.some.inj (show some _ = some listed from isListed)
    intro toggled isToggled
    obtain rfl := Option.some.inj (show some _ = some toggled from isToggled)
    refine ⟨trivial, fun listed isListed => ⟨fun request made => ?_, trivial⟩⟩
    obtain rfl := Option.some.inj (show some _ = some request from made)
    exact .inl ⟨_, rfl, rfl, rfl⟩

/-- Two directories are expanded, and the listing of the first comes back first. -/
theorem listing_below_other_directory :
    ¬ ∀ world, Visits (next compareCodePoints []) new
        [.opened, .directoryListed 0 [⟨"a", "/a", true⟩, ⟨"b", "/b", true⟩], .toggleExpand 0,
          .toggleExpand 1, .directoryListed 0 [⟨"x", "/a/x", true⟩]] world →
      world.PreorderTree := by
  refine not_visits_of_replay
    (fun world => decide (world.picker.dirModel.map (fun row => (row.path, row.name, row.depth)) =
      [("/a", "a", 0), ("/b", "b", 0), ("/a/x", "x", 1)]))
    (by decide +kernel) ?_
  intro world isRows tree
  obtain ⟨first, _, shape, -, isRows⟩ := List.map_eq_cons_iff.mp (of_decide_eq_true isRows)
  obtain ⟨second, _, rfl, isSecond, isRows⟩ := List.map_eq_cons_iff.mp isRows
  obtain ⟨third, _, rfl, isThird, isRows⟩ := List.map_eq_cons_iff.mp isRows
  obtain rfl := List.map_eq_nil_iff.mp isRows
  obtain ⟨secondPath, -, secondDepth⟩ := Prod.mk.inj isSecond |>.imp id Prod.mk.inj
  obtain ⟨thirdPath, thirdName, thirdDepth⟩ := Prod.mk.inj isThird |>.imp id Prod.mk.inj
  have liesIn :=
    tree.nested [first] second [] third [] shape (by rw [secondDepth, thirdDepth]) nofun
  rw [LiesIn, secondPath, thirdPath, thirdName] at liesIn
  revert liesIn
  decide +kernel

end PickerSession

end CoderDesktop.FileSync
