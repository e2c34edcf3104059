import CoderDesktop.FileSync.FileTransferManager

/-!
# What a purge leaves

The purge counts the finished transfers, then erases the first ones beyond the limit while
it walks through the list; a row it tells the view is the one at that moment. What is left
is every active transfer and the last finished ones, all in their old order. All of this
holds as long as no transfer it erases still has its `scp`: then the destructor of the
process waits for it inside `vector::erase`, and the handler of `finished` comes to the
slot the next transfer was just moved out of.
-/

namespace CoderDesktop.FileSync

/-- Remove rows one by one; `none` when one is not there. -/
def removeRows {Row : Type} (rows : List Row) (removed : List Nat) : Option (List Row) :=
  removed.foldlM (fun rows row => if row < rows.length then some (rows.eraseIdx row) else none)
    rows

/-- A removal right behind the rows already passed. -/
theorem removeRows_append_cons {Row : Type} (passed rest : List Row) (row : Row)
    (removed : List Nat) :
    removeRows (passed ++ row :: rest) (passed.length :: removed) =
      removeRows (passed ++ rest) removed := by
  have within : passed.length < (passed ++ row :: rest).length := by
    rw [List.length_append, List.length_cons]
    omega
  have gone : (passed ++ row :: rest).eraseIdx passed.length = passed ++ rest := by
    rw [List.eraseIdx_append_of_length_le (Nat.le_refl _), Nat.sub_self, List.eraseIdx_cons_zero]
  rw [removeRows, List.foldlM_cons, if_pos within, gone]
  rfl

namespace RunningTransfer

/-- The transfer is queued or runs. -/
def active (transfer : RunningTransfer) : Bool := transfer.info.state.active

/-- The transfer is completed, failed or cancelled. -/
def finished (transfer : RunningTransfer) : Bool := !transfer.info.state.active

end RunningTransfer

namespace FileTransferManager

/-! ## One erase -/

/-- A search past every transfer with another id comes to the empty slot; one that stops
earlier goes on to count, and the count comes to it. -/
theorem finishedFaults_of_empty {id : Nat} {slots : List (Option RunningTransfer)}
    (empty : none ∈ slots) : finishedFaults id slots = true := by
  have counted : countSlots slots = none := by
    induction slots with
    | nil => cases empty
    | cons slot rest inductionHypothesis =>
        cases slot with
        | none => rfl
        | some transfer =>
            have later : none ∈ rest := by simpa using empty
            rw [countSlots, inductionHypothesis later, Option.map_none]
  have searched : findSlot id slots ≠ some none := by
    induction slots with
    | nil => cases empty
    | cons slot rest inductionHypothesis =>
        cases slot with
        | none => exact nofun
        | some transfer =>
            have later : none ∈ rest := by simpa using empty
            have count : countSlots rest = none := by simpa [countSlots] using counted
            rw [findSlot]
            split
            · exact nofun
            · exact inductionHypothesis later count
  unfold finishedFaults
  split
  · rfl
  · exact absurd ‹_› searched
  · rw [counted, Option.isNone_none]

/-- To erase a transfer with others behind it goes wrong exactly while its process runs. -/
theorem eraseFaults_of_behind {rest : List RunningTransfer} (behind : rest ≠ [])
    (passed : List RunningTransfer) (transfer : RunningTransfer) :
    eraseFaults passed transfer rest = transfer.process := by
  obtain ⟨moved, rest, rfl⟩ := List.exists_cons_of_ne_nil behind
  have empty : none ∈ erasing passed (moved :: rest) := by simp [erasing]
  rw [eraseFaults, finishedFaults_of_empty empty, Bool.and_true]

/-- To erase a transfer whose process has ended never goes wrong. -/
theorem eraseFaults_of_ended {transfer : RunningTransfer} (ended : transfer.process = false)
    (passed rest : List RunningTransfer) : eraseFaults passed transfer rest = false := by
  rw [eraseFaults, ended, Bool.false_and]

/-! ## The walk -/

/-- The walk removes as many transfers as it tells rows, and leaves the others in order. -/
theorem sublist_purgeFrom (toRemove : Nat) (passed transfers : List RunningTransfer) :
    (purgeFrom toRemove passed transfers).transfers.Sublist (passed ++ transfers) ∧
      (purgeFrom toRemove passed transfers).transfers.length +
        (purgeFrom toRemove passed transfers).rows.length = (passed ++ transfers).length := by
  induction transfers generalizing toRemove passed with
  | nil => simp [purgeFrom]
  | cons transfer rest inductionHypothesis =>
      unfold purgeFrom
      split
      · exact ⟨List.Sublist.refl _, rfl⟩
      · split
        · have further := inductionHypothesis toRemove (passed ++ [transfer])
          rwa [List.append_assoc, List.singleton_append] at further
        · obtain ⟨fewer, count⟩ := inductionHypothesis (toRemove - 1) passed
          refine ⟨fewer.trans ((List.sublist_cons_self transfer rest).append_left passed), ?_⟩
          simp only [List.length_append, List.length_cons] at count ⊢
          omega

/-- The walk leaves every active transfer. -/
theorem active_purgeFrom (toRemove : Nat) (passed transfers : List RunningTransfer) :
    (purgeFrom toRemove passed transfers).transfers.filter RunningTransfer.active =
      (passed ++ transfers).filter RunningTransfer.active := by
  induction transfers generalizing toRemove passed with
  | nil => simp [purgeFrom]
  | cons transfer rest inductionHypothesis =>
      unfold purgeFrom
      split
      · rfl
      · cases active : transfer.info.state.active with
        | true =>
            rw [if_pos rfl, inductionHypothesis, List.append_assoc, List.singleton_append]
        | false =>
            rw [if_neg Bool.false_ne_true]
            simp [inductionHypothesis, RunningTransfer.active, active]

/-- The walk drops the first finished transfers, as many as it is to remove. -/
theorem finished_purgeFrom (toRemove : Nat) (passed transfers : List RunningTransfer) :
    (purgeFrom toRemove passed transfers).transfers.filter RunningTransfer.finished =
      passed.filter RunningTransfer.finished ++
        (transfers.filter RunningTransfer.finished).drop toRemove := by
  induction transfers generalizing toRemove passed with
  | nil => simp [purgeFrom]
  | cons transfer rest inductionHypothesis =>
      unfold purgeFrom
      by_cases done : toRemove = 0
      · rw [if_pos done, done, List.drop_zero, List.filter_append]
      · rw [if_neg done]
        cases active : transfer.info.state.active with
        | true =>
            have unfinished : transfer.finished = false := by
              rw [RunningTransfer.finished, active, Bool.not_true]
            rw [if_pos rfl, inductionHypothesis, List.filter_append]
            simp [unfinished]
        | false =>
            have finished : transfer.finished = true := by
              rw [RunningTransfer.finished, active, Bool.not_false]
            obtain ⟨fewer, rfl⟩ := Nat.exists_eq_succ_of_ne_zero done
            rw [if_neg Bool.false_ne_true, List.filter_cons, finished]
            exact inductionHypothesis fewer passed

/-- The rows it tells are those of the transfers it erases, as the list shrinks. -/
theorem removeRows_purgeFrom (toRemove : Nat) (passed transfers : List RunningTransfer) :
    removeRows (passed ++ transfers) (purgeFrom toRemove passed transfers).rows =
      some (purgeFrom toRemove passed transfers).transfers := by
  induction transfers generalizing toRemove passed with
  | nil => simp [purgeFrom, removeRows]
  | cons transfer rest inductionHypothesis =>
      unfold purgeFrom
      split
      · rfl
      · split
        · have further := inductionHypothesis toRemove (passed ++ [transfer])
          rwa [List.append_assoc, List.singleton_append] at further
        · rw [removeRows_append_cons]
          exact inductionHypothesis (toRemove - 1) passed

/-- A walk that leaves finished transfers goes wrong exactly if it erases one whose process
runs: there is always one behind it. -/
theorem faulted_purgeFrom (toRemove : Nat) (passed transfers : List RunningTransfer)
    (leaves : toRemove < (transfers.filter RunningTransfer.finished).length) :
    (purgeFrom toRemove passed transfers).faulted =
      ((transfers.filter RunningTransfer.finished).take toRemove).any RunningTransfer.process := by
  induction transfers generalizing toRemove passed with
  | nil => cases leaves
  | cons transfer rest inductionHypothesis =>
      unfold purgeFrom
      by_cases done : toRemove = 0
      · rw [if_pos done, done]
        rfl
      · rw [if_neg done]
        cases active : transfer.info.state.active with
        | true =>
            have unfinished : transfer.finished = false := by
              rw [RunningTransfer.finished, active, Bool.not_true]
            rw [List.filter_cons, unfinished] at leaves ⊢
            rw [if_pos rfl]
            exact inductionHypothesis toRemove (passed ++ [transfer]) leaves
        | false =>
            have finished : transfer.finished = true := by
              rw [RunningTransfer.finished, active, Bool.not_false]
            obtain ⟨fewer, rfl⟩ := Nat.exists_eq_succ_of_ne_zero done
            rw [List.filter_cons, finished] at leaves ⊢
            have still : fewer < (rest.filter RunningTransfer.finished).length :=
              Nat.lt_of_succ_lt_succ leaves
            have behind : rest ≠ [] := by
              rintro rfl
              cases still
            rw [if_neg Bool.false_ne_true, if_pos rfl, List.take_succ_cons, List.any_cons]
            show (eraseFaults passed transfer rest || (purgeFrom fewer passed rest).faulted) = _
            rw [eraseFaults_of_behind behind, inductionHypothesis fewer passed still]

/-! ## The purge -/

/-- From `old`, a purge that tells of the rows `removed` leaves `new`. -/
structure Purged (old new : List RunningTransfer) (removed : List Nat) : Prop where
  active : new.filter RunningTransfer.active = old.filter RunningTransfer.active
  /-- Of `n` finished transfers, the last `min n 50`. -/
  finished : new.filter RunningTransfer.finished =
    (old.filter RunningTransfer.finished).drop
      ((old.filter RunningTransfer.finished).length -
        min (old.filter RunningTransfer.finished).length 50)
  order : new.Sublist old
  replayed : removeRows old removed = some new

variable {manager : FileTransferManager}

/-- The finished transfers beyond the last 50. -/
def overdue (manager : FileTransferManager) : List RunningTransfer :=
  (manager.transfers.filter RunningTransfer.finished).take
    (manager.finishedCount - kMaxFinishedTransfers)

/-- The finished rows are counted. -/
theorem finishedCount_eq (manager : FileTransferManager) :
    manager.finishedCount = (manager.transfers.filter RunningTransfer.finished).length :=
  List.countP_eq_length_filter

/-- Few finished rows stay. -/
theorem purgeOldFinishedTransfers_of_few (few : manager.finishedCount ≤ 50) :
    manager.purgeOldFinishedTransfers = manager := if_pos few

/-- A purge that removes some tells the rows, and that their number changed. -/
theorem purgeOldFinishedTransfers_of_many (many : ¬ manager.finishedCount ≤ 50) {purged : Purge}
    (walked : purgeFrom (manager.finishedCount - 50) [] manager.transfers = purged) :
    manager.purgeOldFinishedTransfers =
      { manager with
        transfers := purged.transfers
        emitted := manager.emitted ++ purged.rows.map .rowsRemoved ++
          (if purged.rows = [] then [] else [.transferCountChanged])
        faulted := manager.faulted || purged.faulted } := by
  rw [purgeOldFinishedTransfers, kMaxFinishedTransfers, if_neg many, walked]
  by_cases nothing : purged.rows = []
  · simp [nothing]
  · simp [nothing, emit]

/-- A purge runs into an empty slot exactly if the process of a transfer it erases runs. -/
theorem faulted_purgeOldFinishedTransfers (manager : FileTransferManager) :
    manager.purgeOldFinishedTransfers.faulted =
      (manager.faulted || manager.overdue.any RunningTransfer.process) := by
  unfold overdue kMaxFinishedTransfers
  by_cases few : manager.finishedCount ≤ 50
  · rw [purgeOldFinishedTransfers_of_few few, Nat.sub_eq_zero_of_le few, List.take_zero,
      List.any_nil, Bool.or_false]
  · rw [purgeOldFinishedTransfers_of_many few rfl, ← faulted_purgeFrom _ []]
    have count := finishedCount_eq manager
    omega

/-- Where it gets to its end, the purge keeps the active transfers and the last 50 finished
ones, in their order, and tells the rows it removes one by one. -/
theorem purged_purgeOldFinishedTransfers (manager : FileTransferManager) :
    ∃ removed, manager.purgeOldFinishedTransfers.emitted =
        manager.emitted ++ removed.map .rowsRemoved ++
          (if removed = [] then [] else [.transferCountChanged]) ∧
      Purged manager.transfers manager.purgeOldFinishedTransfers.transfers removed := by
  by_cases few : manager.finishedCount ≤ 50
  · rw [purgeOldFinishedTransfers_of_few few]
    rw [finishedCount_eq] at few
    refine ⟨[], by simp, rfl, ?_, List.Sublist.refl _, rfl⟩
    rw [Nat.min_eq_left few, Nat.sub_self, List.drop_zero]
  · have many := few
    rw [finishedCount_eq] at many
    rw [purgeOldFinishedTransfers_of_many few rfl]
    refine ⟨_, rfl, active_purgeFrom _ [] _, ?_, (sublist_purgeFrom _ [] _).1,
      removeRows_purgeFrom _ [] _⟩
    rw [finished_purgeFrom, finishedCount_eq, Nat.min_eq_right (Nat.le_of_not_le many)]
    rfl

/-- What a purge is to do, to the end. -/
def PurgesRightly (manager : FileTransferManager) : Prop :=
  manager.purgeOldFinishedTransfers.faulted = false ∧
    ∃ removed, manager.purgeOldFinishedTransfers.emitted =
        manager.emitted ++ removed.map .rowsRemoved ++
          (if removed = [] then [] else [.transferCountChanged]) ∧
      Purged manager.transfers manager.purgeOldFinishedTransfers.transfers removed

/-- The purge keeps the right transfers exactly if no finished transfer beyond the last 50
still has its process. -/
theorem purgesRightly_iff_overdue_ended (manager : FileTransferManager) :
    manager.PurgesRightly ↔
      manager.faulted = false ∧ ∀ transfer ∈ manager.overdue, transfer.process = false := by
  have spec := purged_purgeOldFinishedTransfers manager
  refine ⟨fun rightly => ?_, fun ended => ⟨?_, spec⟩⟩
  · have intact := rightly.1
    rw [faulted_purgeOldFinishedTransfers, Bool.or_eq_false_iff] at intact
    refine ⟨intact.1, fun transfer member => ?_⟩
    exact (Bool.not_eq_true _).mp (List.any_eq_false.mp intact.2 transfer member)
  · rw [faulted_purgeOldFinishedTransfers, Bool.or_eq_false_iff]
    refine ⟨ended.1, List.any_eq_false.mpr fun transfer member => ?_⟩
    exact (Bool.not_eq_true _).mpr (ended.2 transfer member)

/-- A finished transfer. -/
def finishedRow (state : FileTransferState) (process : Bool) (id : Nat) : RunningTransfer :=
  ⟨⟨id, "dev.coder", "/home/u/a", "/home/coder/a", true, 0, 0, state, ""⟩, process⟩

/-- The first of 51 finished transfers was cancelled, and its `scp` still runs. -/
theorem outlivedCancel_faults :
    ¬ PurgesRightly { new with
      nextId := 52
      transfers := finishedRow .cancelled true 1 ::
        (List.range' 2 50).map (finishedRow .failed false) } := by
  rintro ⟨intact, -⟩
  revert intact
  decide +kernel

end FileTransferManager

end CoderDesktop.FileSync
