import CoderDesktop.Collections.Keyed
import CoderDesktop.FileSync.FileTransferManager
import CoderDesktop.Signals.Acknowledged
import Mathlib.Data.List.Nodup

/-!
# The books of the transfer manager

Every id handed out belongs to an active transfer or to one that has ended with a signal,
never to both: the active ids and the ids of the ends are a permutation of the ids. What
the operations do in between are rewrites in place that change neither.
-/

namespace CoderDesktop.FileSync

open Collections Signals

/-- The end of a transfer a signal tells of. -/
def TransferSignal.ended : TransferSignal → Option (Nat × FileTransferState)
  | .transferCompleted id => some (id, .completed)
  | .transferFailed id _ => some (id, .failed)
  | .transferCancelled id => some (id, .cancelled)
  | .rowsInserted _ | .rowsRemoved _ | .dataChanged _ | .transferStarted _
  | .transferProgress _ _ _ | .transferCountChanged => none

/-- The signal announces a new row. -/
def TransferSignal.inserts : TransferSignal → Bool
  | .rowsInserted _ => true
  | _ => false

/-- The signal announces that a row went. -/
def TransferSignal.removes : TransferSignal → Bool
  | .rowsRemoved _ => true
  | _ => false

/-- The signal tells that there is another number of rows or of active transfers. -/
def TransferSignal.counts (signal : TransferSignal) : Bool :=
  signal.inserts || signal.removes || signal.ended.isSome

namespace FileTransferManager

variable (manager : FileTransferManager)

/-- The ids of the rows, in order. -/
def ids : List Nat := manager.transfers.map fun transfer => transfer.info.id

/-- The ids of the active rows, in order. -/
def activeIds : List Nat :=
  keysWhere (fun transfer => transfer.info.id) (fun transfer => transfer.info.state.active)
    manager.transfers

/-- The ends told so far, in order. -/
def endings : List (Nat × FileTransferState) := manager.emitted.filterMap TransferSignal.ended

/-- How many rows were announced. -/
def rowsInserted : Nat := manager.emitted.countP TransferSignal.inserts

/-- How many rows were announced as removed. -/
def rowsRemoved : Nat := manager.emitted.countP TransferSignal.removes

/-- After the last change of a count it was announced. -/
def CountAnnounced : Prop :=
  Acknowledged TransferSignal.counts .transferCountChanged manager.emitted

/-- The manager's books agree with the ids handed out so far. -/
structure Books (manager : FileTransferManager) (handed : List Nat) : Prop where
  inOrder : handed = List.range' 1 handed.length
  nextId : manager.nextId = handed.length + 1
  listed : manager.ids.Sublist handed
  accounted : (manager.activeIds ++ manager.endings.map Prod.fst).Perm handed
  ended : ∀ transfer ∈ manager.transfers, transfer.info.state.active = false →
    (transfer.info.id, transfer.info.state) ∈ manager.endings
  process : ∀ transfer ∈ manager.transfers, transfer.process = true →
    transfer.info.state = .running ∨ transfer.info.state = .cancelled
  inserted : manager.rowsInserted = handed.length
  removed : manager.transfers.length + manager.rowsRemoved = manager.rowsInserted

end FileTransferManager

/-! ## Rewrites in place -/

/-- A change that ends nothing: an active transfer may start to run, a process may stop. -/
structure Steady (transfer after : RunningTransfer) : Prop where
  sameId : after.info.id = transfer.info.id
  state : after.info.state = transfer.info.state ∨
    (transfer.info.state.active = true ∧ after.info.state = .running)
  process : after.process = true → transfer.process = true ∨ after.info.state = .running

/-- The change that ends the transfer with this id, and steadies the others. -/
structure EndsAs (id : Nat) (state : FileTransferState) (transfer after : RunningTransfer) :
    Prop where
  sameId : after.info.id = transfer.info.id
  ends : transfer.info.id = id → after.info.state = state ∧
    (after.process = true → transfer.process = true)
  others : transfer.info.id ≠ id → Steady transfer after

/-- Each transfer is changed in its place, with signals that change no count. -/
structure Rewrites (changed : RunningTransfer → RunningTransfer → Prop)
    (before after : FileTransferManager) : Prop where
  nextId : after.nextId = before.nextId
  transfers : ∃ write, after.transfers = before.transfers.map write ∧
    ∀ transfer ∈ before.transfers, changed transfer (write transfer)
  emitted : ∃ signals, after.emitted = before.emitted ++ signals ∧
    ∀ signal ∈ signals, signal.counts = false

/-- A row is steady. -/
theorem Steady.refl (transfer : RunningTransfer) : Steady transfer transfer :=
  ⟨rfl, .inl rfl, .inl⟩

/-- A steady row stays active, or inactive. -/
theorem Steady.active {transfer after : RunningTransfer} (steady : Steady transfer after) :
    after.info.state.active = transfer.info.state.active := by
  rcases steady.state with same | ⟨active, running⟩
  · rw [same]
  · rw [running, active]
    rfl

/-- What has ended stays as it ended. -/
theorem Steady.same_state {transfer after : RunningTransfer} (steady : Steady transfer after)
    (inactive : transfer.info.state.active = false) : after.info.state = transfer.info.state := by
  rcases steady.state with same | ⟨active, -⟩
  · exact same
  · exact absurd (active.symm.trans inactive) nofun

/-- A process runs for a running or cancelled row. -/
theorem Steady.state_of_process {transfer after : RunningTransfer}
    (steady : Steady transfer after) (runs : after.process = true)
    (known : transfer.process = true →
      transfer.info.state = .running ∨ transfer.info.state = .cancelled) :
    after.info.state = .running ∨ after.info.state = .cancelled := by
  rcases steady.process runs with earlier | running
  · rcases steady.state with same | ⟨-, running⟩
    · exact same ▸ known earlier
    · exact .inl running
  · exact .inl running

/-- Steady twice is steady. -/
theorem Steady.trans {first second third : RunningTransfer} (one : Steady first second)
    (two : Steady second third) : Steady first third := by
  refine ⟨two.sameId.trans one.sameId, ?_, fun process => ?_⟩
  · rcases two.state with same | ⟨active, running⟩
    · rw [same]
      exact one.state
    · exact .inr ⟨one.active ▸ active, running⟩
  · rcases two.process process with earlier | running
    · rcases one.process earlier with first | running
      · exact .inl first
      · rcases two.state with same | ⟨-, later⟩
        · exact .inr (same.trans running)
        · exact .inr later
    · exact .inr running

namespace Rewrites

variable {changed first second third : RunningTransfer → RunningTransfer → Prop}
  {before middle after : FileTransferManager}

/-- Nothing was rewritten. -/
theorem refl (same : ∀ transfer, changed transfer transfer) : Rewrites changed before before :=
  ⟨rfl, ⟨id, (List.map_id _).symm, fun transfer _ => same transfer⟩, [],
    (List.append_nil _).symm, nofun⟩

/-- Rewriting twice is rewriting. -/
theorem trans (one : Rewrites first before middle) (two : Rewrites second middle after)
    (compose : ∀ transfer between later, first transfer between → second between later →
      third transfer later) : Rewrites third before after := by
  obtain ⟨write, transfers, changed⟩ := one.transfers
  obtain ⟨rewrite, retransfers, rechanged⟩ := two.transfers
  obtain ⟨signals, emitted, silent⟩ := one.emitted
  obtain ⟨more, reemitted, still⟩ := two.emitted
  refine ⟨two.nextId.trans one.nextId, ⟨rewrite ∘ write, ?_, fun transfer member => ?_⟩,
    signals ++ more, ?_, fun signal member => ?_⟩
  · rw [retransfers, transfers, List.map_map]
  · refine compose _ _ _ (changed transfer member) (rechanged (write transfer) ?_)
    rw [transfers]
    exact List.mem_map_of_mem member
  · rw [reemitted, emitted, List.append_assoc]
  · rcases List.mem_append.mp member with early | late
    · exact silent signal early
    · exact still signal late

/-- A signal that changes no count. -/
theorem emit {signal : TransferSignal} (rewrites : Rewrites changed before after)
    (silent : signal.counts = false) : Rewrites changed before (after.emit signal) := by
  obtain ⟨signals, emitted, quiet⟩ := rewrites.emitted
  refine ⟨rewrites.nextId, rewrites.transfers, signals ++ [signal], ?_, ?_⟩
  · rw [FileTransferManager.emit, emitted, List.append_assoc]
  · intro other member
    rcases List.mem_append.mp member with early | late
    · exact quiet other early
    · exact List.mem_singleton.mp late ▸ silent

/-- Announcing changed data rewrites nothing. -/
theorem emitDataChanged (rewrites : Rewrites changed before after) (id : Nat) :
    Rewrites changed before (after.emitDataChanged id) := by
  unfold FileTransferManager.emitDataChanged
  split
  · exact rewrites.emit rfl
  · exact rewrites

/-- Signals that change no count. -/
theorem told_of_silent {signals : List TransferSignal}
    (emitted : after.emitted = before.emitted ++ signals)
    (silent : ∀ signal ∈ signals, signal.counts = false) :
    after.endings = before.endings ∧ after.rowsInserted = before.rowsInserted ∧
      after.rowsRemoved = before.rowsRemoved := by
  have quiet : ∀ signal ∈ signals, (signal.inserts = false ∧ signal.removes = false) ∧
      signal.ended = none := by
    intro signal member
    simpa [TransferSignal.counts] using silent signal member
  have unended : signals.filterMap TransferSignal.ended = [] :=
    List.filterMap_eq_nil_iff.mpr fun signal member => (quiet signal member).2
  have uninserted : signals.countP TransferSignal.inserts = 0 :=
    List.countP_eq_zero.mpr fun signal member => by simp [(quiet signal member).1.1]
  have unremoved : signals.countP TransferSignal.removes = 0 :=
    List.countP_eq_zero.mpr fun signal member => by simp [(quiet signal member).1.2]
  unfold FileTransferManager.endings FileTransferManager.rowsInserted
    FileTransferManager.rowsRemoved
  rw [emitted, List.filterMap_append, unended, List.append_nil, List.countP_append, uninserted,
    List.countP_append, unremoved]
  exact ⟨rfl, rfl, rfl⟩

/-- A rewrite announces no end and no row. -/
theorem told (rewrites : Rewrites changed before after) :
    after.endings = before.endings ∧ after.rowsInserted = before.rowsInserted ∧
      after.rowsRemoved = before.rowsRemoved := by
  obtain ⟨signals, emitted, silent⟩ := rewrites.emitted
  exact told_of_silent emitted silent

/-- A rewrite keeps the count announced. -/
theorem countAnnounced (rewrites : Rewrites changed before after)
    (announced : before.CountAnnounced) : after.CountAnnounced := by
  obtain ⟨signals, emitted, silent⟩ := rewrites.emitted
  unfold FileTransferManager.CountAnnounced
  rw [emitted]
  exact announced.append silent

/-- Writes that keep the ids keep their list. -/
theorem ids (rewrites : Rewrites changed before after)
    (same : ∀ transfer later, changed transfer later → later.info.id = transfer.info.id) :
    after.ids = before.ids := by
  obtain ⟨write, transfers, changed⟩ := rewrites.transfers
  unfold FileTransferManager.ids
  rw [transfers, List.map_map]
  exact List.map_congr_left fun transfer member => same _ _ (changed transfer member)

/-- Every row was a row before. -/
theorem exists_of_mem (rewrites : Rewrites changed before after) {later : RunningTransfer}
    (member : later ∈ after.transfers) :
    ∃ transfer ∈ before.transfers, changed transfer later := by
  obtain ⟨write, transfers, changes⟩ := rewrites.transfers
  rw [transfers] at member
  obtain ⟨transfer, known, rfl⟩ := List.mem_map.mp member
  exact ⟨transfer, known, changes transfer known⟩

/-- There are as many rows as before. -/
theorem length (rewrites : Rewrites changed before after) :
    after.transfers.length = before.transfers.length := by
  obtain ⟨write, transfers, -⟩ := rewrites.transfers
  rw [transfers, List.length_map]

end Rewrites

namespace FileTransferManager

variable {manager before after : FileTransferManager} {handed : List Nat}

/-- No id is handed out twice. -/
theorem Books.nodup (books : manager.Books handed) : handed.Nodup := by
  rw [books.inOrder]
  exact List.nodup_range'

/-- No two rows have one id. -/
theorem Books.distinct (books : manager.Books handed) : manager.ids.Nodup :=
  books.nodup.sublist books.listed

/-- No transfer ends twice. -/
theorem Books.endsOnce (books : manager.Books handed) :
    (manager.endings.map Prod.fst).Nodup :=
  (List.nodup_append.mp (books.accounted.nodup_iff.mpr books.nodup)).2.1

/-- The active ids are those of active rows. -/
theorem mem_activeIds {id : Nat} :
    id ∈ manager.activeIds ↔
      ∃ transfer ∈ manager.transfers,
        transfer.info.state.active = true ∧ transfer.info.id = id := by
  simp [activeIds, keysWhere, and_assoc]

/-- Nothing is active that has ended. -/
theorem Books.not_ended (books : manager.Books handed) {transfer : RunningTransfer}
    (member : transfer ∈ manager.transfers) (active : transfer.info.state.active = true)
    (state : FileTransferState) : (transfer.info.id, state) ∉ manager.endings := by
  intro ended
  have apart := (List.nodup_append.mp (books.accounted.nodup_iff.mpr books.nodup)).2.2
  exact apart _ (mem_activeIds.mpr ⟨transfer, member, active, rfl⟩) _
    (List.mem_map_of_mem (f := Prod.fst) ended) rfl

/-- The state an end was told with. -/
theorem Books.state_eq (books : manager.Books handed) {transfer : RunningTransfer}
    (member : transfer ∈ manager.transfers) {state : FileTransferState}
    (ended : (transfer.info.id, state) ∈ manager.endings) : transfer.info.state = state := by
  cases active : transfer.info.state.active with
  | true => exact absurd ended (books.not_ended member active state)
  | false =>
      have told := books.ended transfer member active
      have same := List.inj_on_of_nodup_map books.endsOnce told ended rfl
      exact (Prod.mk.inj same).2

/-- There are as many as active rows. -/
theorem activeTransferCount_eq : manager.activeTransferCount = manager.activeIds.length := by
  simp [activeTransferCount, activeIds, keysWhere, List.countP_eq_length_filter]

/-- Steady rows have the same active ids. -/
theorem activeIds_steady (rewrites : Rewrites Steady before after) :
    after.activeIds = before.activeIds := by
  obtain ⟨write, transfers, steady⟩ := rewrites.transfers
  unfold activeIds
  rw [transfers]
  exact keysWhere_map (fun transfer member => (steady transfer member).sameId)
    fun transfer member => (steady transfer member).active

/-- Steady rewrites keep the books. -/
theorem Books.steady (books : before.Books handed) (rewrites : Rewrites Steady before after) :
    after.Books handed := by
  obtain ⟨still, inserted, removed⟩ := rewrites.told
  have ids := rewrites.ids fun _ _ steady => steady.sameId
  refine ⟨books.inOrder, rewrites.nextId.trans books.nextId, ids ▸ books.listed, ?_, ?_, ?_,
    inserted.trans books.inserted, ?_⟩
  · rw [activeIds_steady rewrites, still]
    exact books.accounted
  · intro later member inactive
    obtain ⟨transfer, member, step⟩ := rewrites.exists_of_mem member
    rw [step.active] at inactive
    rw [still, step.sameId, step.same_state inactive]
    exact books.ended transfer member inactive
  · intro later member process
    obtain ⟨transfer, member, step⟩ := rewrites.exists_of_mem member
    exact step.state_of_process process (books.process transfer member)
  · rw [rewrites.length, inserted, removed]
    exact books.removed

/-- The end of an active transfer, once its signal is sent. -/
theorem Books.settle (books : before.Books handed) {id : Nat} {state : FileTransferState}
    (rewrites : Rewrites (EndsAs id state) before after) (active : id ∈ before.activeIds)
    (inactive : state.active = false)
    (process : state = .cancelled ∨
      ∀ transfer ∈ before.transfers, transfer.info.id = id → transfer.process = false)
    {signal : TransferSignal} (ended : signal.ended = some (id, state)) :
    (after.emit signal).Books handed ∧
      (after.emit signal).activeTransferCount + 1 = before.activeTransferCount := by
  have uncounted : signal.inserts = false ∧ signal.removes = false := by
    cases signal <;> simp [TransferSignal.ended, TransferSignal.inserts, TransferSignal.removes]
      at ended ⊢
  obtain ⟨still, inserted, removed⟩ := rewrites.told
  obtain ⟨write, transfers, changes⟩ := rewrites.transfers
  have ids := rewrites.ids fun _ _ changed => changed.sameId
  have endings : (after.emit signal).endings = before.endings ++ [(id, state)] := by
    unfold FileTransferManager.endings emit
    rw [List.filterMap_append, List.filterMap_cons_some ended]
    exact congrArg (· ++ _) still
  have without : after.activeIds = before.activeIds.filter fun other => decide (other ≠ id) := by
    unfold activeIds
    rw [transfers]
    refine keysWhere_map_without (fun transfer member => (changes transfer member).sameId) ?_
    intro transfer member
    by_cases same : transfer.info.id = id
    · rw [((changes transfer member).ends same).1, inactive]
      simp [same]
    · rw [((changes transfer member).others same).active]
      simp [same]
  have distinct : before.activeIds.Nodup :=
    (List.nodup_append.mp (books.accounted.nodup_iff.mpr books.nodup)).1
  have split := perm_cons_filter_ne distinct active
  rw [← without] at split
  refine ⟨⟨books.inOrder, rewrites.nextId.trans books.nextId, ids ▸ books.listed, ?_, ?_, ?_,
    ?_, ?_⟩, ?_⟩
  · rw [endings, List.map_append]
    show (after.activeIds ++ (before.endings.map Prod.fst ++ [id])).Perm handed
    refine List.Perm.trans ?_ books.accounted
    rw [← List.append_assoc]
    refine (List.perm_append_singleton id _).trans ?_
    exact (split.symm.append_right _ : _)
  · intro later member finished
    rw [endings]
    obtain ⟨transfer, member, change⟩ := rewrites.exists_of_mem member
    by_cases same : transfer.info.id = id
    · rw [change.sameId, (change.ends same).1, same]
      simp
    · have step := change.others same
      rw [step.active] at finished
      rw [step.sameId, step.same_state finished]
      exact List.mem_append_left _ (books.ended transfer member finished)
  · intro later member runs
    obtain ⟨transfer, member, change⟩ := rewrites.exists_of_mem member
    by_cases same : transfer.info.id = id
    · rw [(change.ends same).1]
      rcases process with cancelled | stopped
      · exact .inr cancelled
      · exact absurd ((stopped transfer member same).symm.trans ((change.ends same).2 runs)) nofun
    · exact (change.others same).state_of_process runs (books.process transfer member)
  · show (after.emitted ++ [signal]).countP TransferSignal.inserts = _
    rw [List.countP_append, List.countP_singleton, uncounted.1]
    exact inserted.trans books.inserted
  · show after.transfers.length + (after.emitted ++ [signal]).countP TransferSignal.removes =
      (after.emitted ++ [signal]).countP TransferSignal.inserts
    rw [List.countP_append, List.countP_append, List.countP_singleton, List.countP_singleton,
      uncounted.1, uncounted.2, rewrites.length]
    have told := books.removed
    rw [← inserted, ← removed] at told
    exact told
  · rw [activeTransferCount_eq, activeTransferCount_eq]
    exact (split.length_eq.trans (List.length_cons)).symm

/-- A new transfer is inserted under the next id. -/
theorem Books.insert (books : before.Books handed) {transfer : FileTransfer}
    (id : transfer.id = before.nextId) (queued : transfer.state = .queued) :
    (emit { before with
      nextId := before.nextId + 1
      transfers := before.transfers ++ [⟨transfer, false⟩] }
        (.rowsInserted before.transfers.length)).Books (handed ++ [before.nextId]) := by
  have active : transfer.state.active = true := by
    rw [queued]
    rfl
  refine ⟨?_, ?_, ?_, ?_, ?_, ?_, ?_, ?_⟩
  · rw [List.length_append, List.length_singleton, List.range'_concat, ← books.inOrder,
      books.nextId]
    simp [Nat.add_comm]
  · show before.nextId + 1 = _
    rw [books.nextId, List.length_append, List.length_singleton]
  · simpa [ids, emit, id] using books.listed
  · have told : (before.activeIds ++ [before.nextId] ++ before.endings.map Prod.fst).Perm
        (handed ++ [before.nextId]) := by
      rw [List.append_assoc]
      refine (List.perm_append_comm.append_left before.activeIds).trans ?_
      rw [← List.append_assoc]
      exact books.accounted.append_right _
    simpa [activeIds, keysWhere, endings, emit, active, id, TransferSignal.ended,
      List.filterMap_cons] using told
  · intro later member inactive
    rcases List.mem_append.mp member with old | new
    · simpa [endings, emit, List.filterMap_append, TransferSignal.ended] using
        books.ended later old inactive
    · obtain rfl := List.mem_singleton.mp new
      exact absurd (active.symm.trans inactive) nofun
  · intro later member runs
    rcases List.mem_append.mp member with old | new
    · exact books.process later old runs
    · obtain rfl := List.mem_singleton.mp new
      cases runs
  · have told := books.inserted
    unfold rowsInserted at told
    simp [rowsInserted, emit, List.countP_append, TransferSignal.inserts, told]
  · have told := books.removed
    unfold rowsInserted rowsRemoved at told
    simp [rowsInserted, rowsRemoved, emit, List.countP_append, TransferSignal.inserts,
      TransferSignal.removes, ← told]
    omega

/-- Transfers that are not active are removed, each with its signal. -/
theorem Books.shrink (books : before.Books handed) (nextId : after.nextId = before.nextId)
    (fewer : after.transfers.Sublist before.transfers)
    (active : after.activeIds = before.activeIds) {rows : List Nat}
    (count : after.transfers.length + rows.length = before.transfers.length)
    (emitted : after.emitted =
      before.emitted ++ rows.map .rowsRemoved ++ [TransferSignal.transferCountChanged]) :
    after.Books handed ∧ after.CountAnnounced := by
  have endings : after.endings = before.endings := by
    unfold FileTransferManager.endings
    rw [emitted, List.filterMap_append, List.filterMap_append]
    simp [List.filterMap_map, TransferSignal.ended, Function.comp_def]
  have inserted : after.rowsInserted = before.rowsInserted := by
    unfold rowsInserted
    rw [emitted, List.countP_append, List.countP_append]
    simp [List.countP_map, TransferSignal.inserts, Function.comp_def]
  have removed : after.rowsRemoved = before.rowsRemoved + rows.length := by
    unfold rowsRemoved
    rw [emitted, List.countP_append, List.countP_append]
    simp [List.countP_map, TransferSignal.removes, Function.comp_def]
  refine ⟨⟨books.inOrder, nextId.trans books.nextId, ?_, ?_, ?_, ?_, ?_, ?_⟩, ?_⟩
  · exact (fewer.map _).trans books.listed
  · rw [active, endings]
    exact books.accounted
  · intro transfer member inactive
    rw [endings]
    exact books.ended transfer (fewer.subset member) inactive
  · exact fun transfer member => books.process transfer (fewer.subset member)
  · exact inserted.trans books.inserted
  · have told := books.removed
    rw [inserted, removed]
    omega
  · unfold CountAnnounced
    rw [emitted]
    exact acknowledged_snoc rfl

end FileTransferManager

end CoderDesktop.FileSync
