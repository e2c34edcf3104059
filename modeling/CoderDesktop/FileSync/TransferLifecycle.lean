import CoderDesktop.FileSync.TransferBooks
import CoderDesktop.FileSync.TransferPolicy
import CoderDesktop.FileSync.TransferPurge

/-!
# The life of a transfer

A transfer is queued, runs, and ends once: by its process, because the process cannot be
started, or by a call that cancels it. Only then is it removed. The operations are
followed through their nested handlers, which see the state the operation left. A
removal by a timer finds the process gone, since the transfer was completed. A purge may
find a cancelled transfer whose process has outlived the wait for its end.
-/

namespace CoderDesktop.FileSync

open Collections Semantics Settings Signals

/-- A steady row after its end has ended. -/
theorem EndsAs.steady {id : Nat} {state : FileTransferState} (inactive : state.active = false)
    {transfer between later : RunningTransfer} (ends : EndsAs id state transfer between)
    (steady : Steady between later) : EndsAs id state transfer later := by
  refine ⟨steady.sameId.trans ends.sameId, fun same => ?_, fun apart =>
    (ends.others apart).trans steady⟩
  obtain ⟨ended, process⟩ := ends.ends same
  have kept : later.info.state = state :=
    (steady.same_state (ended ▸ inactive)).trans ended
  refine ⟨kept, fun runs => ?_⟩
  rcases steady.process runs with earlier | running
  · exact process earlier
  · rw [← kept, running] at inactive
    cases inactive

/-- A rewrite only adds signals. -/
theorem Rewrites.emitted_prefix {changed : RunningTransfer → RunningTransfer → Prop}
    {before after : FileTransferManager} (rewrites : Rewrites changed before after) :
    before.emitted <+: after.emitted := by
  obtain ⟨signals, emitted, -⟩ := rewrites.emitted
  exact ⟨signals, emitted.symm⟩

namespace FileTransferManager

variable {manager before after : FileTransferManager} {handed : List Nat} {id : Nat}

/-! ## Writes to one transfer -/

/-- With distinct ids an update is one of the row with the id. -/
theorem transfers_updateTransfer (distinct : manager.ids.Nodup)
    (write : RunningTransfer → RunningTransfer) :
    manager.updateTransfer id write = { manager with
      transfers := manager.transfers.map fun transfer =>
        if transfer.info.id = id then write transfer else transfer } := by
  rw [← modify_findIdx_eq_map id write distinct]
  unfold updateTransfer rowForTransfer
  cases manager.transfers.findIdx? fun transfer => transfer.info.id = id with
  | none => rfl
  | some row => rfl

/-- An update rewrites the row with the id, if it writes it as allowed. -/
theorem rewrites_updateTransfer {changed : RunningTransfer → RunningTransfer → Prop}
    (distinct : manager.ids.Nodup) {write : RunningTransfer → RunningTransfer}
    (written : ∀ transfer ∈ manager.transfers, transfer.info.id = id →
      changed transfer (write transfer))
    (others : ∀ transfer, transfer.info.id ≠ id → changed transfer transfer) :
    Rewrites changed manager (manager.updateTransfer id write) := by
  rw [transfers_updateTransfer distinct]
  refine ⟨rfl, ⟨_, rfl, fun transfer member => ?_⟩, [], (List.append_nil _).symm, nofun⟩
  split
  · exact written transfer member ‹_›
  · exact others transfer ‹_›

/-- A write that leaves the state and the process alone. -/
theorem steady_updateTransfer (distinct : manager.ids.Nodup)
    {write : RunningTransfer → RunningTransfer}
    (written : ∀ transfer, Steady transfer (write transfer)) :
    Rewrites Steady manager (manager.updateTransfer id write) :=
  rewrites_updateTransfer distinct (fun transfer _ _ => written transfer)
    fun transfer _ => .refl transfer

/-- Setting a state that is not active ends the row. -/
theorem ends_setState (distinct : manager.ids.Nodup) (id : Nat) (state : FileTransferState) :
    Rewrites (EndsAs id state) manager (manager.setState id state) :=
  rewrites_updateTransfer distinct
    (fun _ _ same => ⟨rfl, fun _ => ⟨rfl, fun process => process⟩, fun apart => absurd same apart⟩)
    fun transfer apart => ⟨rfl, fun same => absurd same apart, fun _ => .refl transfer⟩

/-- Steady rewrites one after the other. -/
theorem steady_trans (one : Rewrites Steady manager before)
    (two : before.ids.Nodup → Rewrites Steady before after) (distinct : manager.ids.Nodup) :
    Rewrites Steady manager after :=
  one.trans (two ((one.ids fun _ _ steady => steady.sameId) ▸ distinct))
    fun _ _ _ first second => first.trans second

/-- An end and steady rewrites after it. -/
theorem ends_trans {state : FileTransferState} (inactive : state.active = false)
    (one : Rewrites (EndsAs id state) manager before)
    (two : before.ids.Nodup → Rewrites Steady before after) (distinct : manager.ids.Nodup) :
    Rewrites (EndsAs id state) manager after :=
  one.trans (two ((one.ids fun _ _ ends => ends.sameId) ▸ distinct))
    fun _ _ _ first second => first.steady inactive second

/-! ## Process signals -/

/-- Progress is steady. -/
theorem steady_onProgress (distinct : manager.ids.Nodup) (update : Int × Int) :
    Rewrites Steady manager (manager.onProgress id update) := by
  unfold onProgress
  split
  · exact .refl .refl
  · refine Rewrites.emit (.emitDataChanged ?_ id) rfl
    exact steady_updateTransfer distinct fun transfer => ⟨rfl, .inl rfl, .inl⟩

/-- Several lines of progress are steady. -/
theorem steady_onProgress_all (distinct : manager.ids.Nodup) (updates : List (Int × Int)) :
    Rewrites Steady manager (updates.foldl (·.onProgress id ·) manager) := by
  induction updates generalizing manager with
  | nil => exact .refl .refl
  | cons update rest inductionHypothesis =>
      exact steady_trans (steady_onProgress distinct update) inductionHypothesis distinct

/-- A process that ends leaves its row. -/
theorem steady_setProcess_false (distinct : manager.ids.Nodup) (id : Nat) :
    Rewrites Steady manager (manager.setProcess id false) :=
  steady_updateTransfer distinct fun _ => ⟨rfl, .inl rfl, fun runs => nomatch runs⟩

/-- The transfer with this id is running or cancelled, and its process is not running. -/
def Stopped (manager : FileTransferManager) (id : Nat) : Prop :=
  ∀ transfer ∈ manager.transfers, transfer.info.id = id → transfer.process = false ∧
    (transfer.info.state = .running ∨ transfer.info.state = .cancelled)

/-- A row that is found is there. -/
theorem find_mem {transfer : RunningTransfer} (found : manager.findTransfer id = some transfer) :
    transfer ∈ manager.transfers ∧ transfer.info.id = id :=
  ⟨List.mem_of_find?_eq_some found, by simpa using List.find?_some found⟩

/-- An id of the list is found. -/
theorem exists_find (member : id ∈ manager.ids) :
    ∃ transfer, manager.findTransfer id = some transfer := by
  obtain ⟨transfer, member, same⟩ := List.mem_map.mp member
  exact Option.isSome_iff_exists.mp (List.find?_isSome.mpr ⟨transfer, member, by simpa⟩)

/-- With distinct ids the id tells the row. -/
theorem eq_of_sameId (distinct : manager.ids.Nodup) {one other : RunningTransfer}
    (first : one ∈ manager.transfers) (second : other ∈ manager.transfers)
    (same : one.info.id = other.info.id) : one = other :=
  List.inj_on_of_nodup_map distinct first second same

/-- A process that ends has stopped its row. -/
theorem Books.stopped (books : manager.Books handed) (running : manager.processRunning id = true) :
    (manager.setProcess id false).Stopped id := by
  obtain ⟨found, search, process⟩ := (Option.any_eq_true _ _).mp running
  obtain ⟨known, sameId⟩ := find_mem search
  intro transfer member same
  unfold setProcess at member
  rw [transfers_updateTransfer books.distinct] at member
  obtain ⟨original, listed, rfl⟩ := List.mem_map.mp member
  by_cases isId : original.info.id = id
  · obtain rfl := eq_of_sameId books.distinct listed known (isId.trans sameId.symm)
    rw [if_pos isId]
    exact ⟨rfl, books.process original listed process⟩
  · rw [if_neg isId] at same
    exact absurd same isId

/-- What every operation keeps, up to the ids handed out. -/
structure Keeps (before after : FileTransferManager) (handed : List Nat) : Prop where
  books : after.Books handed
  announced : after.CountAnnounced
  active : ∀ id ∈ before.activeIds, id ∈ after.ids
  emitted : before.emitted <+: after.emitted

/-- Active ids are ids. -/
theorem activeIds_subset : ∀ id ∈ manager.activeIds, id ∈ manager.ids := by
  intro id member
  obtain ⟨transfer, listed, -, rfl⟩ := mem_activeIds.mp member
  exact List.mem_map_of_mem (f := fun transfer => transfer.info.id) listed

/-- Steady rewrites keep the books. -/
theorem Books.keeps_steady (books : before.Books handed) (announced : before.CountAnnounced)
    (rewrites : Rewrites Steady before after) : Keeps before after handed :=
  ⟨books.steady rewrites, rewrites.countAnnounced announced,
    fun id member => (rewrites.ids fun _ _ steady => steady.sameId) ▸ activeIds_subset id member,
    rewrites.emitted_prefix⟩

/-- Announcing the count rewrites nothing. -/
theorem emitActiveCountIfChanged_steady (manager : FileTransferManager) (previousCount : Nat) :
    Rewrites Steady manager (manager.emitActiveCountIfChanged previousCount) := by
  unfold emitActiveCountIfChanged
  split
  · exact (Rewrites.refl .refl).emit rfl
  · exact .refl .refl

/-- A changed count is announced. -/
theorem announced_of_changed {previousCount : Nat}
    (changed : manager.activeTransferCount ≠ previousCount) :
    (manager.emitActiveCountIfChanged previousCount).CountAnnounced := by
  unfold emitActiveCountIfChanged
  rw [if_pos changed]
  exact acknowledged_snoc rfl

/-- The end of an active transfer, from the write of its state to the announcement of the
new count. -/
theorem Books.keeps_end (books : before.Books handed) (state : FileTransferState)
    {told later : FileTransferManager}
    (rewrites : Rewrites (EndsAs id state) before told) (active : id ∈ before.activeIds)
    (inactive : state.active = false)
    (process : state = .cancelled ∨
      ∀ transfer ∈ before.transfers, transfer.info.id = id → transfer.process = false)
    {signal : TransferSignal} (ended : signal.ended = some (id, state))
    (quiet : Rewrites Steady (told.emit signal) later) :
    Keeps before (later.emitActiveCountIfChanged before.activeTransferCount) handed := by
  obtain ⟨settled, fewer⟩ := books.settle rewrites active inactive process ended
  have still : later.activeTransferCount = (told.emit signal).activeTransferCount := by
    rw [activeTransferCount_eq, activeTransferCount_eq, activeIds_steady quiet]
  have finish := later.emitActiveCountIfChanged_steady before.activeTransferCount
  refine ⟨(settled.steady quiet).steady finish, announced_of_changed (by omega), ?_, ?_⟩
  · intro other member
    rw [finish.ids fun _ _ steady => steady.sameId, quiet.ids fun _ _ steady => steady.sameId]
    exact (rewrites.ids fun _ _ ends => ends.sameId) ▸ activeIds_subset other member
  · exact (rewrites.emitted_prefix.trans (List.prefix_append _ _)).trans
      (quiet.emitted_prefix.trans finish.emitted_prefix)

/-- An error text is steady. -/
theorem steady_setErrorMessage (distinct : manager.ids.Nodup) (message : String) :
    Rewrites Steady manager (manager.setErrorMessage id message) :=
  steady_updateTransfer distinct fun _ => ⟨rfl, .inl rfl, .inl⟩

/-- A transfer that runs fails with a message. -/
theorem ends_failed (distinct : manager.ids.Nodup) (message : String) :
    Rewrites (EndsAs id .failed) manager
      (((manager.setState id .failed).setErrorMessage id message).emitDataChanged id) :=
  (ends_trans rfl (ends_setState distinct id .failed)
    (steady_setErrorMessage · message) distinct).emitDataChanged id

/-- A running row is active. -/
theorem activeIds_of_running {transfer : RunningTransfer}
    (found : manager.findTransfer id = some transfer)
    (running : transfer.info.state = .running) : id ∈ manager.activeIds := by
  obtain ⟨member, sameId⟩ := find_mem found
  exact mem_activeIds.mpr ⟨transfer, member, running ▸ rfl, sameId⟩

/-- A stopped row has no process. -/
theorem Stopped.process (stopped : manager.Stopped id) : ∀ transfer ∈ manager.transfers,
    transfer.info.id = id → transfer.process = false :=
  fun transfer member same => (stopped transfer member same).1

/-- A transfer that was to run fails, whether or not the counts were announced before. -/
theorem Books.keeps_failedToStart (books : before.Books handed) (stopped : before.Stopped id)
    {transfer : RunningTransfer} (found : before.findTransfer id = some transfer)
    (running : transfer.info.state = .running) :
    Keeps before (before.onErrorOccurred id true) handed := by
  unfold onErrorOccurred
  rw [found]
  dsimp only
  rw [if_neg (by simp [running]), if_pos rfl]
  exact books.keeps_end .failed (ends_failed books.distinct _)
    (activeIds_of_running found running) rfl (.inr stopped.process) rfl (.refl .refl)

/-- A failed start keeps the books. -/
theorem Books.keeps_onErrorOccurred (books : before.Books handed)
    (announced : before.CountAnnounced) (stopped : before.Stopped id) :
    Keeps before (before.onErrorOccurred id true) handed := by
  cases found : before.findTransfer id with
  | none =>
      rw [onErrorOccurred, found]
      exact books.keeps_steady announced (.refl .refl)
  | some transfer =>
      obtain ⟨member, sameId⟩ := find_mem found
      rcases (stopped transfer member sameId).2 with running | cancelled
      · exact books.keeps_failedToStart stopped found running
      · rw [onErrorOccurred, found]
        simp only [if_pos cancelled]
        exact books.keeps_steady announced (.refl .refl)

/-- The end of a process keeps the books. -/
theorem Books.keeps_onFinished (books : before.Books handed)
    (announced : before.CountAnnounced) (stopped : before.Stopped id) (crashed : Bool)
    (exitCode : Int) (remaining : Option String) :
    Keeps before (before.onFinished id crashed exitCode remaining) handed := by
  unfold onFinished
  cases found : before.findTransfer id with
  | none => exact books.keeps_steady announced (.refl .refl)
  | some transfer =>
      obtain ⟨member, sameId⟩ := find_mem found
      dsimp only
      by_cases cancelled : transfer.info.state = .cancelled
      · rw [if_pos cancelled]
        exact books.keeps_steady announced (.refl .refl)
      · have running := (stopped transfer member sameId).2.resolve_right cancelled
        have active := activeIds_of_running found running
        rw [if_neg cancelled]
        split
        · exact books.keeps_end .failed (ends_failed books.distinct _) active rfl
            (.inr stopped.process) rfl (.refl .refl)
        · refine books.keeps_end .completed (Rewrites.emitDataChanged ?_ id) active rfl
            (.inr stopped.process) rfl ⟨rfl, ⟨_, (List.map_id _).symm, fun _ _ => .refl _⟩, [],
              (List.append_nil _).symm, nofun⟩
          refine ends_trans rfl (ends_setState books.distinct id .completed) (fun distinct => ?_)
            books.distinct
          exact steady_updateTransfer distinct fun _ => ⟨rfl, .inl rfl, .inl⟩

/-- Steady rewrites may go before. -/
theorem Keeps.of_steady {middle : FileTransferManager} (rewrites : Rewrites Steady before middle)
    (keeps : Keeps middle after handed) : Keeps before after handed :=
  ⟨keeps.books, keeps.announced,
    fun id member => keeps.active id (activeIds_steady rewrites ▸ member),
    rewrites.emitted_prefix.trans keeps.emitted⟩

/-- Steady rewrites may go after what keeps the books. -/
theorem Keeps.then_steady {middle : FileTransferManager} (keeps : Keeps before middle handed)
    (rewrites : Rewrites Steady middle after) : Keeps before after handed :=
  ⟨keeps.books.steady rewrites, rewrites.countAnnounced keeps.announced,
    fun id member => (rewrites.ids fun _ _ steady => steady.sameId) ▸ keeps.active id member,
    keeps.emitted.trans rewrites.emitted_prefix⟩

/-- A signal of a process that runs. -/
theorem Books.keeps_onProcessEvent (books : before.Books handed)
    (announced : before.CountAnnounced) (running : before.processRunning id = true)
    (event : ProcessEvent) : Keeps before (before.onProcessEvent id event) handed := by
  have stop := steady_setProcess_false books.distinct id
  have stopped := books.stopped running
  cases event with
  | readyReadStandardError updates =>
      exact books.keeps_steady announced (steady_onProgress_all books.distinct updates)
  | errorOccurred failedToStart =>
      cases failedToStart with
      | true =>
          exact .of_steady stop ((books.steady stop).keeps_onErrorOccurred
            (stop.countAnnounced announced) stopped)
      | false =>
          have same : before.onProcessEvent id (.errorOccurred false) = before := by
            simp only [onProcessEvent, onErrorOccurred, Bool.false_eq_true, if_false]
            split
            · rfl
            · exact ite_self _
          rw [same]
          exact books.keeps_steady announced (.refl .refl)
  | finished crashed exitCode remaining =>
      exact .of_steady stop ((books.steady stop).keeps_onFinished (stop.countAnnounced announced)
        stopped crashed exitCode remaining)

/-! ## Operations -/

/-- The handlers leave a cancelled transfer alone. -/
theorem steady_deliver (distinct : manager.ids.Nodup)
    (cancelled : ∀ transfer ∈ manager.transfers, transfer.info.id = id →
      transfer.info.state = .cancelled) (event : ProcessEvent) :
    Rewrites Steady manager (manager.deliver id event) := by
  have stop := steady_setProcess_false distinct id
  have still : ∀ transfer, (manager.setProcess id false).findTransfer id = some transfer →
      transfer.info.state = .cancelled := by
    intro transfer found
    obtain ⟨member, sameId⟩ := find_mem found
    obtain ⟨original, listed, steady⟩ := stop.exists_of_mem member
    have state := cancelled original listed (steady.sameId.symm.trans sameId)
    exact (steady.same_state (by rw [state]; rfl)).trans state
  unfold deliver
  split
  · cases event with
    | readyReadStandardError updates => exact steady_onProgress_all distinct updates
    | errorOccurred failedToStart =>
        cases failedToStart with
        | true =>
            simp only [onProcessEvent, onErrorOccurred, if_true]
            cases found : (manager.setProcess id false).findTransfer id with
            | none => exact stop
            | some transfer =>
                simp only [if_pos (still transfer found)]
                exact stop
        | false =>
            simp only [onProcessEvent, onErrorOccurred, Bool.false_eq_true, if_false]
            split
            · exact .refl .refl
            · rw [ite_self]
              exact .refl .refl
    | finished crashed exitCode remaining =>
        simp only [onProcessEvent, onFinished]
        cases found : (manager.setProcess id false).findTransfer id with
        | none => exact stop
        | some transfer =>
            simp only [if_pos (still transfer found)]
            exact stop
  · exact .refl .refl

/-- What is delivered for a cancelled row is steady. -/
theorem steady_deliver_all (distinct : manager.ids.Nodup)
    (cancelled : ∀ transfer ∈ manager.transfers, transfer.info.id = id →
      transfer.info.state = .cancelled) (events : List ProcessEvent) :
    Rewrites Steady manager (events.foldl (·.deliver id ·) manager) := by
  induction events generalizing manager with
  | nil => exact .refl .refl
  | cons event rest inductionHypothesis =>
      have first := steady_deliver distinct cancelled event
      refine steady_trans first (fun distinct => inductionHypothesis distinct ?_) distinct
      intro transfer member same
      obtain ⟨original, listed, steady⟩ := first.exists_of_mem member
      have state := cancelled original listed (steady.sameId.symm.trans same)
      exact (steady.same_state (by rw [state]; rfl)).trans state

/-- A cancellation keeps the books. -/
theorem Books.keeps_cancelTransfer (books : before.Books handed)
    (announced : before.CountAnnounced) (waited : List ProcessEvent) :
    Keeps before (before.cancelTransfer id waited) handed := by
  unfold cancelTransfer
  cases found : before.findTransfer id with
  | none => exact books.keeps_steady announced (.refl .refl)
  | some transfer =>
      obtain ⟨member, sameId⟩ := find_mem found
      dsimp only
      cases active : transfer.info.state.active with
      | false =>
          simp only [Bool.not_false, if_true]
          exact books.keeps_steady announced (.refl .refl)
      | true =>
          simp only [Bool.not_true, Bool.false_eq_true, if_false]
          have cancels := ends_setState books.distinct id .cancelled
          have cancelled : ∀ later ∈ (before.setState id .cancelled).transfers,
              later.info.id = id → later.info.state = .cancelled := by
            intro later listed same
            obtain ⟨original, -, ends⟩ := cancels.exists_of_mem listed
            exact (ends.ends (ends.sameId.symm.trans same)).1
          refine books.keeps_end .cancelled (Rewrites.emitDataChanged ?_ id)
            (mem_activeIds.mpr ⟨transfer, member, active, sameId⟩) rfl (.inl rfl) rfl (.refl .refl)
          exact ends_trans rfl cancels (steady_deliver_all · cancelled waited) books.distinct

@[simp] theorem transfers_emitDataChanged :
    (manager.emitDataChanged id).transfers = manager.transfers := by
  unfold emitDataChanged
  split <;> rfl

/-- `startScpProcess` up to `QProcess::start`. -/
def launching (manager : FileTransferManager) (id : Nat) : FileTransferManager :=
  ((manager.setState id .running).emitDataChanged id).setProcess id true

/-- A launch is steady for an active row. -/
theorem steady_launching (distinct : manager.ids.Nodup)
    (active : ∀ transfer ∈ manager.transfers, transfer.info.id = id →
      transfer.info.state.active = true) :
    Rewrites Steady manager (manager.launching id) := by
  have running : ∀ later ∈ ((manager.setState id .running).emitDataChanged id).transfers,
      later.info.id = id → later.info.state = .running := by
    intro later listed same
    rw [transfers_emitDataChanged] at listed
    obtain ⟨original, -, ends⟩ := (ends_setState distinct id .running).exists_of_mem listed
    exact (ends.ends (ends.sameId.symm.trans same)).1
  have runs : Rewrites Steady manager (manager.setState id .running) :=
    rewrites_updateTransfer distinct
      (fun transfer member same => ⟨rfl, .inr ⟨active transfer member same, rfl⟩, .inl⟩)
      fun transfer _ => .refl transfer
  refine steady_trans (runs.emitDataChanged id) (fun distinct => ?_) distinct
  exact rewrites_updateTransfer distinct
    (fun transfer member same => ⟨rfl, .inl rfl, fun _ => .inr (running transfer member same)⟩)
    fun transfer _ => .refl transfer

/-- The launched row runs. -/
theorem launching_running (distinct : manager.ids.Nodup) {transfer : RunningTransfer}
    (member : transfer ∈ (manager.launching id).transfers) (same : transfer.info.id = id) :
    transfer.process = true ∧ transfer.info.state = .running := by
  have ends := (ends_setState distinct id .running).emitDataChanged id
  have still := (ends.ids fun _ _ ends => ends.sameId) ▸ distinct
  unfold launching setProcess at member
  rw [transfers_updateTransfer still] at member
  obtain ⟨original, listed, rfl⟩ := List.mem_map.mp member
  by_cases isId : original.info.id = id
  · rw [if_pos isId]
    obtain ⟨first, -, changes⟩ := ends.exists_of_mem listed
    exact ⟨rfl, (changes.ends (changes.sameId.symm.trans isId)).1⟩
  · rw [if_neg isId] at same
    exact absurd same isId

/-- The process of a transfer that was waiting starts. -/
theorem Books.keeps_launched (books : before.Books handed) (id : Nat)
    (waiting : ∀ transfer ∈ before.transfers, transfer.info.id = id →
      transfer.info.state.active = true) {previous : Nat}
    (changed : before.activeTransferCount ≠ previous) :
    Keeps (before.launching id)
      (((before.launching id).emit (.transferStarted id)).emitActiveCountIfChanged previous)
        handed := by
  have launch := steady_launching books.distinct waiting
  have launched := books.steady launch
  have started : Rewrites Steady (before.launching id)
      ((before.launching id).emit (.transferStarted id)) := (Rewrites.refl .refl).emit rfl
  have count : ((before.launching id).emit (.transferStarted id)).activeTransferCount =
      before.activeTransferCount := by
    rw [activeTransferCount_eq, activeTransferCount_eq, activeIds_steady started,
      activeIds_steady launch]
  have finish := steady_trans started
    (fun _ => emitActiveCountIfChanged_steady _ previous) launched.distinct
  refine ⟨launched.steady finish, announced_of_changed (count.trans_ne changed),
    fun id member => ?_, finish.emitted_prefix⟩
  exact (finish.ids fun _ _ steady => steady.sameId) ▸ activeIds_subset id member

/-- The process of a transfer that was waiting fails to start. -/
theorem Books.keeps_launch_failed (books : before.Books handed) {id : Nat}
    (waiting : ∀ transfer ∈ before.transfers, transfer.info.id = id →
      transfer.info.state.active = true) (isListed : id ∈ before.ids) (previous : Nat) :
    Keeps (before.launching id)
      ((((before.launching id).onProcessEvent id (.errorOccurred true)).emit
        (.transferStarted id)).emitActiveCountIfChanged previous) handed := by
  have launch := steady_launching books.distinct waiting
  have launched := books.steady launch
  have stop := steady_setProcess_false launched.distinct id
  have member : id ∈ (before.launching id).ids := by
    rwa [launch.ids fun _ _ steady => steady.sameId]
  obtain ⟨running, found⟩ := exists_find member
  obtain ⟨known, sameId⟩ := find_mem found
  have processes : (before.launching id).processRunning id = true := by
    rw [processRunning, found]
    exact (launching_running books.distinct known sameId).1
  rw [← stop.ids fun _ _ steady => steady.sameId] at member
  obtain ⟨failing, found⟩ := exists_find member
  obtain ⟨known, sameId⟩ := find_mem found
  have state : failing.info.state = .running := by
    obtain ⟨original, known, steady⟩ := stop.exists_of_mem known
    have before := (launching_running books.distinct known
      (steady.sameId.symm.trans sameId)).2
    exact steady.state.elim (·.trans before) (·.2)
  have failed := (launched.steady stop).keeps_failedToStart (launched.stopped processes) found state
  refine (failed.of_steady stop).then_steady (steady_trans ((Rewrites.refl .refl).emit rfl)
    (fun _ => emitActiveCountIfChanged_steady _ _) failed.books.distinct)

/-- A download or upload. The counts are announced also when the process fails at once:
then by the handler that runs inside the call. -/
theorem Books.keeps_enqueue (books : before.Books handed) {transfer : FileTransfer}
    (isNext : transfer.id = before.nextId) (queued : transfer.state = .queued)
    (failsAtOnce : Bool) :
    Keeps before (before.enqueue transfer failsAtOnce).1 (handed ++ [before.nextId]) := by
  have inserted := books.insert isNext queued
  unfold enqueue startScpProcess
  dsimp only
  generalize row : emit { before with
      nextId := before.nextId + 1
      transfers := before.transfers ++ [⟨transfer, false⟩] }
        (.rowsInserted before.transfers.length) = listed at inserted ⊢
  have transfers : listed.transfers = before.transfers ++ [⟨transfer, false⟩] := row ▸ rfl
  have emitted : before.emitted <+: listed.emitted := row ▸ List.prefix_append _ _
  have active : listed.activeIds = before.activeIds ++ [transfer.id] := by
    unfold activeIds keysWhere
    rw [transfers]
    simp [queued, FileTransferState.active]
  have isNew : ⟨transfer, false⟩ ∈ listed.transfers := transfers ▸ by simp
  have waiting : ∀ other ∈ listed.transfers, other.info.id = transfer.id →
      other.info.state.active = true := by
    intro other member same
    obtain rfl := eq_of_sameId inserted.distinct member isNew same
    exact queued ▸ rfl
  have launch := steady_launching inserted.distinct waiting
  have from_before : ∀ {after : FileTransferManager},
      Keeps (listed.launching transfer.id) after (handed ++ [before.nextId]) →
      Keeps before after (handed ++ [before.nextId]) := by
    intro after keeps
    refine ⟨keeps.books, keeps.announced, fun id member => keeps.active id ?_,
      emitted.trans (launch.emitted_prefix.trans keeps.emitted)⟩
    rw [activeIds_steady launch, active]
    exact List.mem_append_left _ member
  refine from_before ?_
  cases failsAtOnce with
  | false =>
      refine inserted.keeps_launched transfer.id waiting ?_
      rw [activeTransferCount_eq, activeTransferCount_eq, active, List.length_append]
      exact Nat.succ_ne_self _
  | true =>
      refine inserted.keeps_launch_failed waiting ?_ _
      exact List.mem_map_of_mem (f := fun transfer => transfer.info.id) isNew

/-! ## Removal -/

/-- Dropping inactive rows, each with its signal, keeps the books. -/
theorem Books.keeps_shrink (books : before.Books handed) (nextId : after.nextId = before.nextId)
    (fewer : after.transfers.Sublist before.transfers)
    (active : after.activeIds = before.activeIds) (rows : List Nat)
    (count : after.transfers.length + rows.length = before.transfers.length)
    (emitted : after.emitted =
      before.emitted ++ rows.map .rowsRemoved ++ [TransferSignal.transferCountChanged]) :
    Keeps before after handed := by
  obtain ⟨kept, announced⟩ := books.shrink nextId fewer active count emitted
  refine ⟨kept, announced, fun id member => activeIds_subset id (active ▸ member), ?_⟩
  rw [emitted, List.append_assoc]
  exact List.prefix_append _ _

/-- The timer's removal keeps the books. -/
theorem Books.keeps_removeTransfer (books : before.Books handed)
    (announced : before.CountAnnounced) (id : Nat) :
    Keeps before (before.removeTransfer id) handed := by
  unfold removeTransfer
  cases position : before.rowForTransfer id with
  | none => exact books.keeps_steady announced (.refl .refl)
  | some row =>
      cases found : before.findTransfer id with
      | none => exact books.keeps_steady announced (.refl .refl)
      | some transfer =>
          dsimp only
          cases active : transfer.info.state.active with
          | true =>
              simp only [if_true]
              exact books.keeps_steady announced (.refl .refl)
          | false =>
              simp only [Bool.false_eq_true, if_false]
              obtain ⟨within, atRow, -⟩ := List.findIdx?_eq_some_iff_getElem.mp position
              obtain ⟨member, sameId⟩ := find_mem found
              have isRow : before.transfers[row] = transfer :=
                eq_of_sameId books.distinct (List.getElem_mem within) member
                  ((of_decide_eq_true atRow).trans sameId.symm)
              refine books.keeps_shrink rfl (List.eraseIdx_sublist _ _)
                (keysWhere_eraseIdx within (isRow ▸ active)) [row] ?_ (by simp [emit])
              show (before.transfers.eraseIdx row).length + 1 = _
              rw [List.length_eraseIdx_of_lt within]
              omega

/-- The purge keeps the books. -/
theorem Books.keeps_purge (books : before.Books handed) (announced : before.CountAnnounced) :
    Keeps before before.purgeOldFinishedTransfers handed := by
  by_cases few : before.finishedCount ≤ 50
  · rw [purgeOldFinishedTransfers_of_few few]
    exact books.keeps_steady announced (.refl .refl)
  · obtain ⟨fewer, count⟩ := sublist_purgeFrom (before.finishedCount - 50) [] before.transfers
    have same := active_purgeFrom (before.finishedCount - 50) [] before.transfers
    rw [List.nil_append] at fewer count same
    rw [purgeOldFinishedTransfers_of_many few rfl]
    split
    · rename_i nothing
      have unchanged := fewer.eq_of_length (by simpa [nothing] using count)
      rw [nothing, unchanged]
      exact books.keeps_steady announced ⟨rfl, ⟨_, (List.map_id _).symm, fun _ _ => .refl _⟩, [],
        by simp, nofun⟩
    · exact books.keeps_shrink rfl fewer (congrArg (List.map _) same) _ count rfl

/-! ## Timers and the vector -/

/-- What leaves every slot of the vector filled, and adds a timer only for a transfer told
completed. -/
structure Schedules (before after : FileTransferManager) : Prop where
  faulted : after.faulted = before.faulted
  emitted : before.emitted <+: after.emitted
  removals : ∀ id ∈ after.removals, id ∈ before.removals ∨ (id, .completed) ∈ after.endings

/-- More signals keep the endings. -/
theorem endings_subset_of_emitted (told : before.emitted <+: after.emitted)
    {ending : Nat × FileTransferState} (member : ending ∈ before.endings) :
    ending ∈ after.endings :=
  (told.filterMap TransferSignal.ended).subset member

/-- Nothing was scheduled. -/
theorem Schedules.refl : Schedules manager manager := ⟨rfl, List.prefix_rfl, fun _ => .inl⟩

/-- What is scheduled in two parts. -/
theorem Schedules.trans {middle : FileTransferManager} (one : Schedules before middle)
    (two : Schedules middle after) : Schedules before after := by
  refine ⟨two.faulted.trans one.faulted, one.emitted.trans two.emitted, fun id member => ?_⟩
  rcases two.removals id member with earlier | told
  · exact (one.removals id earlier).imp_right (endings_subset_of_emitted two.emitted)
  · exact .inr told

/-- A signal schedules nothing. -/
theorem Schedules.emit (schedules : Schedules before after) (signal : TransferSignal) :
    Schedules before (after.emit signal) :=
  schedules.trans ⟨rfl, List.prefix_append _ _, fun _ => .inl⟩

/-- An update of a row schedules nothing. -/
theorem Schedules.updateTransfer (schedules : Schedules before after) (id : Nat)
    (write : RunningTransfer → RunningTransfer) :
    Schedules before (after.updateTransfer id write) := by
  unfold FileTransferManager.updateTransfer
  split
  · exact schedules.trans ⟨rfl, List.prefix_rfl, fun _ => .inl⟩
  · exact schedules

/-- Changed data schedule nothing. -/
theorem Schedules.emitDataChanged (schedules : Schedules before after) (id : Nat) :
    Schedules before (after.emitDataChanged id) := by
  unfold FileTransferManager.emitDataChanged
  split
  · exact schedules.emit _
  · exact schedules

/-- Announcing the count schedules nothing. -/
theorem Schedules.emitActiveCountIfChanged (schedules : Schedules before after)
    (previousCount : Nat) : Schedules before (after.emitActiveCountIfChanged previousCount) := by
  unfold FileTransferManager.emitActiveCountIfChanged
  split
  · exact schedules.emit _
  · exact schedules

/-- A timer for the transfer whose end was just told. -/
theorem Schedules.complete (schedules : Schedules before after) (id : Nat) :
    Schedules before { after.emit (.transferCompleted id) with
      removals := after.removals ++ [id] } := by
  refine schedules.trans ⟨rfl, List.prefix_append _ _, fun other member => ?_⟩
  rcases List.mem_append.mp member with earlier | new
  · exact .inl earlier
  · obtain rfl := List.mem_singleton.mp new
    refine .inr (List.mem_filterMap.mpr ⟨.transferCompleted other, ?_, rfl⟩)
    exact List.mem_append_right _ List.mem_cons_self

/-- Progress schedules nothing. -/
theorem schedules_onProgress (update : Int × Int) :
    Schedules manager (manager.onProgress id update) := by
  unfold onProgress
  split
  · exact .refl
  · exact ((Schedules.refl.updateTransfer id _).emitDataChanged id).emit _

/-- A completed transfer is scheduled with its ending. -/
theorem schedules_onFinished (crashed : Bool) (exitCode : Int) (remaining : Option String) :
    Schedules manager (manager.onFinished id crashed exitCode remaining) := by
  unfold onFinished
  split
  · exact .refl
  · dsimp only
    split
    · exact .refl
    · split
      · refine .emitActiveCountIfChanged (.emit (.emitDataChanged ?_ id) _) _
        exact .updateTransfer (.updateTransfer .refl id _) id _
      · refine .emitActiveCountIfChanged (.complete (.emitDataChanged ?_ id) id) _
        exact .updateTransfer (.updateTransfer .refl id _) id _

/-- A failed one is not scheduled. -/
theorem schedules_onErrorOccurred (failedToStart : Bool) :
    Schedules manager (manager.onErrorOccurred id failedToStart) := by
  unfold onErrorOccurred
  split
  · exact .refl
  · dsimp only
    split
    · exact .refl
    · split
      · refine .emitActiveCountIfChanged (.emit (.emitDataChanged ?_ id) _) _
        exact .updateTransfer (.updateTransfer .refl id _) id _
      · exact .refl

/-- Several lines schedule nothing. -/
theorem schedules_onProgress_all (updates : List (Int × Int)) :
    Schedules manager (updates.foldl (·.onProgress id ·) manager) := by
  induction updates generalizing manager with
  | nil => exact .refl
  | cons update rest inductionHypothesis =>
      exact (schedules_onProgress update).trans inductionHypothesis

/-- What a process does schedules completed transfers only. -/
theorem schedules_onProcessEvent (event : ProcessEvent) :
    Schedules manager (manager.onProcessEvent id event) := by
  cases event with
  | readyReadStandardError updates => exact schedules_onProgress_all updates
  | errorOccurred failedToStart =>
      refine Schedules.trans ?_ (schedules_onErrorOccurred failedToStart)
      split
      · exact .updateTransfer .refl id _
      · exact .refl
  | finished crashed exitCode remaining =>
      exact .trans (.updateTransfer .refl id _) (schedules_onFinished crashed exitCode remaining)

/-- What is delivered schedules completed transfers only. -/
theorem schedules_deliver (event : ProcessEvent) :
    Schedules manager (manager.deliver id event) := by
  unfold deliver
  split
  · exact schedules_onProcessEvent event
  · exact .refl

/-- Several deliveries schedule completed transfers only. -/
theorem schedules_deliver_all (events : List ProcessEvent) :
    Schedules manager (events.foldl (·.deliver id ·) manager) := by
  induction events generalizing manager with
  | nil => exact .refl
  | cons event rest inductionHypothesis =>
      exact (schedules_deliver event).trans inductionHypothesis

/-- A cancellation schedules completed transfers only. -/
theorem schedules_cancelTransfer (waited : List ProcessEvent) :
    Schedules manager (manager.cancelTransfer id waited) := by
  unfold cancelTransfer
  split
  · exact .refl
  · dsimp only
    split
    · exact .refl
    · refine .emitActiveCountIfChanged (.emit (.emitDataChanged ?_ id) _) _
      exact .trans (.updateTransfer .refl id _) (schedules_deliver_all waited)

/-- A new transfer schedules completed transfers only. -/
theorem schedules_enqueue (transfer : FileTransfer) (failsAtOnce : Bool) :
    Schedules manager (manager.enqueue transfer failsAtOnce).1 := by
  unfold enqueue startScpProcess
  refine .emitActiveCountIfChanged ?_ _
  have inserted : Schedules manager (emit { manager with
      nextId := manager.nextId + 1
      transfers := manager.transfers ++ [⟨transfer, false⟩] }
        (.rowsInserted manager.transfers.length)) :=
    ⟨rfl, List.prefix_append _ _, fun _ => .inl⟩
  have running := ((inserted.updateTransfer transfer.id fun waiting =>
    { waiting with info := { waiting.info with state := .running } }).emitDataChanged
      transfer.id).updateTransfer transfer.id fun launched => { launched with process := true }
  cases failsAtOnce with
  | false => exact running.emit _
  | true => exact (running.trans (schedules_onProcessEvent _)).emit _

/-- A removal of a transfer whose process has ended. -/
theorem schedules_removeTransfer
    (ended : ∀ transfer, manager.findTransfer id = some transfer → transfer.process = false) :
    Schedules manager (manager.removeTransfer id) := by
  unfold removeTransfer
  split
  · rename_i row transfer position found
    split
    · exact .refl
    · refine Schedules.emit (Schedules.emit ?_ _) _
      refine ⟨?_, List.prefix_rfl, fun _ => .inl⟩
      rw [eraseFaults_of_ended (ended transfer found), Bool.or_false]
  · exact .refl

/-- The purge schedules nothing. -/
theorem removals_purgeOldFinishedTransfers :
    manager.purgeOldFinishedTransfers.removals = manager.removals := by
  by_cases few : manager.finishedCount ≤ 50
  · rw [purgeOldFinishedTransfers_of_few few]
  · rw [purgeOldFinishedTransfers_of_many few rfl]

/-- A transfer that was told completed has no process any more. -/
theorem Books.process_of_completed (books : manager.Books handed)
    (told : (id, .completed) ∈ manager.endings) {transfer : RunningTransfer}
    (found : manager.findTransfer id = some transfer) : transfer.process = false := by
  obtain ⟨member, rfl⟩ := find_mem found
  have completed := books.state_eq member told
  cases process : transfer.process with
  | false => rfl
  | true =>
      rcases books.process transfer member process with running | cancelled
      · exact absurd (running.symm.trans completed) nofun
      · exact absurd (cancelled.symm.trans completed) nofun

end FileTransferManager

/-! ## Runs -/


/-- The ids a call returns. -/
def TransferEvent.returned (manager : FileTransferManager) : TransferEvent → List Nat
  | .download _ _ _ _ | .upload _ _ _ _ _ => [manager.nextId]
  | .settings _ | .cancelTransfer _ _ | .process _ _ | .removalTimer _ | .cleanupTimeout => []

/-- The transfers with the ids they were given. -/
structure TransferLedger where
  world : TransferWorld
  /-- History: the ids handed out so far. -/
  handed : List Nat

namespace TransferLedger

/-- No id was handed out. -/
def startup (settings : SettingsManager) : TransferLedger := ⟨.startup settings, []⟩

/-- The manager of the transfers. -/
def manager (ledger : TransferLedger) : FileTransferManager := ledger.world.manager

/-- One event, with the id it hands out. -/
def next (ledger : TransferLedger) (event : TransferEvent) : Option TransferLedger :=
  (ledger.world.next event).map fun world =>
    ⟨world, ledger.handed ++ event.returned ledger.manager⟩

/-- What holds after each call and each event. -/
structure Lawful (ledger : TransferLedger) : Prop where
  increasing : ledger.handed.Pairwise (· < ·)
  bounded : ∀ id ∈ ledger.handed, id ≤ ledger.handed.length
  endsOnce : (ledger.manager.endings.map Prod.fst).Nodup
  active : ∀ transfer ∈ ledger.manager.transfers, transfer.info.state.active = true →
    ∀ state, (transfer.info.id, state) ∉ ledger.manager.endings
  ended : ∀ transfer ∈ ledger.manager.transfers, transfer.info.state.active = false →
    (transfer.info.id, transfer.info.state) ∈ ledger.manager.endings
  removed : ∀ id ∈ ledger.handed, id ∉ ledger.manager.ids →
    ∃ state, (id, state) ∈ ledger.manager.endings
  rowCount : ledger.manager.transfers.length + ledger.manager.rowsRemoved =
    ledger.manager.rowsInserted
  activeCount : ledger.manager.activeTransferCount + ledger.manager.endings.length =
    ledger.manager.rowsInserted
  announced : ledger.manager.CountAnnounced

/-- A step lists what was active before it, and its own signals announce the counts after
each change of them. -/
structure StepLawful (ledger after : TransferLedger) : Prop where
  active : ∀ transfer ∈ ledger.manager.transfers, transfer.info.state.active = true →
    transfer.info.id ∈ after.manager.ids
  announced : ∃ signals, after.manager.emitted = ledger.manager.emitted ++ signals ∧
    Acknowledged TransferSignal.counts .transferCountChanged signals ∧
      (after.manager.transfers.length ≠ ledger.manager.transfers.length ∨
        after.manager.activeTransferCount ≠ ledger.manager.activeTransferCount →
          .transferCountChanged ∈ signals)

/-- The books are right, and timers run only for transfers told completed. -/
structure Accounted (ledger : TransferLedger) : Prop where
  books : ledger.manager.Books ledger.handed
  announced : ledger.manager.CountAnnounced
  scheduled : ∀ id ∈ ledger.manager.removals, (id, .completed) ∈ ledger.manager.endings

/-- No transfer a purge is to erase still has its process. -/
def ScpEnded (ledger : TransferLedger) : TransferEvent → Prop
  | .cleanupTimeout => ∀ transfer ∈ ledger.manager.overdue, transfer.process = false
  | .settings _ | .download _ _ _ _ | .upload _ _ _ _ _ | .cancelTransfer _ _ | .process _ _
  | .removalTimer _ => True

/-- No handler has come to an empty slot, and every transfer ends once, with its signal, and
keeps the state it ended in. -/
structure Sound (ledger : TransferLedger) : Prop where
  intact : ledger.manager.faulted = false
  lawful : ledger.Lawful
  steps : ∀ event after, ledger.next event = some after → ledger.StepLawful after
  ends : ∀ events after, Runs next ledger events after →
    ∀ transfer ∈ ledger.manager.transfers, transfer.info.state.active = false →
      ∀ same ∈ after.manager.transfers, same.info.id = transfer.info.id →
        same.info.state = transfer.info.state

variable {ledger after : TransferLedger}

/-- Every event keeps the books and the count announced. -/
theorem Accounted.keeps {event : TransferEvent} (accounted : ledger.Accounted)
    (taken : ledger.next event = some after) :
    ledger.manager.Keeps after.manager after.handed := by
  obtain ⟨books, announced, -⟩ := accounted
  have same : ∀ {manager : FileTransferManager},
      ledger.manager.Keeps manager ledger.handed →
        ledger.manager.Keeps manager (ledger.handed ++ []) := by
    intro manager keeps
    rwa [List.append_nil]
  obtain ⟨world, stepped, rfl⟩ := Option.map_eq_some_iff.mp taken
  cases event with
  | settings event =>
      obtain rfl := Option.some.inj stepped
      exact same (books.keeps_steady announced (.refl .refl))
  | download agentHostname remotePath localPath failsAtOnce =>
      obtain rfl := Option.some.inj stepped
      exact books.keeps_enqueue rfl rfl failsAtOnce
  | upload agentHostname localPath remotePath fileSize failsAtOnce =>
      obtain rfl := Option.some.inj stepped
      exact books.keeps_enqueue rfl rfl failsAtOnce
  | cancelTransfer id waited =>
      obtain rfl := Option.some.inj stepped
      exact same (books.keeps_cancelTransfer announced waited)
  | process id event =>
      obtain ⟨running, rfl⟩ := of_guarded stepped
      exact same (books.keeps_onProcessEvent announced running event)
  | removalTimer id =>
      obtain ⟨-, rfl⟩ := of_guarded stepped
      have expired : Rewrites Steady ledger.manager
          { ledger.manager with removals := ledger.manager.removals.erase id } :=
        ⟨rfl, ⟨_, (List.map_id _).symm, fun _ _ => .refl _⟩, [], (List.append_nil _).symm, nofun⟩
      exact same (((books.steady expired).keeps_removeTransfer (expired.countAnnounced announced)
        id).of_steady expired)
  | cleanupTimeout =>
      obtain rfl := Option.some.inj stepped
      exact same (books.keeps_purge announced)

/-- Every step but a purge leaves the vector filled. -/
theorem Accounted.schedules {event : TransferEvent} (accounted : ledger.Accounted)
    (walks : event ≠ .cleanupTimeout) (taken : ledger.next event = some after) :
    ledger.manager.Schedules after.manager := by
  obtain ⟨world, stepped, rfl⟩ := Option.map_eq_some_iff.mp taken
  cases event with
  | settings event =>
      obtain rfl := Option.some.inj stepped
      exact .refl
  | download agentHostname remotePath localPath failsAtOnce =>
      obtain rfl := Option.some.inj stepped
      exact FileTransferManager.schedules_enqueue _ failsAtOnce
  | upload agentHostname localPath remotePath fileSize failsAtOnce =>
      obtain rfl := Option.some.inj stepped
      exact FileTransferManager.schedules_enqueue _ failsAtOnce
  | cancelTransfer id waited =>
      obtain rfl := Option.some.inj stepped
      exact FileTransferManager.schedules_cancelTransfer waited
  | process id event =>
      obtain ⟨-, rfl⟩ := of_guarded stepped
      exact FileTransferManager.schedules_onProcessEvent event
  | removalTimer id =>
      obtain ⟨waiting, rfl⟩ := of_guarded stepped
      have expired : ledger.manager.Schedules
          { ledger.manager with removals := ledger.manager.removals.erase id } :=
        ⟨rfl, List.prefix_rfl, fun other member => .inl (List.mem_of_mem_erase member)⟩
      refine expired.trans (FileTransferManager.schedules_removeTransfer fun transfer found => ?_)
      exact accounted.books.process_of_completed (accounted.scheduled id waiting) found
  | cleanupTimeout => exact absurd rfl walks

/-- Every event schedules completed transfers only. -/
theorem Accounted.scheduled_next {event : TransferEvent} (accounted : ledger.Accounted)
    (taken : ledger.next event = some after) :
    ∀ id ∈ after.manager.removals, (id, .completed) ∈ after.manager.endings := by
  intro id member
  have told : (id, .completed) ∈ ledger.manager.endings →
      (id, .completed) ∈ after.manager.endings :=
    FileTransferManager.endings_subset_of_emitted (accounted.keeps taken).emitted
  by_cases purges : event = .cleanupTimeout
  · subst purges
    obtain rfl := Option.some.inj taken
    refine told (accounted.scheduled id ?_)
    exact FileTransferManager.removals_purgeOldFinishedTransfers ▸ member
  · rcases (accounted.schedules purges taken).removals id member with earlier | completed
    · exact told (accounted.scheduled id earlier)
    · exact completed

/-- Every event keeps the account. -/
theorem Accounted.step {event : TransferEvent} (accounted : ledger.Accounted)
    (taken : ledger.next event = some after) : after.Accounted :=
  ⟨(accounted.keeps taken).books, (accounted.keeps taken).announced,
    accounted.scheduled_next taken⟩

/-- A step comes to an empty slot exactly if it is a purge of a transfer whose process runs. -/
theorem Accounted.intact_next_iff {event : TransferEvent} (accounted : ledger.Accounted)
    (taken : ledger.next event = some after) :
    after.manager.faulted = false ↔ ledger.manager.faulted = false ∧ ledger.ScpEnded event := by
  by_cases purges : event = .cleanupTimeout
  · subst purges
    obtain rfl := Option.some.inj taken
    show ledger.manager.purgeOldFinishedTransfers.faulted = false ↔ _
    rw [FileTransferManager.faulted_purgeOldFinishedTransfers, Bool.or_eq_false_iff,
      List.any_eq_false]
    simp only [Bool.not_eq_true, ScpEnded]
  · have unasked : ledger.ScpEnded event := by
      cases event with
      | cleanupTimeout => exact absurd rfl purges
      | _ => trivial
    rw [(accounted.schedules purges taken).faulted, and_iff_left unasked]

/-- The account starts empty. -/
theorem accounted_startup (settings : SettingsManager) : (startup settings).Accounted :=
  ⟨⟨rfl, rfl, List.Sublist.refl _, List.Perm.refl _, nofun, nofun, rfl, rfl⟩, acknowledged_nil,
    nofun⟩

/-- Every run keeps the account. -/
theorem accounted_of_runs {start : TransferLedger} (accounted : start.Accounted)
    {events : List TransferEvent} (run : Runs next start events ledger) : ledger.Accounted :=
  run.invariant accounted fun _ _ _ held taken => held.step taken

/-- Active and ended transfers are all that were inserted. -/
theorem Accounted.activeCount (accounted : ledger.Accounted) :
    ledger.manager.activeTransferCount + ledger.manager.endings.length =
      ledger.manager.rowsInserted := by
  have count := accounted.books.accounted.length_eq
  rw [List.length_append, List.length_map] at count
  rw [FileTransferManager.activeTransferCount_eq, accounted.books.inserted]
  exact count

/-- An account that is kept is lawful. -/
theorem Accounted.lawful (accounted : ledger.Accounted) : ledger.Lawful := by
  have books := accounted.books
  refine ⟨?_, ?_, books.endsOnce, fun _ => books.not_ended, books.ended, ?_, books.removed,
    accounted.activeCount, accounted.announced⟩
  · rw [books.inOrder]
    exact List.pairwise_lt_range'
  · intro id member
    rw [books.inOrder] at member
    have range := List.mem_range'_1.mp member
    omega
  · intro id member unlisted
    rcases List.mem_append.mp (books.accounted.mem_iff.mpr member) with active | ended
    · exact absurd (FileTransferManager.activeIds_subset id active) unlisted
    · obtain ⟨⟨_, state⟩, told, rfl⟩ := List.mem_map.mp ended
      exact ⟨state, told⟩

/-- Every step of an account that is kept is lawful. -/
theorem Accounted.stepLawful {event : TransferEvent} (accounted : ledger.Accounted)
    (taken : ledger.next event = some after) : ledger.StepLawful after := by
  have keeps := accounted.keeps taken
  obtain ⟨signals, emitted⟩ := keeps.emitted
  have own : Acknowledged TransferSignal.counts .transferCountChanged signals := by
    intro earlier signal later split isChange
    refine keeps.announced (ledger.manager.emitted ++ earlier) signal later ?_ isChange
    rw [← emitted, split, List.append_assoc]
  refine ⟨fun transfer member active => ?_, signals, emitted.symm, own, fun changed => ?_⟩
  · exact keeps.active _ (FileTransferManager.mem_activeIds.mpr ⟨transfer, member, active, rfl⟩)
  · by_contra unannounced
    have silent : ∀ signal ∈ signals, signal.counts = false := by
      intro signal member
      by_contra isChange
      obtain ⟨earlier, later, split⟩ := List.append_of_mem member
      refine unannounced ?_
      rw [split]
      exact List.mem_append_right _ (List.mem_cons_of_mem _
        (own earlier signal later split ((Bool.not_eq_false _).mp isChange)))
    obtain ⟨endings, inserted, removed⟩ := Rewrites.told_of_silent emitted.symm silent
    have rows := accounted.books.removed
    have active := accounted.activeCount
    have rowsAfter := (accounted.step taken).books.removed
    have activeAfter := (accounted.step taken).activeCount
    rw [inserted, removed] at rowsAfter
    rw [inserted, endings] at activeAfter
    omega

/-- What was told stays told. -/
theorem endings_subset {events : List TransferEvent} (accounted : ledger.Accounted)
    (run : Runs next ledger events after) :
    ∀ ending ∈ ledger.manager.endings, ending ∈ after.manager.endings := by
  induction run with
  | refl => exact fun _ member => member
  | step prior taken inductionHypothesis =>
      obtain ⟨signals, emitted⟩ := ((accounted_of_runs accounted prior).keeps taken).emitted
      intro ending member
      unfold FileTransferManager.endings
      rw [← emitted, List.filterMap_append]
      exact List.mem_append_left _ (inductionHypothesis ending member)

/-- A state whose books are right is sound as long as the vector is filled. -/
theorem Accounted.sound_iff (accounted : ledger.Accounted) :
    ledger.Sound ↔ ledger.manager.faulted = false := by
  refine ⟨Sound.intact, fun intact => ⟨intact, accounted.lawful, fun event after taken =>
    accounted.stepLawful taken, ?_⟩⟩
  intro events after run transfer member finished same listed sameId
  have told := endings_subset accounted run _ (accounted.books.ended transfer member finished)
  exact (accounted_of_runs accounted run).books.state_eq listed (sameId ▸ told)

/-- A run is sound throughout exactly if no purge comes to a finished transfer beyond the
last 50 that still has its process. -/
theorem sound_iff_scpEnded (settings : SettingsManager) (events : List TransferEvent) :
    (∀ ledger, Visits next (startup settings) events ledger → ledger.Sound) ↔
      Conforms next ScpEnded (startup settings) events := by
  refine visits_iff_conforms Accounted Sound (fun _ _ _ held taken => held.step taken) ?_
    (accounted_startup settings) ((accounted_startup settings).sound_iff.mpr rfl) events
  intro ledger event after accounted sound taken
  rw [(accounted.step taken).sound_iff, accounted.intact_next_iff taken,
    and_iff_right sound.intact]

/-- A download is cancelled while its `scp` does not end, 50 others fail, and the cleanup
timer ticks. -/
theorem purge_of_running_scp_faults :
    ¬ ∀ ledger, Visits next (startup ⟨.parse none, fun _ => none⟩)
        ([.download "dev.coder" "/home/coder/a" "/home/u/a" false, .cancelTransfer 1 []] ++
          List.replicate 50 (.download "dev.coder" "/home/coder/b" "/home/u/b" true) ++
            [.cleanupTimeout]) ledger → ledger.Sound :=
  not_visits_of_replay (fun ledger => ledger.manager.faulted) (by decide +kernel)
    fun _ faulted sound => Bool.false_ne_true (sound.intact.symm.trans faulted)

end TransferLedger

end CoderDesktop.FileSync
