import CoderDesktop.FileSync.Endpoint
import Mathlib.Data.List.Basic

/-!
# The file-transfer manager

`FileTransferManager` with its `scp` processes, handlers and timers. The progress
updates read from a process, its end, and what happens while a call waits for it are
inputs. `emitted` collects the signals in order.
-/

namespace CoderDesktop.FileSync

/-- The states of a transfer. -/
inductive FileTransferState where
  | queued
  | running
  | completed
  | failed
  | cancelled
deriving DecidableEq, Repr

/-- Queued or running. -/
def FileTransferState.active : FileTransferState → Bool
  | .queued | .running => true
  | .completed | .failed | .cancelled => false

/-- A transfer as the list shows it. -/
structure FileTransfer where
  id : Nat
  agentHostname : String
  localPath : String
  remotePath : String
  isUpload : Bool
  bytesTransferred : Int
  bytesTotal : Int
  state : FileTransferState
  errorMessage : String
deriving DecidableEq, Repr

/-- A row with what is known of its process. -/
structure RunningTransfer where
  info : FileTransfer
  /-- There is a process and its state is not `NotRunning`. -/
  process : Bool
deriving DecidableEq, Repr

/-- A process as `startScpProcess` starts it. -/
structure ScpProcess where
  source : Endpoint
  destination : Endpoint
deriving DecidableEq, Repr

/-- The arguments of scp. -/
def ScpProcess.args (process : ScpProcess) : List String :=
  ["-o", "StrictHostKeyChecking=no", "-o", "UserKnownHostsFile=/dev/null", "-o",
    "LogLevel=ERROR", process.source.url, process.destination.url]

/-- The process of a transfer: the order of the operands is its direction. -/
def FileTransfer.scpProcess (transfer : FileTransfer) : ScpProcess :=
  let remoteSpec : Endpoint := .remotePath transfer.agentHostname transfer.remotePath
  if transfer.isUpload then ⟨.localPath transfer.localPath, remoteSpec⟩
  else ⟨remoteSpec, .localPath transfer.localPath⟩

/-- The signals of the manager and of its list model. -/
inductive TransferSignal where
  | rowsInserted (row : Nat)
  | rowsRemoved (row : Nat)
  | dataChanged (row : Nat)
  | transferStarted (id : Nat)
  | transferProgress (id : Nat) (bytesTransferred bytesTotal : Int)
  | transferCompleted (id : Nat)
  | transferFailed (id : Nat) (errorMessage : String)
  | transferCancelled (id : Nat)
  | transferCountChanged
deriving DecidableEq, Repr

/-- Signals of a transfer's `QProcess`. -/
inductive ProcessEvent where
  /-- The updates parsed from the output, as bytes transferred and in total. -/
  | readyReadStandardError (updates : List (Int × Int))
  | errorOccurred (failedToStart : Bool)
  /-- `remaining` is the trimmed rest of the error output, if there is any. -/
  | finished (crashed : Bool) (exitCode : Int) (remaining : Option String)
deriving DecidableEq, Repr

/-- `FileTransferManager`, with what it has emitted. -/
structure FileTransferManager where
  nextId : Nat
  transfers : List RunningTransfer
  /-- The transfers single-shot timers will remove. -/
  removals : List Nat
  emitted : List TransferSignal
  /-- A handler has dereferenced an empty slot of the vector. -/
  faulted : Bool
deriving DecidableEq, Repr

/-- The finished transfers the list keeps. -/
def kMaxFinishedTransfers : Nat := 50

namespace FileTransferManager

/-- There is no transfer, and ids start at 1. -/
def new : FileTransferManager := ⟨1, [], [], [], false⟩

/-- A signal is emitted. -/
def emit (manager : FileTransferManager) (signal : TransferSignal) : FileTransferManager :=
  { manager with emitted := manager.emitted ++ [signal] }

/-- Number of transfers in Queued or Running state. -/
def activeTransferCount (manager : FileTransferManager) : Nat :=
  manager.transfers.countP fun transfer => transfer.info.state.active

/-- The first row with an id. -/
def findTransfer (manager : FileTransferManager) (id : Nat) : Option RunningTransfer :=
  manager.transfers.find? fun transfer => transfer.info.id = id

/-- The index of the first row with an id. -/
def rowForTransfer (manager : FileTransferManager) (id : Nat) : Option Nat :=
  manager.transfers.findIdx? fun transfer => transfer.info.id = id

/-- Write through the pointer `findTransfer` returns. -/
def updateTransfer (manager : FileTransferManager) (id : Nat)
    (write : RunningTransfer → RunningTransfer) : FileTransferManager :=
  match manager.rowForTransfer id with
  | some row => { manager with transfers := manager.transfers.modify row write }
  | none => manager

/-- `dataChanged` for the row of a transfer, where it has one. -/
def emitDataChanged (manager : FileTransferManager) (id : Nat) : FileTransferManager :=
  match manager.rowForTransfer id with
  | some row => manager.emit (.dataChanged row)
  | none => manager

/-- A row's state is written. -/
def setState (manager : FileTransferManager) (id : Nat) (state : FileTransferState) :
    FileTransferManager :=
  manager.updateTransfer id fun transfer =>
    { transfer with info := { transfer.info with state } }

/-- A row's error text is written. -/
def setErrorMessage (manager : FileTransferManager) (id : Nat) (errorMessage : String) :
    FileTransferManager :=
  manager.updateTransfer id fun transfer =>
    { transfer with info := { transfer.info with errorMessage } }

/-- A row's process starts or ends. -/
def setProcess (manager : FileTransferManager) (id : Nat) (process : Bool) :
    FileTransferManager :=
  manager.updateTransfer id fun transfer => { transfer with process }

/-- `transferCountChanged` when the number of active rows is another. -/
def emitActiveCountIfChanged (manager : FileTransferManager) (previousCount : Nat) :
    FileTransferManager :=
  if manager.activeTransferCount ≠ previousCount then manager.emit .transferCountChanged
  else manager

/-! ## Handlers of process signals -/

/-- One update of `parseScpProgress`. -/
def onProgress (manager : FileTransferManager) (id : Nat) (update : Int × Int) :
    FileTransferManager :=
  match manager.findTransfer id with
  | none => manager
  | some _ =>
      ((manager.updateTransfer id fun transfer =>
          { transfer with
            info :=
              { transfer.info with bytesTransferred := update.1, bytesTotal := update.2 } }
        ).emitDataChanged id).emit (.transferProgress id update.1 update.2)

/-- The error text of a failed scp. -/
def scpFailure (exitCode : Int) (remaining : Option String) : String :=
  match remaining with
  | none => s!"scp exited with code {exitCode}"
  | some text => s!"scp exited with code {exitCode}: {text}"

/-- The handler of `finished`: a cancelled row stays cancelled. -/
def onFinished (manager : FileTransferManager) (id : Nat) (crashed : Bool) (exitCode : Int)
    (remaining : Option String) : FileTransferManager :=
  match manager.findTransfer id with
  | none => manager
  | some transfer =>
      let previousActive := manager.activeTransferCount
      if transfer.info.state = .cancelled then manager
      else if crashed ∨ exitCode ≠ 0 then
        let message := scpFailure exitCode remaining
        let failed := (manager.setState id .failed).setErrorMessage id message
        ((failed.emitDataChanged id).emit (.transferFailed id message)).emitActiveCountIfChanged
          previousActive
      else
        let completed := (manager.setState id .completed).updateTransfer id fun transfer =>
          { transfer with
            info := { transfer.info with bytesTransferred := transfer.info.bytesTotal } }
        let announced := (completed.emitDataChanged id).emit (.transferCompleted id)
        { announced with removals := announced.removals ++ [id] }.emitActiveCountIfChanged
          previousActive

/-- The handler of `errorOccurred`: only a failed start counts. -/
def onErrorOccurred (manager : FileTransferManager) (id : Nat) (failedToStart : Bool) :
    FileTransferManager :=
  match manager.findTransfer id with
  | none => manager
  | some transfer =>
      if transfer.info.state = .cancelled then manager
      else if failedToStart then
        let previousActive := manager.activeTransferCount
        let message := "Failed to start scp process"
        let failed := (manager.setState id .failed).setErrorMessage id message
        ((failed.emitDataChanged id).emit (.transferFailed id message)).emitActiveCountIfChanged
          previousActive
      else manager

/-- A process that failed to start or finished is not running when its handler runs. -/
def onProcessEvent (manager : FileTransferManager) (id : Nat) :
    ProcessEvent → FileTransferManager
  | .readyReadStandardError updates => updates.foldl (·.onProgress id ·) manager
  | .errorOccurred failedToStart =>
      (if failedToStart then manager.setProcess id false else manager).onErrorOccurred id
        failedToStart
  | .finished crashed exitCode remaining =>
      (manager.setProcess id false).onFinished id crashed exitCode remaining

/-- The row is there and its process runs. -/
def processRunning (manager : FileTransferManager) (id : Nat) : Bool :=
  (manager.findTransfer id).any RunningTransfer.process

/-- Deliver a signal of a process, as long as it is running. -/
def deliver (manager : FileTransferManager) (id : Nat) (event : ProcessEvent) :
    FileTransferManager :=
  if manager.processRunning id then manager.onProcessEvent id event else manager

/-! ## Operations -/

/-- The manager afterwards and the process that was started. A process that fails at
once does so inside `QProcess::start`. -/
def startScpProcess (manager : FileTransferManager) (transfer : FileTransfer)
    (failsAtOnce : Bool) : FileTransferManager × Option ScpProcess :=
  let id := transfer.id
  let running := ((manager.setState id .running).emitDataChanged id).setProcess id true
  if failsAtOnce then
    ((running.onProcessEvent id (.errorOccurred true)).emit (.transferStarted id), none)
  else (running.emit (.transferStarted id), some transfer.scpProcess)

/-- The common part of `download` and `upload`. -/
def enqueue (manager : FileTransferManager) (transfer : FileTransfer) (failsAtOnce : Bool) :
    FileTransferManager × Option ScpProcess :=
  let previousActive := manager.activeTransferCount
  let queued : FileTransferManager := { manager with
    nextId := manager.nextId + 1
    transfers := manager.transfers ++ [⟨transfer, false⟩] }
  let started := (queued.emit (.rowsInserted manager.transfers.length)).startScpProcess transfer
    failsAtOnce
  (started.1.emitActiveCountIfChanged previousActive, started.2)

/-- The transfer's id is `nextId`. -/
def download (manager : FileTransferManager) (agentHostname remotePath localPath : String)
    (failsAtOnce : Bool) : FileTransferManager × Option ScpProcess :=
  manager.enqueue
    { id := manager.nextId
      agentHostname, localPath, remotePath
      isUpload := false
      bytesTransferred := 0
      bytesTotal := 0
      state := .queued
      errorMessage := "" }
    failsAtOnce

/-- `fileSize` is the size of the local path if it is a file. -/
def upload (manager : FileTransferManager) (agentHostname localPath remotePath : String)
    (fileSize : Option Int) (failsAtOnce : Bool) : FileTransferManager × Option ScpProcess :=
  manager.enqueue
    { id := manager.nextId
      agentHostname, localPath, remotePath
      isUpload := true
      bytesTransferred := 0
      bytesTotal := fileSize.getD 0
      state := .queued
      errorMessage := "" }
    failsAtOnce

/-- `waited` are the signals of the process that arrive while the call waits for its
end. -/
def cancelTransfer (manager : FileTransferManager) (id : Nat) (waited : List ProcessEvent) :
    FileTransferManager :=
  match manager.findTransfer id with
  | none => manager
  | some transfer =>
      if !transfer.info.state.active then manager
      else
        let previousActive := manager.activeTransferCount
        let cancelled := waited.foldl (·.deliver id ·) (manager.setState id .cancelled)
        ((cancelled.emitDataChanged id).emit (.transferCancelled id)).emitActiveCountIfChanged
          previousActive

/-! ## Removal -/

/-- The vector while `erase` destroys the transfer behind `passed`. The next one has been moved
into its place and has left an empty slot; a last transfer has been cut off. -/
def erasing (passed : List RunningTransfer) :
    List RunningTransfer → List (Option RunningTransfer)
  | [] => passed.map some
  | moved :: rest => (passed ++ [moved]).map some ++ none :: rest.map some

/-- `findTransfer` in such a vector, or `none` if it comes to an empty slot. -/
def findSlot (id : Nat) : List (Option RunningTransfer) → Option (Option RunningTransfer)
  | [] => some none
  | none :: _ => none
  | some transfer :: rest =>
      if transfer.info.id = id then some (some transfer) else findSlot id rest

/-- `activeTransferCount` in such a vector, or `none` if it comes to an empty slot. -/
def countSlots : List (Option RunningTransfer) → Option Nat
  | [] => some 0
  | none :: _ => none
  | some transfer :: rest =>
      (countSlots rest).map fun count =>
        if transfer.info.state.active then count + 1 else count

/-- The handler of `finished` looks for its transfer and counts the active ones. -/
def finishedFaults (id : Nat) (slots : List (Option RunningTransfer)) : Bool :=
  match findSlot id slots with
  | none => true
  | some none => false
  | some (some _) => (countSlots slots).isNone

/-- The destructor of a process that still runs kills it and waits for its end, so `erase`
runs the handler of `finished`. -/
def eraseFaults (passed : List RunningTransfer) (transfer : RunningTransfer)
    (rest : List RunningTransfer) : Bool :=
  transfer.process && finishedFaults transfer.info.id (erasing passed rest)

/-- Remove a single finished transfer by id (no-op if still active). -/
def removeTransfer (manager : FileTransferManager) (id : Nat) : FileTransferManager :=
  match manager.rowForTransfer id, manager.findTransfer id with
  | some row, some transfer =>
      if transfer.info.state.active then manager
      else
        let faults := eraseFaults (manager.transfers.take row) transfer
          (manager.transfers.drop (row + 1))
        ({ manager with
            transfers := manager.transfers.eraseIdx row
            faulted := manager.faulted || faults }.emit
          (.rowsRemoved row)).emit .transferCountChanged
  | _, _ => manager

/-- What the second loop of `purgeOldFinishedTransfers` leaves. -/
structure Purge where
  transfers : List RunningTransfer
  rows : List Nat
  faulted : Bool
deriving DecidableEq, Repr

/-- The second loop of `purgeOldFinishedTransfers`; `passed` are the transfers in front of its
iterator. What follows a fault is not the program's any more. -/
def purgeFrom (toRemove : Nat) (passed : List RunningTransfer) : List RunningTransfer → Purge
  | [] => ⟨passed, [], false⟩
  | transfer :: rest =>
      if toRemove = 0 then ⟨passed ++ transfer :: rest, [], false⟩
      else if transfer.info.state.active then purgeFrom toRemove (passed ++ [transfer]) rest
      else
        let purged := purgeFrom (toRemove - 1) passed rest
        { purged with
          rows := passed.length :: purged.rows
          faulted := eraseFaults passed transfer rest || purged.faulted }

/-- The rows that are neither queued nor running. -/
def finishedCount (manager : FileTransferManager) : Nat :=
  manager.transfers.countP fun transfer => !transfer.info.state.active

/-- `purgeOldFinishedTransfers`: finished rows above the limit go, first rows first. -/
def purgeOldFinishedTransfers (manager : FileTransferManager) : FileTransferManager :=
  if manager.finishedCount ≤ kMaxFinishedTransfers then manager
  else
    let purged :=
      purgeFrom (manager.finishedCount - kMaxFinishedTransfers) [] manager.transfers
    let removed :=
      { manager with
        transfers := purged.transfers
        emitted := manager.emitted ++ purged.rows.map .rowsRemoved
        faulted := manager.faulted || purged.faulted }
    if purged.rows ≠ [] then removed.emit .transferCountChanged else removed

end FileTransferManager
end CoderDesktop.FileSync
