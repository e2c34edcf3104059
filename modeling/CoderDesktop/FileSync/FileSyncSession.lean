import CoderDesktop.Settings.Variant

/-!
# Sync sessions as the UI lists them

`FileSyncSession`, the parser of `mutagen sync list` and the summary shown in the
tray.
-/

namespace CoderDesktop.FileSync

open Settings

/-- The states of a session that Mutagen reports. -/
inductive FileSyncStatus where
  | unknown
  | connectingAlpha
  | connectingBeta
  | scanning
  | reconciling
  | stagingAlpha
  | stagingBeta
  | transitioning
  | saving
  | watching
  | disconnected
  | haltedOnRootEmptied
  | haltedOnRootDeletion
  | haltedOnRootTypeChange
  | waitingForRescan
  | paused
deriving DecidableEq, Repr

/-- The directions in which a session copies. -/
inductive FileSyncMode where
  | twoWay
  | oneWayLocalToRemote
  | oneWayRemoteToLocal
deriving DecidableEq, Repr

/-- A session as the application lists it. -/
structure FileSyncSession where
  sessionId : String
  localPath : String
  workspace : String
  remotePath : String
  status : FileSyncStatus
  mode : FileSyncMode
  sizeBytes : Int
  conflictCount : Nat
  paused : Bool
  lastError : String
deriving DecidableEq, Repr

/-- The category the status is shown as. -/
def FileSyncSession.statusCategory (session : FileSyncSession) : String :=
  match session.status with
  | .watching => "ok"
  | .connectingAlpha | .connectingBeta | .scanning | .reconciling | .stagingAlpha
  | .stagingBeta | .transitioning | .saving => "working"
  | .disconnected | .haltedOnRootEmptied | .haltedOnRootDeletion | .haltedOnRootTypeChange
  | .waitingForRescan => "error"
  | .paused => "paused"
  | .unknown => "error"

/-- The status names Mutagen prints. -/
def statusNames : List (String × FileSyncStatus) :=
  [("connectingAlpha", .connectingAlpha),
    ("connectingBeta", .connectingBeta),
    ("scanning", .scanning),
    ("reconciling", .reconciling),
    ("stagingAlpha", .stagingAlpha),
    ("stagingBeta", .stagingBeta),
    ("transitioning", .transitioning),
    ("saving", .saving),
    ("watching", .watching),
    ("disconnected", .disconnected),
    ("haltedOnRootEmptied", .haltedOnRootEmptied),
    ("haltedOnRootDeletion", .haltedOnRootDeletion),
    ("haltedOnRootTypeChange", .haltedOnRootTypeChange),
    ("waitingForRescan", .waitingForRescan),
    ("paused", .paused)]

/-- The status of a name Mutagen uses, `unknown` for any other. -/
def parseStatus (statusStr : String) : FileSyncStatus :=
  (statusNames.lookup statusStr).getD .unknown

/-- One element of the list Mutagen prints. -/
def parseSession (val : Json) : FileSyncSession :=
  let obj := val.toObject
  let alpha := (Json.value obj "alpha").toObject
  let beta := (Json.value obj "beta").toObject
  let paused := (Json.value obj "paused").toBool
  { sessionId := (Json.value obj "identifier").toText
    localPath := (Json.value alpha "path").toText
    workspace := (Json.value beta "host").toText
    remotePath := (Json.value beta "path").toText
    status := if paused then .paused else parseStatus (Json.value obj "status").toText
    mode := .twoWay
    sizeBytes := (Json.value obj "sizeBytes").toInteger
    conflictCount := (Json.value obj "conflicts").toArray.length
    paused := paused
    lastError := (Json.value obj "lastError").toText }

/-- `parseSessionList`, for output that was read as a JSON document. Output that is
none is given as `null`. -/
def parseSessionList : Json → List FileSyncSession
  | .array sessions => sessions.map parseSession
  | .object entries => (Json.value entries "sessions").toArray.map parseSession
  | .null | .bool _ | .number _ | .string _ => []

/-- The number of sessions, and whether any failed or all are in sync. -/
def statusSummary (sessions : List FileSyncSession) : String :=
  let count := sessions.length
  if count = 0 then "No sync sessions"
  else
    let noun := if count = 1 then "session" else "sessions"
    let state :=
      if sessions.any fun session => session.statusCategory = "error" then "(error)"
      else if sessions.all fun session => session.statusCategory = "ok" then "(synced)"
      else "(syncing)"
    s!"{count} {noun} {state}"

end CoderDesktop.FileSync
