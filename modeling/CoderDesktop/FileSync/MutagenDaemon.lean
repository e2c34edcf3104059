/-!
# The Mutagen daemon

`MutagenDaemon`, as far as `FileSyncManager` uses it. A process that is killed is
taken to end.
-/

namespace CoderDesktop.FileSync

/-- The daemon's binary and its process. -/
structure MutagenDaemon where
  /-- Empty when no binary was found. -/
  binaryPath : String
  /-- There is a process and its state is not `NotRunning`. -/
  running : Bool
deriving DecidableEq, Repr

namespace MutagenDaemon

/-- There is no process. -/
def new (binaryPath : String) : MutagenDaemon := ⟨binaryPath, false⟩

/-- The daemon's process runs. -/
def isRunning (daemon : MutagenDaemon) : Bool := daemon.running

/-- The daemon afterwards and the result; `started` tells whether a process that is
started comes up in time. -/
def start (daemon : MutagenDaemon) (started : Bool) : MutagenDaemon × Bool :=
  if daemon.running then (daemon, true)
  else if daemon.binaryPath = "" then (daemon, false)
  else if started then ({ daemon with running := true }, true)
  else (daemon, false)

/-- Whether it goes gracefully or has to be killed, the process ends. -/
def stop (daemon : MutagenDaemon) : MutagenDaemon :=
  if !daemon.running then daemon else { daemon with running := false }

/-- The process exits on its own. -/
def onProcessFinished (daemon : MutagenDaemon) : MutagenDaemon := { daemon with running := false }

end MutagenDaemon
end CoderDesktop.FileSync
