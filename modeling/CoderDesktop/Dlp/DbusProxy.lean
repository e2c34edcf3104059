import CoderDesktop.Dlp.SandboxLauncher

/-!
# D-Bus proxies and what they hold

`coder_dlp_launch_app`, `dlp_reap_dbus_proxies` and `dlp_cleanup_dbus_proxies` by what
they acquire and release: a process, the ends of a pipe, a directory and the socket in
it. The kernel never gives the number of a process or descriptor twice, so that a
number stands for what it was given for.
-/

namespace CoderDesktop.Dlp

/-- `struct dlp_dbus_proxy` -/
structure DbusProxy where
  pid : Int
  pipeWriteFd : Int
  socketPath : String
  dirPath : String
deriving DecidableEq, Repr

/-- The entry before its proxy is started. -/
def DbusProxy.unstarted : DbusProxy := ⟨-1, -1, "", ""⟩

/-- System calls on the proxies; `wait` is one that collected the process. -/
inductive ProxyCall where
  | close (fd : Int)
  | kill (pid : Int)
  | wait (pid : Int)
deriving DecidableEq, Repr

/-- What is left when the compositor does nothing more. -/
@[ext] structure Resources where
  /-- Proxies that were not waited for. -/
  processes : List Int
  descriptors : List Int
  directories : List String
  sockets : List String
  /-- Launched applications, which belong to the caller. -/
  apps : List Int
deriving DecidableEq, Repr

/-- What the system holds for the compositor's process, and what it was asked. -/
structure Kernel extends Resources where
  /-- The next number for a process or a descriptor. -/
  fresh : Nat
  /-- Processes that exited by themselves. -/
  exited : List Int
  calls : List ProxyCall
  /-- Every proxy process there was, as its entry described it. -/
  started : List DbusProxy
deriving DecidableEq, Repr

/-- The directory `mkdtemp` makes of the template. -/
def tempDir (suffix : String) : String :=
  snprintf 256 ("/tmp/coder-dlp-dbus-" ++ suffix)

/-- The socket in a proxy's directory, cut off as its buffer has it. -/
def busSocket (dirPath : String) : String :=
  snprintf 256 (dirPath ++ "/bus")

namespace Kernel

/-- Numbers start at 1: 0 is not a process of the compositor's. -/
def new : Kernel := ⟨⟨[], [], [], [], []⟩, 1, [], [], []⟩

variable (kernel : Kernel)

/-- The directory exists from now on. -/
def mkdtemp (dirPath : String) : Kernel :=
  { kernel with directories := dirPath :: kernel.directories }

/-- The read end is `fresh`, the write end the number after it. -/
def pipe2 : Kernel :=
  { kernel with
    descriptors := (kernel.fresh : Int) :: (kernel.fresh + 1 : Int) :: kernel.descriptors
    fresh := kernel.fresh + 2 }

/-- The descriptor is gone. -/
def close (fd : Int) : Kernel :=
  { kernel with
    descriptors := kernel.descriptors.filter (· ≠ fd)
    calls := kernel.calls ++ [.close fd] }

/-- The process of a proxy, whose entry gets the number `fresh`. -/
def forkProxy (proxy : DbusProxy) : Kernel :=
  { kernel with
    processes := (kernel.fresh : Int) :: kernel.processes
    started := { proxy with pid := kernel.fresh } :: kernel.started
    fresh := kernel.fresh + 1 }

/-- A process for the application. -/
def forkApp : Kernel :=
  { kernel with
    apps := (kernel.fresh : Int) :: kernel.apps
    fresh := kernel.fresh + 1 }

/-- The proxy makes its socket. -/
def bindSocket (path : String) : Kernel :=
  { kernel with sockets := path :: kernel.sockets }

/-- The process has exited and can be waited for. -/
def exit (pid : Int) : Kernel :=
  { kernel with exited := pid :: kernel.exited }

/-- The process is sent a signal. -/
def kill (pid : Int) : Kernel :=
  { kernel with calls := kernel.calls ++ [.kill pid] }

/-- The process was waited for. -/
def collect (pid : Int) : Kernel :=
  { kernel with
    processes := kernel.processes.filter (· ≠ pid)
    exited := kernel.exited.filter (· ≠ pid)
    calls := kernel.calls ++ [.wait pid] }

/-- `waitpid(pid, NULL, 0)`, after which the process is gone; it fails for another's. -/
def waitpid (pid : Int) : Kernel :=
  if pid ∈ kernel.processes then kernel.collect pid else kernel

/-- `waitpid(pid, &status, WNOHANG)` and its result. -/
def waitpidNoHang (pid : Int) : Int × Kernel :=
  if pid ∉ kernel.processes then (-1, kernel)
  else if pid ∈ kernel.exited then (pid, kernel.collect pid)
  else (0, kernel)

/-- The socket is gone, if it was there. -/
def unlink (path : String) : Kernel :=
  { kernel with sockets := kernel.sockets.filter (· ≠ path) }

/-- It fails while the socket is in the directory. -/
def rmdir (dirPath : String) : Kernel :=
  if busSocket dirPath ∈ kernel.sockets then kernel
  else { kernel with directories := kernel.directories.filter (· ≠ dirPath) }

end Kernel

/-- How the calls of a launch end. -/
structure LaunchCalls where
  proxy : ProxyStart
  /-- A socket that was waited for in vain appears all the same. -/
  socketLate : Bool
  /-- `dlp_build_bwrap_args` gets its memory. -/
  argv : Bool
  fork : Bool
  realloc : Bool
deriving DecidableEq, Repr

/-- The compositor's array of proxies and its capacity. -/
structure ProxyTable where
  proxies : List DbusProxy
  capacity : Nat
deriving DecidableEq, Repr

namespace Kernel

variable (kernel : Kernel)

/-- Remove the socket and the directory of an entry that has them. -/
def removeFiles (proxy : DbusProxy) : Kernel :=
  let unlinked := if proxy.socketPath ≠ "" then kernel.unlink proxy.socketPath else kernel
  if proxy.dirPath ≠ "" then unlinked.rmdir proxy.dirPath else unlinked

/-- The parent after the fork: close the read end, wait for the socket. -/
def awaitSocket (readFd : Int) (proxy : DbusProxy) (outcome : LaunchCalls) :
    Kernel × DbusProxy × Bool :=
  let closed := kernel.close readFd
  let bound :=
    if outcome.proxy.socketReady ∨ outcome.socketLate then closed.bindSocket proxy.socketPath
    else closed
  if outcome.proxy.socketReady then (bound, proxy, true)
  else
    (((((bound.kill proxy.pid).waitpid proxy.pid).close proxy.pipeWriteFd).unlink
        proxy.socketPath).rmdir proxy.dirPath,
      { proxy with pid := 0, pipeWriteFd := -1 }, false)

/-- `dlp_start_dbus_proxy`: the entry as it is left, and whether 0 is returned. -/
def dlpStartDbusProxy (host : Host) (outcome : LaunchCalls) : Kernel × DbusProxy × Bool :=
  match host.getenv "DBUS_SESSION_BUS_ADDRESS" with
  | none => (kernel, .unstarted, false)
  | some _ =>
      if ¬ findInPath host "xdg-dbus-proxy" then (kernel, .unstarted, false)
      else
        match outcome.proxy.mkdtemp with
        | none => (kernel, { DbusProxy.unstarted with dirPath := tempDir "XXXXXX" }, false)
        | some suffix =>
            let dirPath := tempDir suffix
            let proxy : DbusProxy := ⟨-1, -1, busSocket dirPath, dirPath⟩
            let made := kernel.mkdtemp dirPath
            if ¬ outcome.proxy.pipe then (made, proxy, false)
            else
              let readFd : Int := made.fresh
              let writeFd : Int := made.fresh + 1
              let piped := made.pipe2
              if ¬ outcome.proxy.fork then ((piped.close readFd).close writeFd, proxy, false)
              else
                let proxy := { proxy with pid := piped.fresh, pipeWriteFd := writeFd }
                (piped.forkProxy proxy).awaitSocket readFd proxy outcome

/-- What a launch does in three places with a proxy it cannot keep. -/
def discard (proxy : DbusProxy) : Kernel :=
  let waited := ((kernel.close proxy.pipeWriteFd).kill proxy.pid).waitpid proxy.pid
  let unlinked := waited.unlink proxy.socketPath
  if proxy.dirPath ≠ "" then unlinked.rmdir proxy.dirPath else unlinked

/-- Append the proxy, growing the array if it is full. -/
def track (table : ProxyTable) (proxy : DbusProxy) (realloc : Bool) : Kernel × ProxyTable :=
  let grown :=
    if table.proxies.length ≥ table.capacity then
      if realloc then
        (kernel, { table with
          capacity := if table.capacity ≠ 0 then table.capacity * 2 else 4 })
      else (kernel.discard proxy, table)
    else (kernel, table)
  if grown.2.proxies.length < grown.2.capacity then
    (grown.1, { grown.2 with proxies := grown.2.proxies ++ [proxy] })
  else grown

/-- What a launch leaves: the application's process, or `none` for the -1 return. -/
structure Launched where
  kernel : Kernel
  table : ProxyTable
  app : Option Int
  /-- A proxy was wanted and could not be started. -/
  proxyFailed : Bool
deriving DecidableEq, Repr

/-- The launch once the proxy was tried: the argument vector, the fork, the table. -/
def launchWith (table : ProxyTable) (proxy : DbusProxy) (proxyFailed : Bool)
    (outcome : LaunchCalls) : Launched :=
  if ¬ (outcome.argv ∧ outcome.fork) then
    ⟨if proxy.pid > 0 then kernel.discard proxy else kernel, table, none, proxyFailed⟩
  else
    let forked := kernel.forkApp
    let tracked :=
      if proxy.pid > 0 then forked.track table proxy outcome.realloc else (forked, table)
    ⟨tracked.1, tracked.2, some kernel.fresh, proxyFailed⟩

/-- With a filtered bus a proxy is started first. -/
def coderDlpLaunchApp (table : ProxyTable) (host : Host) (sandbox : Option SandboxConfig)
    (outcome : LaunchCalls) : Launched :=
  if sandbox.any (·.filterDbus) then
    let start := kernel.dlpStartDbusProxy host outcome
    start.1.launchWith table start.2.1 (!start.2.2) outcome
  else kernel.launchWith table .unstarted false outcome

/-- One entry of `dlp_reap_dbus_proxies`. -/
def reapProxy (proxy : DbusProxy) : Kernel × DbusProxy :=
  if proxy.pid ≤ 0 then (kernel, proxy)
  else
    let waited := kernel.waitpidNoHang proxy.pid
    if waited.1 > 0 then
      let closed :=
        if proxy.pipeWriteFd ≥ 0 then
          (waited.2.close proxy.pipeWriteFd, { proxy with pipeWriteFd := -1 })
        else (waited.2, proxy)
      (closed.1.removeFiles proxy, { closed.2 with pid := 0 })
    else (waited.2, proxy)

/-- Every proxy is looked at once. -/
def dlpReapDbusProxies (kernel : Kernel) : List DbusProxy → Kernel × List DbusProxy
  | [] => (kernel, [])
  | proxy :: rest =>
      let reaped := kernel.reapProxy proxy
      let others := reaped.1.dlpReapDbusProxies rest
      (others.1, reaped.2 :: others.2)

/-- One entry of `dlp_cleanup_dbus_proxies`; a proxy may exit at the end of its pipe
before it is asked. -/
def cleanupProxy (exits : Int → Bool) (proxy : DbusProxy) : Kernel :=
  if proxy.pid = 0 then kernel
  else
    let closed :=
      if proxy.pipeWriteFd ≥ 0 then kernel.close proxy.pipeWriteFd else kernel
    let ended := if exits proxy.pid then closed.exit proxy.pid else closed
    let gone :=
      if proxy.pid > 0 then
        let waited := ended.waitpidNoHang proxy.pid
        if waited.1 = 0 then (waited.2.kill proxy.pid).waitpid proxy.pid else waited.2
      else ended
    gone.removeFiles proxy

/-- Every proxy is stopped, in order. -/
def dlpCleanupDbusProxies (kernel : Kernel) (exits : Int → Bool) : List DbusProxy → Kernel
  | [] => kernel
  | proxy :: rest => (kernel.cleanupProxy exits proxy).dlpCleanupDbusProxies exits rest

end Kernel

end CoderDesktop.Dlp
