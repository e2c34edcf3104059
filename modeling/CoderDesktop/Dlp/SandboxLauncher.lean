import CoderDesktop.Sandbox.Bubblewrap

/-!
# The sandbox launcher

The argument vector `coder_dlp_launch_app` executes. A C string is a `String` with
one character for each byte, a pointer that may be NULL an `Option`. The result of
every system call is an input. `dlpBuildBwrapArgs` pushes its arguments in the
order of the source; running out of memory, where the source returns NULL, is
left out.
-/

namespace CoderDesktop.Dlp

/-- `PATH_MAX`. -/
def pathMax : Nat := 4096

/-- What `snprintf` leaves in a buffer of `size` bytes. -/
def snprintf (size : Nat) (text : String) : String :=
  String.ofList (text.toList.take (size - 1))

/-- A text is not cut exactly when it fits with its end. -/
theorem snprintf_eq_self_iff {size : Nat} {text : String} :
    snprintf size text = text ↔ text.toList.length ≤ size - 1 := by
  rw [← String.toList_inj, snprintf, String.toList_ofList, List.take_eq_self_iff]

/-- What is written fits with its end. -/
theorem length_snprintf_le (size : Nat) (text : String) :
    (snprintf size text).toList.length ≤ size - 1 := by
  rw [snprintf, String.toList_ofList, List.length_take]
  exact Nat.min_le_left _ _

/-- What the launcher asks the host. -/
structure Host where
  getenv : String → Option String
  /-- `access(path, F_OK) == 0` -/
  exists_ : String → Bool
  /-- `access(path, X_OK) == 0` -/
  executable : String → Bool

/-- `coder_dlp_sandbox_config`; `extraBindPaths` has `extra_bind_count` entries. -/
structure SandboxConfig where
  workspacePath : Option String
  networkNamespace : Option String
  isolatePid : Bool
  isolateIpc : Bool
  isolateFilesystem : Bool
  bindHomeRw : Bool
  extraBindPaths : Option (List (Option String))
  filterDbus : Bool
deriving DecidableEq, Repr

/-- The fields of `coder_dlp_compositor` the launcher reads. -/
structure LaunchContext where
  socket : Option String
  /-- `coder_dlp_get_xwayland_display` -/
  xwaylandDisplay : Option String
deriving DecidableEq, Repr

/-! ## Paths the launcher formats -/

/-- `socket_path`, cut to `PATH_MAX`. -/
def socketPath (xdgRuntime socket : String) : String :=
  snprintf pathMax (xdgRuntime ++ "/" ++ socket)

/-- `lock_path`, cut to `PATH_MAX`. -/
def lockPath (xdgRuntime socket : String) : String :=
  snprintf pathMax (xdgRuntime ++ "/" ++ socket ++ ".lock")

/-- `dbus_path`, cut to `PATH_MAX`. -/
def dbusPath (xdgRuntime : String) : String :=
  snprintf pathMax (xdgRuntime ++ "/bus")

/-- `dbus_addr`, cut to `PATH_MAX + 32`. -/
def dbusAddr (xdgRuntime : String) : String :=
  snprintf (pathMax + 32) ("unix:path=" ++ dbusPath xdgRuntime)

/-- The display without its leading colon. -/
def displayNum (display : String) : String :=
  match display.toList with
  | ':' :: number => String.ofList number
  | _ => display

/-- The X11 socket of a display. -/
def x11Socket (display : String) : String :=
  snprintf pathMax ("/tmp/.X11-unix/X" ++ displayNum display)

/-! ## `dlp_build_bwrap_args` -/

/-- The root file system, and `$HOME` when it is isolated. -/
def rootArgs (host : Host) (sandbox : Option SandboxConfig) : List String :=
  match sandbox with
  | some config =>
      if config.isolateFilesystem then
        ["--ro-bind", "/", "/", "--dev", "/dev", "--dev-bind", "/dev/dri", "/dev/dri",
          "--bind", "/dev/shm", "/dev/shm", "--proc", "/proc", "--tmpfs", "/tmp"] ++
        match host.getenv "HOME" with
        | some home => if config.bindHomeRw then ["--bind", home, home] else ["--tmpfs", home]
        | none => []
      else
        nonIsolated
  | none => nonIsolated
where
  nonIsolated : List String :=
    ["--bind", "/", "/", "--dev", "/dev", "--dev-bind", "/dev/dri", "/dev/dri",
      "--bind", "/dev/shm", "/dev/shm", "--proc", "/proc", "--tmpfs", "/tmp"]

/-- `XDG_RUNTIME_DIR` as a tmpfs with the compositor's socket and lock file. -/
def runtimeArgs (comp : LaunchContext) : Option String → List String
  | some xdgRuntime =>
      ["--tmpfs", xdgRuntime] ++
      match comp.socket with
      | some socket =>
          ["--bind", socketPath xdgRuntime socket, socketPath xdgRuntime socket,
            "--ro-bind", lockPath xdgRuntime socket, lockPath xdgRuntime socket]
      | none => []
  | none => []

/-- The workspace, when the file system is isolated, and the extra binds. -/
def userBindArgs : Option SandboxConfig → List String
  | some config =>
      (match config.workspacePath with
        | some path => if config.isolateFilesystem then ["--bind", path, path] else []
        | none => []) ++
      ((config.extraBindPaths.getD []).flatMap fun
        | some path => ["--bind", path, path]
        | none => [])
  | none => []

/-- The namespaces to unshare. -/
def namespaceArgs : Option SandboxConfig → List String
  | some config =>
      (if config.isolatePid then ["--unshare-pid"] else []) ++
      (if config.isolateIpc then ["--unshare-ipc"] else []) ++
      (if config.networkNamespace.isSome then ["--unshare-net"] else [])
  | none => []

/-- The Wayland display and the runtime directory. -/
def waylandArgs (comp : LaunchContext) (xdgRuntime : Option String) : List String :=
  ["--setenv", "WAYLAND_DISPLAY", comp.socket.getD "wayland-0"] ++
  match xdgRuntime with
  | some xdgRuntime => ["--setenv", "XDG_RUNTIME_DIR", xdgRuntime]
  | none => []

/-- The session bus. An empty socket name stands for a proxy that failed, NULL for
no filtering. -/
def dbusArgs (host : Host) (dbusProxySocket : Option String) : Option String → List String
  | some xdgRuntime =>
      match dbusProxySocket with
      | some socket =>
          if socket ≠ "" then
            ["--bind", socket, dbusPath xdgRuntime,
              "--setenv", "DBUS_SESSION_BUS_ADDRESS", dbusAddr xdgRuntime]
          else
            ["--unsetenv", "DBUS_SESSION_BUS_ADDRESS"]
      | none =>
          if host.exists_ (dbusPath xdgRuntime) then
            ["--bind", dbusPath xdgRuntime, dbusPath xdgRuntime,
              "--setenv", "DBUS_SESSION_BUS_ADDRESS", dbusAddr xdgRuntime]
          else
            []
  | none => []

/-- With Xwayland its display is bound, without it the toolkits are told to use Wayland. -/
def displayArgs (comp : LaunchContext) : List String :=
  match comp.xwaylandDisplay with
  | some display =>
      ["--setenv", "DISPLAY", display, "--bind", x11Socket display, x11Socket display,
        "--setenv", "ELECTRON_OZONE_PLATFORM_HINT", "wayland",
        "--setenv", "MOZ_ENABLE_WAYLAND", "1"]
  | none =>
      ["--unsetenv", "DISPLAY", "--setenv", "GDK_BACKEND", "wayland",
        "--setenv", "QT_QPA_PLATFORM", "wayland", "--setenv", "SDL_VIDEODRIVER", "wayland"]

/-- `dlp_build_bwrap_args`: the groups in the source's order. -/
def dlpBuildBwrapArgs (host : Host) (comp : LaunchContext) (command : String)
    (sandbox : Option SandboxConfig) (dbusProxySocket : Option String) : List String :=
  let xdgRuntime := host.getenv "XDG_RUNTIME_DIR"
  ["bwrap"] ++ rootArgs host sandbox ++ runtimeArgs comp xdgRuntime ++ userBindArgs sandbox ++
    namespaceArgs sandbox ++ waylandArgs comp xdgRuntime ++
    dbusArgs host dbusProxySocket xdgRuntime ++ displayArgs comp ++
    ["--setenv", "ELECTRON_NO_SANDBOX", "1", "--die-with-parent", "--new-session",
      "--", "/bin/sh", "-c", command]

/-! ## `coder_dlp_launch_app` -/

/-- `find_in_path`: the directories of `PATH` as `strtok` finds them. -/
def findInPath (host : Host) (name : String) : Bool :=
  match host.getenv "PATH" with
  | none => false
  | some path =>
      ((path.toList.splitOn ':').filter (· ≠ [])).any fun directory =>
        host.executable (snprintf pathMax (String.ofList directory ++ "/" ++ name))

/-- How the system calls of `dlp_start_dbus_proxy` end. -/
structure ProxyStart where
  /-- The suffix `mkdtemp` chose. -/
  mkdtemp : Option String
  pipe : Bool
  fork : Bool
  /-- The socket appeared in time. -/
  socketReady : Bool
deriving DecidableEq, Repr

/-- The socket of the started proxy, or `none` for the -1 return. -/
def dlpStartDbusProxy (host : Host) (start : ProxyStart) : Option String :=
  match host.getenv "DBUS_SESSION_BUS_ADDRESS" with
  | none => none
  | some _ =>
      if ¬ findInPath host "xdg-dbus-proxy" then none
      else
        match start.mkdtemp with
        | none => none
        | some suffix =>
            let dirPath := snprintf 256 ("/tmp/coder-dlp-dbus-" ++ suffix)
            let socketPath := snprintf 256 (dirPath ++ "/bus")
            if start.pipe ∧ start.fork ∧ start.socketReady then some socketPath else none

/-- The `dbus_proxy_socket` argument the launch passes on. -/
def proxySocket (host : Host) (sandbox : Option SandboxConfig) (start : ProxyStart) :
    Option String :=
  if sandbox.any (·.filterDbus) then
    match dlpStartDbusProxy host start with
    | some socket => some socket
    | none => some ""
  else
    none

/-- The vector the child of `coder_dlp_launch_app` executes. -/
def coderDlpLaunchApp (host : Host) (comp : LaunchContext) (command : String)
    (sandbox : Option SandboxConfig) (start : ProxyStart) : List String :=
  dlpBuildBwrapArgs host comp command sandbox (proxySocket host sandbox start)

end CoderDesktop.Dlp
