import CoderDesktop.Dlp.SandboxLauncher

/-!
# The operations behind the argument vector

`bwrapOps` is the list of options bubblewrap reads from the launcher's vector,
`parse_dlpBuildBwrapArgs` says so. The lists of bound paths below it are what the
statements about the composed mount table are made of.
-/

namespace CoderDesktop.Dlp

open Sandbox

/-- A path bound to itself, writable. -/
def bindSelf (path : String) : BwrapOp :=
  .bind .readWrite path path

/-- The root, devices and `/tmp`, with the root bound as `mode` says. -/
def baseOps (mode : BindMode) : List BwrapOp :=
  [.bind mode "/" "/", .dev "/dev", .bind .device "/dev/dri" "/dev/dri", bindSelf "/dev/shm",
    .proc "/proc", .tmpfs "/tmp"]

/-- The home is bound or hidden. -/
def homeOps (host : Host) (config : SandboxConfig) : List BwrapOp :=
  match host.getenv "HOME" with
  | some home => if config.bindHomeRw then [bindSelf home] else [.tmpfs home]
  | none => []

/-- What `rootArgs` asks for. -/
def rootOps (host : Host) : Option SandboxConfig → List BwrapOp
  | some config =>
      if config.isolateFilesystem then baseOps .readOnly ++ homeOps host config
      else baseOps .readWrite
  | none => baseOps .readWrite

/-- The compositor's socket and its lock file. -/
def socketOps (comp : LaunchContext) (xdgRuntime : String) : List BwrapOp :=
  match comp.socket with
  | some socket =>
      [bindSelf (socketPath xdgRuntime socket),
        .bind .readOnly (lockPath xdgRuntime socket) (lockPath xdgRuntime socket)]
  | none => []

/-- What `runtimeArgs` asks for. -/
def runtimeOps (comp : LaunchContext) : Option String → List BwrapOp
  | some xdgRuntime => .tmpfs xdgRuntime :: socketOps comp xdgRuntime
  | none => []

/-- The workspace that is bound. -/
def workspaceBinds (config : SandboxConfig) : List String :=
  if config.isolateFilesystem then config.workspacePath.toList else []

/-- The non-NULL extra bind paths. -/
def extraBinds (config : SandboxConfig) : List String :=
  (config.extraBindPaths.getD []).filterMap id

/-- The user's binds in their order. -/
def userBinds : Option SandboxConfig → List String
  | some config => workspaceBinds config ++ extraBinds config
  | none => []

/-- What `namespaceArgs` asks for. -/
def namespaceOps : Option SandboxConfig → List BwrapOp
  | some config =>
      (if config.isolatePid then [.unsharePid] else []) ++
      (if config.isolateIpc then [.unshareIpc] else []) ++
      (if config.networkNamespace.isSome then [.unshareNet] else [])
  | none => []

/-- What `waylandArgs` asks for. -/
def waylandOps (comp : LaunchContext) (xdgRuntime : Option String) : List BwrapOp :=
  .setenv "WAYLAND_DISPLAY" (comp.socket.getD "wayland-0") ::
    xdgRuntime.toList.map (.setenv "XDG_RUNTIME_DIR")

/-- The socket bound to the bus path, if any. -/
def busSource (host : Host) (dbusProxySocket : Option String) (xdgRuntime : String) :
    Option String :=
  match dbusProxySocket with
  | some socket => if socket ≠ "" then some socket else none
  | none => if host.exists_ (dbusPath xdgRuntime) then some (dbusPath xdgRuntime) else none

/-- What `dbusArgs` asks for. -/
def dbusOps (host : Host) (dbusProxySocket : Option String) : Option String → List BwrapOp
  | some xdgRuntime =>
      match busSource host dbusProxySocket xdgRuntime with
      | some source =>
          [.bind .readWrite source (dbusPath xdgRuntime),
            .setenv "DBUS_SESSION_BUS_ADDRESS" (dbusAddr xdgRuntime)]
      | none =>
          if dbusProxySocket.isSome then [.unsetenv "DBUS_SESSION_BUS_ADDRESS"] else []
  | none => []

/-- What `displayArgs` asks for. -/
def displayOps (comp : LaunchContext) : List BwrapOp :=
  match comp.xwaylandDisplay with
  | some display =>
      [.setenv "DISPLAY" display, bindSelf (x11Socket display),
        .setenv "ELECTRON_OZONE_PLATFORM_HINT" "wayland", .setenv "MOZ_ENABLE_WAYLAND" "1"]
  | none =>
      [.unsetenv "DISPLAY", .setenv "GDK_BACKEND" "wayland", .setenv "QT_QPA_PLATFORM" "wayland",
        .setenv "SDL_VIDEODRIVER" "wayland"]

/-- The options before the command. -/
def finalOps : List BwrapOp :=
  [.setenv "ELECTRON_NO_SANDBOX" "1", .dieWithParent, .newSession]

/-- What the whole argument list asks for. -/
def bwrapOps (host : Host) (comp : LaunchContext) (sandbox : Option SandboxConfig)
    (dbusProxySocket : Option String) : List BwrapOp :=
  let xdgRuntime := host.getenv "XDG_RUNTIME_DIR"
  rootOps host sandbox ++ runtimeOps comp xdgRuntime ++ (userBinds sandbox).map bindSelf ++
    namespaceOps sandbox ++ waylandOps comp xdgRuntime ++
    dbusOps host dbusProxySocket xdgRuntime ++ displayOps comp ++ finalOps

/-! ## Rendering -/

section Render

variable (host : Host) (comp : LaunchContext) (sandbox : Option SandboxConfig)

/-- The options for the root are its arguments. -/
theorem render_rootOps : (rootOps host sandbox).flatMap BwrapOp.render = rootArgs host sandbox := by
  cases sandbox with
  | none => rfl
  | some config =>
      simp only [rootOps, rootArgs, homeOps]
      cases config.isolateFilesystem with
      | false => rfl
      | true =>
          cases host.getenv "HOME" with
          | none => rfl
          | some home => cases config.bindHomeRw <;> rfl

/-- The options for the runtime directory are its arguments. -/
theorem render_runtimeOps (xdgRuntime : Option String) :
    (runtimeOps comp xdgRuntime).flatMap BwrapOp.render = runtimeArgs comp xdgRuntime := by
  cases xdgRuntime with
  | none => rfl
  | some xdgRuntime =>
      unfold runtimeOps runtimeArgs socketOps
      cases comp.socket <;> rfl

/-- The options for the extra paths are their arguments. -/
theorem render_extraBinds (paths : List (Option String)) :
    ((paths.filterMap id).map bindSelf).flatMap BwrapOp.render =
      paths.flatMap fun
        | some path => ["--bind", path, path]
        | none => [] := by
  induction paths with
  | nil => rfl
  | cons path paths inductionHypothesis =>
      cases path with
      | none => simpa using inductionHypothesis
      | some path => simpa [bindSelf, BwrapOp.render] using inductionHypothesis

/-- The options for the user's binds are their arguments. -/
theorem render_userBinds :
    ((userBinds sandbox).map bindSelf).flatMap BwrapOp.render = userBindArgs sandbox := by
  cases sandbox with
  | none => rfl
  | some config =>
      have workspace : ((workspaceBinds config).map bindSelf).flatMap BwrapOp.render =
          match config.workspacePath with
          | some path => if config.isolateFilesystem then ["--bind", path, path] else []
          | none => [] := by
        unfold workspaceBinds
        cases config.workspacePath <;> split <;> rfl
      rw [userBinds, List.map_append, List.flatMap_append, workspace, extraBinds,
        render_extraBinds]
      rfl

/-- The options for the namespaces are their arguments. -/
theorem render_namespaceOps :
    (namespaceOps sandbox).flatMap BwrapOp.render = namespaceArgs sandbox := by
  cases sandbox with
  | none => rfl
  | some config =>
      simp only [namespaceOps, namespaceArgs]
      cases config.isolatePid <;> cases config.isolateIpc <;> cases config.networkNamespace <;> rfl

/-- The options for Wayland are its arguments. -/
theorem render_waylandOps (xdgRuntime : Option String) :
    (waylandOps comp xdgRuntime).flatMap BwrapOp.render = waylandArgs comp xdgRuntime := by
  cases xdgRuntime <;> rfl

/-- The options for D-Bus are its arguments. -/
theorem render_dbusOps (dbusProxySocket xdgRuntime : Option String) :
    (dbusOps host dbusProxySocket xdgRuntime).flatMap BwrapOp.render =
      dbusArgs host dbusProxySocket xdgRuntime := by
  cases xdgRuntime with
  | none => rfl
  | some xdgRuntime =>
      simp only [dbusOps, dbusArgs, busSource]
      cases dbusProxySocket with
      | none => cases host.exists_ (dbusPath xdgRuntime) <;> rfl
      | some socket =>
          by_cases empty : socket = ""
          · simp [empty, BwrapOp.render]
          · simp [empty, BwrapOp.render]

/-- The options for the display are its arguments. -/
theorem render_displayOps : (displayOps comp).flatMap BwrapOp.render = displayArgs comp := by
  unfold displayOps displayArgs
  cases comp.xwaylandDisplay <;> rfl

end Render

/-- The arguments are the options, and the command after them. -/
theorem dlpBuildBwrapArgs_eq (host : Host) (comp : LaunchContext) (command : String)
    (sandbox : Option SandboxConfig) (dbusProxySocket : Option String) :
    dlpBuildBwrapArgs host comp command sandbox dbusProxySocket =
      "bwrap" :: ((bwrapOps host comp sandbox dbusProxySocket).flatMap BwrapOp.render ++
        "--" :: ["/bin/sh", "-c", command]) := by
  simp only [bwrapOps, List.flatMap_append, render_rootOps, render_runtimeOps, render_userBinds,
    render_namespaceOps, render_waylandOps, render_dbusOps, render_displayOps]
  simp [dlpBuildBwrapArgs, finalOps, BwrapOp.render]

/-- Bubblewrap reads the launcher's vector as `bwrapOps` and the shell command. -/
theorem parse_dlpBuildBwrapArgs (host : Host) (comp : LaunchContext) (command : String)
    (sandbox : Option SandboxConfig) (dbusProxySocket : Option String) :
    parseBwrap (dlpBuildBwrapArgs host comp command sandbox dbusProxySocket).tail =
      some (bwrapOps host comp sandbox dbusProxySocket, ["/bin/sh", "-c", command]) := by
  rw [dlpBuildBwrapArgs_eq, List.tail_cons]
  exact parseBwrap_render _ _

end CoderDesktop.Dlp
