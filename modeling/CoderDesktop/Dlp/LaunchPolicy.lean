import CoderDesktop.Dlp.CompositorManager
import CoderDesktop.Dlp.DbusIsolation

/-!
# Sandbox settings and the launched command line

The two ways the UI launches an application, down to the options bubblewrap reads.
The sandbox settings reach the compositor's policy but not the arguments: whether a
launch satisfies them is decided by the check boxes and by what else is bound.
-/

namespace CoderDesktop.Dlp

open Sandbox Settings

/-- The handlers of the launch page. -/
inductive LaunchRoute where
  /-- The custom command form. -/
  | customCommand (command workspacePath : String) (pid ipc net fs : Bool)
  /-- The launch dialog. -/
  | launchDialog (command appName workspacePath : String) (pid ipc net fs homeRw : Bool)
deriving DecidableEq, Repr

/-- The call of `launchApp` a handler makes. -/
def LaunchRoute.request (settings : SettingsManager) : LaunchRoute → LaunchRequest
  | .customCommand command workspacePath pid ipc net fs =>
      { command := command
        appName := ""
        workspacePath := workspacePath
        isolatePid := pid
        isolateIpc := ipc
        isolateNetwork := net
        isolateFilesystem := fs
        bindHomeRw := false
        extraBindPaths := []
        filterDbus := settings.dlpDbusFilter }
  | .launchDialog command appName workspacePath pid ipc net fs homeRw =>
      { command := command
        appName := appName
        workspacePath := workspacePath
        isolatePid := pid
        isolateIpc := ipc
        isolateNetwork := net
        isolateFilesystem := fs
        bindHomeRw := homeRw
        extraBindPaths := []
        filterDbus := settings.dlpDbusFilter }

/-- The vector executed for a launch. -/
def launchArgs (host : Host) (comp : LaunchContext) (request : LaunchRequest)
    (start : ProxyStart) : List String :=
  coderDlpLaunchApp host comp request.command (some request.sandbox) start

/-- A read-only root, and host files writable neither there nor at the home directory. -/
structure FilesystemIsolated (host : Host) (ops : List BwrapOp) : Prop where
  readOnlyRoot : .bind .readOnly "/" "/" ∈ ops
  rootNotWritable : ¬ WritableAt (mounts ops) (Path.ofString "/")
  homeNotWritable : ∀ home, host.getenv "HOME" = some home →
    ¬ WritableAt (mounts ops) (Path.ofString home)

/-- The options satisfy the sandbox settings. -/
structure PolicyEnforced (settings : SettingsManager) (host : Host) (ops : List BwrapOp) :
    Prop where
  filesystem : settings.dlpFileSandbox = true → FilesystemIsolated host ops
  network : settings.dlpNetworkSandbox = true → .unshareNet ∈ ops

section Exposure

variable (host : Host) (comp : LaunchContext) (config : SandboxConfig)
  (dbusProxySocket : Option String)

/-- What is bound after the compositor's sockets, all of it writable. -/
def writableBinds : List String :=
  userBinds (some config) ++ boundBuses host dbusProxySocket ++ boundX11Sockets comp

/-- The writable home directory lies at or above the path and is not covered by the tmpfs over
the runtime directory. -/
def HomeShown (path : Path) : Prop :=
  (∀ xdgRuntime, host.getenv "XDG_RUNTIME_DIR" = some xdgRuntime →
      ¬ Path.ofString xdgRuntime <+: path) ∧
    config.bindHomeRw = true ∧
      ∃ home, host.getenv "HOME" = some home ∧ Path.ofString home <+: path

/-- Something writable is bound at or above the path, and nothing else over it: the
workspace, an extra bind, the session bus or the X11 socket, which come last, or before the
lock file the compositor's socket, or before that the home directory. -/
def Exposed (path : Path) : Prop :=
  (∃ bound ∈ writableBinds host comp config dbusProxySocket, Path.ofString bound <+: path) ∨
    (∀ lock ∈ lockFiles host comp, ¬ Path.ofString lock <+: path) ∧
      ((∃ socket ∈ compositorSockets host comp, Path.ofString socket <+: path) ∨
        HomeShown host config path)

/-- The launch options meet the sandbox settings by themselves: the check boxes ask for what
the settings require, and no path that is bound undoes it at the root or the home directory. -/
structure OptionsSuffice (settings : SettingsManager) : Prop where
  filesystem : settings.dlpFileSandbox = true →
    config.isolateFilesystem = true ∧
      ¬ Exposed host comp config dbusProxySocket (Path.ofString "/") ∧
        ∀ home, host.getenv "HOME" = some home →
          ¬ Exposed host comp config dbusProxySocket (Path.ofString home)
  network : settings.dlpNetworkSandbox = true → config.networkNamespace.isSome = true

end Exposure

section Options

variable {host : Host} {comp : LaunchContext} {config : SandboxConfig}
  {dbusProxySocket : Option String} {path : Path}

/-! ### What the mounts leave writable -/

/-- Later self binds make what lies below them writable. -/
theorem writableAt_append_selfMounts (table : List Mount) (paths : List String) :
    WritableAt (table ++ paths.map (selfMount true)) path ↔
      (∃ bound ∈ paths, Path.ofString bound <+: path) ∨ WritableAt table path := by
  rw [writableAt_append_writable (by simp [selfMount, Mount.writable])]
  simp [selfMount]

/-- A later fresh directory hides what lies below it. -/
theorem writableAt_append_fresh (table : List Mount) (directory : Path) :
    WritableAt (table ++ [⟨directory, .fresh⟩]) path ↔
      ¬ directory <+: path ∧ WritableAt table path := by
  rw [writableAt_append_readOnly (by simp [Mount.writable])]
  simp

/-- The runtime directory is empty but for the compositor's sockets. -/
theorem writableAt_runtimeOps (table : List Mount) :
    WritableAt (table ++ mounts (runtimeOps comp (host.getenv "XDG_RUNTIME_DIR"))) path ↔
      (∀ lock ∈ lockFiles host comp, ¬ Path.ofString lock <+: path) ∧
        ((∃ socket ∈ compositorSockets host comp, Path.ofString socket <+: path) ∨
          (∀ xdgRuntime, host.getenv "XDG_RUNTIME_DIR" = some xdgRuntime →
            ¬ Path.ofString xdgRuntime <+: path) ∧ WritableAt table path) := by
  unfold lockFiles compositorSockets
  cases xdg : host.getenv "XDG_RUNTIME_DIR" with
  | none => simp [runtimeOps, mounts]
  | some xdgRuntime =>
      cases isNamed : comp.socket with
      | none =>
          have covers : mounts (runtimeOps comp (some xdgRuntime)) =
              [⟨Path.ofString xdgRuntime, .fresh⟩] := by
            simp [runtimeOps, socketOps, isNamed, mounts, BwrapOp.mount]
          rw [covers, writableAt_append_fresh]
          simp
      | some name =>
          have shows : mounts (runtimeOps comp (some xdgRuntime)) =
              [⟨Path.ofString xdgRuntime, .fresh⟩] ++
                ([socketPath xdgRuntime name].map (selfMount true) ++
                  [⟨Path.ofString (lockPath xdgRuntime name),
                    .host (Path.ofString (lockPath xdgRuntime name)) false⟩]) := by
            simp [runtimeOps, socketOps, isNamed, mounts, bindSelf, BwrapOp.mount, selfMount]
          rw [shows, ← List.append_assoc, ← List.append_assoc,
            writableAt_append_readOnly (by simp [Mount.writable]), writableAt_append_selfMounts,
            writableAt_append_fresh]
          simp

/-- After the sockets only `writableBinds` are mounted. -/
theorem writableAt_lateOps (table : List Mount) :
    WritableAt (table ++ (mounts ((userBinds (some config)).map bindSelf) ++
        mounts (dbusOps host dbusProxySocket (host.getenv "XDG_RUNTIME_DIR")) ++
        mounts (displayOps comp))) path ↔
      (∃ bound ∈ writableBinds host comp config dbusProxySocket, Path.ofString bound <+: path) ∨
        WritableAt table path := by
  have buses : ∀ table : List Mount, WritableAt (table ++
      mounts (dbusOps host dbusProxySocket (host.getenv "XDG_RUNTIME_DIR"))) path ↔
        (∃ bound ∈ boundBuses host dbusProxySocket, Path.ofString bound <+: path) ∨
          WritableAt table path := by
    intro table
    unfold dbusOps boundBuses
    cases host.getenv "XDG_RUNTIME_DIR" with
    | none => simp [mounts]
    | some xdgRuntime =>
        cases isSource : busSource host dbusProxySocket xdgRuntime with
        | none =>
            have unset : mounts [.unsetenv "DBUS_SESSION_BUS_ADDRESS"] = [] := rfl
            have nothing : mounts [] = [] := rfl
            cases dbusProxySocket <;> simp [isSource, unset, nothing]
        | some source =>
            have bound : mounts [.bind .readWrite source (dbusPath xdgRuntime),
                .setenv "DBUS_SESSION_BUS_ADDRESS" (dbusAddr xdgRuntime)] =
                [⟨Path.ofString (dbusPath xdgRuntime), .host (Path.ofString source) true⟩] := by
              simp [mounts, BwrapOp.mount]
            simp only [isSource, bound, Option.isSome_some, if_true]
            rw [writableAt_append_writable (by simp [Mount.writable])]
            simp
  have display : mounts (displayOps comp) = (boundX11Sockets comp).map (selfMount true) := by
    unfold displayOps boundX11Sockets
    cases comp.xwaylandDisplay <;> rfl
  rw [← List.append_assoc, ← List.append_assoc, mounts_bindSelf, display,
    writableAt_append_selfMounts, buses, writableAt_append_selfMounts]
  simp only [writableBinds, List.mem_append, or_and_right, exists_or, or_assoc]
  exact or_left_comm.trans (or_congr_right or_left_comm |>.trans or_left_comm)

/-- Before that, a home directory that is bound is all there is over the read-only root, where
either of them is what is asked about. -/
theorem writableAt_rootOps
    (asked : path = Path.ofString "/" ∨ ∃ home, host.getenv "HOME" = some home ∧
      Path.ofString home <+: path) :
    WritableAt (mounts (baseOps .readOnly ++ homeOps host config)) path ↔
      config.bindHomeRw = true ∧
        ∃ home, host.getenv "HOME" = some home ∧ Path.ofString home <+: path := by
  have base : ¬ WritableAt (mounts (baseOps .readOnly)) (Path.ofString "/") := by
    rintro ⟨file, visible, writable⟩
    have root : backing (mounts (baseOps .readOnly)) (Path.ofString "/") =
        some ⟨Path.ofString "/", false⟩ := by decide
    rw [root] at visible
    obtain rfl := Option.some.inj visible
    cases writable
  rw [mounts_append]
  unfold homeOps
  cases isHome : host.getenv "HOME" with
  | none =>
      obtain rfl := asked.resolve_right (by simp [isHome])
      simpa [mounts] using base
  | some home =>
      have decides : Path.ofString home <+: path ∨ path = Path.ofString "/" := by
        simpa [isHome, or_comm] using asked
      cases bound : config.bindHomeRw with
      | true =>
          have self : mounts [bindSelf home] = [home].map (selfMount true) := mounts_bindSelf [home]
          simp only [if_true, self, writableAt_append_selfMounts]
          rcases decides with above | rfl
          · simp [above]
          · simp [base]
      | false =>
          have covers : mounts [.tmpfs home] = [⟨Path.ofString home, .fresh⟩] := rfl
          simp only [Bool.false_eq_true, if_false, covers, writableAt_append_fresh]
          rcases decides with above | rfl
          · simp [above]
          · simp [base]

/-- What an isolated launch leaves writable at the root and at the home directory. -/
theorem writableAt_bwrapOps (isolated : config.isolateFilesystem = true)
    (asked : path = Path.ofString "/" ∨ ∃ home, host.getenv "HOME" = some home ∧
      Path.ofString home <+: path) :
    WritableAt (mounts (bwrapOps host comp (some config) dbusProxySocket)) path ↔
      Exposed host comp config dbusProxySocket path := by
  have namespaces : mounts (namespaceOps (some config)) = [] := by
    simp only [namespaceOps]
    split <;> split <;> split <;> rfl
  have wayland : mounts (waylandOps comp (host.getenv "XDG_RUNTIME_DIR")) = [] := by
    unfold waylandOps
    cases host.getenv "XDG_RUNTIME_DIR" <;> rfl
  have final : mounts finalOps = [] := rfl
  have table : mounts (bwrapOps host comp (some config) dbusProxySocket) =
      mounts (baseOps .readOnly ++ homeOps host config) ++
          mounts (runtimeOps comp (host.getenv "XDG_RUNTIME_DIR")) ++
        (mounts ((userBinds (some config)).map bindSelf) ++
          mounts (dbusOps host dbusProxySocket (host.getenv "XDG_RUNTIME_DIR")) ++
          mounts (displayOps comp)) := by
    simp only [bwrapOps, rootOps, isolated, if_true, mounts_append, namespaces, wayland, final,
      List.append_nil, List.nil_append, List.append_assoc]
  rw [table, writableAt_lateOps, writableAt_runtimeOps, writableAt_rootOps asked]
  rfl

/-! ### The options that are read -/

/-- Only an isolated launch binds the root read-only; a lock file has a longer name. -/
theorem isolated_of_readOnlyRoot
    (root : .bind .readOnly "/" "/" ∈ bwrapOps host comp (some config) dbusProxySocket) :
    config.isolateFilesystem = true := by
  by_contra notIsolated
  have open_ : config.isolateFilesystem = false := by simpa using notIsolated
  have lock : ∀ xdgRuntime name, "/" ≠ lockPath xdgRuntime name := by
    intro xdgRuntime name same
    have lengths := congrArg (fun text : String => text.toList.length) same
    simp [lockPath, snprintf, pathMax, String.toList_append] at lengths
    omega
  simp only [bwrapOps, rootOps, open_, List.mem_append] at root
  rcases root with ((((((base | runtime) | user) | namespaces) | wayland) | dbus) | display) | final
  · simp [baseOps, bindSelf] at base
  · unfold runtimeOps socketOps at runtime
    split at runtime
    · split at runtime
      · simp [bindSelf, lock] at runtime
      · simp at runtime
    · cases runtime
  · simp [bindSelf] at user
  · unfold namespaceOps at namespaces
    simp at namespaces
  · simp [waylandOps] at wayland
  · unfold dbusOps at dbus
    split at dbus
    · split at dbus
      · simp at dbus
      · split at dbus <;> simp at dbus
    · cases dbus
  · unfold displayOps at display
    split at display <;> simp [bindSelf] at display
  · simp [finalOps] at final

/-- The filesystem is isolated exactly when the flag is set and neither root nor home is exposed. -/
theorem filesystemIsolated_iff :
    FilesystemIsolated host (bwrapOps host comp (some config) dbusProxySocket) ↔
      config.isolateFilesystem = true ∧
        ¬ Exposed host comp config dbusProxySocket (Path.ofString "/") ∧
          ∀ home, host.getenv "HOME" = some home →
            ¬ Exposed host comp config dbusProxySocket (Path.ofString home) := by
  have atHome {home : String} (isHome : host.getenv "HOME" = some home) :
      Path.ofString home = Path.ofString "/" ∨ ∃ directory, host.getenv "HOME" = some directory ∧
        Path.ofString directory <+: Path.ofString home :=
    .inr ⟨home, isHome, List.prefix_refl _⟩
  constructor
  · rintro ⟨readOnlyRoot, root, homes⟩
    have isolated := isolated_of_readOnlyRoot readOnlyRoot
    refine ⟨isolated, fun exposed => root ?_, fun home isHome exposed => homes home isHome ?_⟩
    · exact (writableAt_bwrapOps isolated (.inl rfl)).mpr exposed
    · exact (writableAt_bwrapOps isolated (atHome isHome)).mpr exposed
  · rintro ⟨isolated, root, homes⟩
    refine ⟨?_, fun writable => root ?_, fun home isHome writable => homes home isHome ?_⟩
    · rw [bwrapOps_isolated isolated]
      simp [baseOps]
    · exact (writableAt_bwrapOps isolated (.inl rfl)).mp writable
    · exact (writableAt_bwrapOps isolated (atHome isHome)).mp writable

/-- The network is unshared exactly when a namespace is given. -/
theorem unshareNet_mem_iff :
    .unshareNet ∈ bwrapOps host comp (some config) dbusProxySocket ↔
      config.networkNamespace.isSome = true := by
  have root : .unshareNet ∉ rootOps host (some config) := by
    unfold rootOps homeOps
    split <;> (try split) <;> (try split) <;> (try split) <;> simp [baseOps, bindSelf]
  have runtime : .unshareNet ∉ runtimeOps comp (host.getenv "XDG_RUNTIME_DIR") := by
    unfold runtimeOps socketOps
    split <;> (try split) <;> simp [bindSelf]
  have bus : .unshareNet ∉ dbusOps host dbusProxySocket (host.getenv "XDG_RUNTIME_DIR") := by
    unfold dbusOps
    split <;> (try split) <;> (try split) <;> simp
  have display : .unshareNet ∉ displayOps comp := by
    unfold displayOps
    split <;> simp [bindSelf]
  simp [bwrapOps, root, runtime, bus, display, bindSelf, waylandOps, finalOps, namespaceOps]

end Options

/-! ## Results -/

/-- A launch satisfies the sandbox settings exactly when its options do so by
themselves. -/
theorem policyEnforced_iff_optionsSuffice (settings : SettingsManager) (route : LaunchRoute)
    (host : Host) (comp : LaunchContext) (start : ProxyStart) :
    (∃ ops, parseBwrap (launchArgs host comp (route.request settings) start).tail =
        some (ops, ["/bin/sh", "-c", (route.request settings).command]) ∧
      PolicyEnforced settings host ops) ↔
    OptionsSuffice host comp (route.request settings).sandbox
      (proxySocket host (some (route.request settings).sandbox) start) settings := by
  generalize route.request settings = request
  have parsed := parse_dlpBuildBwrapArgs host comp request.command (some request.sandbox)
    (proxySocket host (some request.sandbox) start)
  have composed : (∃ ops, parseBwrap (launchArgs host comp request start).tail =
        some (ops, ["/bin/sh", "-c", request.command]) ∧ PolicyEnforced settings host ops) ↔
      PolicyEnforced settings host
        (bwrapOps host comp (some request.sandbox)
          (proxySocket host (some request.sandbox) start)) := by
    simp [launchArgs, coderDlpLaunchApp, parsed]
  rw [composed]
  constructor
  · rintro ⟨filesystem, network⟩
    exact ⟨fun asked => filesystemIsolated_iff.mp (filesystem asked),
      fun asked => unshareNet_mem_iff.mp (network asked)⟩
  · rintro ⟨filesystem, network⟩
    exact ⟨fun asked => filesystemIsolated_iff.mpr (filesystem asked),
      fun asked => unshareNet_mem_iff.mpr (network asked)⟩

/-- A workspace typed as the parent of the home directory shows it writable again. -/
example : Exposed runtimeInHome nestedCompositor
    { isolatedConfig with workspacePath := some "/home/." } none (Path.ofString "/home/u") :=
  .inl ⟨"/home/.", by decide, by decide⟩

/-- An administrator requires the file sandbox. -/
def fileSandboxPolicy : SettingsManager where
  mdm := .parse (some (.object [("version", .number 1),
    ("settings", .object [("dlpFileSandbox",
      .object [("value", .bool true), ("locked", .bool true)])])]))
  userSettings _ := none

/-- The custom command form as it is first shown. -/
def defaultForm : LaunchRoute :=
  .customCommand "firefox" "" true true false false

/-- The form launches without the file sandbox although the setting requires it. -/
theorem defaultForm_unsandboxed :
    ¬ ∃ ops, parseBwrap (launchArgs runtimeInHome nestedCompositor
          (defaultForm.request fileSandboxPolicy) ⟨none, false, false, false⟩).tail =
        some (ops, ["/bin/sh", "-c", (defaultForm.request fileSandboxPolicy).command]) ∧
      PolicyEnforced fileSandboxPolicy runtimeInHome ops := by
  rintro ⟨ops, parsed, enforced⟩
  rw [launchArgs, coderDlpLaunchApp, parse_dlpBuildBwrapArgs] at parsed
  obtain ⟨rfl, -⟩ := Prod.mk.inj (Option.some.inj parsed)
  have required : fileSandboxPolicy.dlpFileSandbox = true := by decide
  have isolated := (filesystemIsolated_iff.mp (enforced.filesystem required)).1
  cases isolated

end CoderDesktop.Dlp
