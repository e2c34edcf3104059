import CoderDesktop.Dlp.SandboxOps

/-!
# Write confinement of the isolated sandbox

With the file system isolated and `$HOME` on a tmpfs, the composed mount table
lets the application write to host files only below the paths the launcher binds
on purpose, and hides `$HOME` except for these and the compositor's lock file,
which is bound read-only next to the socket.
-/

namespace CoderDesktop.Dlp

open Sandbox

section Roots

variable (host : Host) (comp : LaunchContext) (config : SandboxConfig)
  (dbusProxySocket : Option String)

/-- The compositor's socket, if it is bound. -/
def compositorSockets : List String :=
  match host.getenv "XDG_RUNTIME_DIR", comp.socket with
  | some xdgRuntime, some socket => [socketPath xdgRuntime socket]
  | _, _ => []

/-- The lock file of the socket, if it is bound. -/
def lockFiles : List String :=
  match host.getenv "XDG_RUNTIME_DIR", comp.socket with
  | some xdgRuntime, some socket => [lockPath xdgRuntime socket]
  | _, _ => []

/-- Where a D-Bus socket is bound. -/
def boundBuses : List String :=
  match host.getenv "XDG_RUNTIME_DIR" with
  | some xdgRuntime =>
      if (busSource host dbusProxySocket xdgRuntime).isSome then [dbusPath xdgRuntime] else []
  | none => []

/-- The X11 socket, if it is bound. -/
def boundX11Sockets : List String :=
  comp.xwaylandDisplay.toList.map x11Socket

/-- The paths an isolated application may write to on the host. -/
def writableRoots : List String :=
  ["/dev/dri", "/dev/shm"] ++ config.workspacePath.toList ++ extraBinds config ++
    compositorSockets host comp ++ boundBuses host dbusProxySocket ++ boundX11Sockets comp

/-- The options after the root file system's. -/
def laterOps : List BwrapOp :=
  runtimeOps comp (host.getenv "XDG_RUNTIME_DIR") ++ (userBinds (some config)).map bindSelf ++
    namespaceOps (some config) ++ waylandOps comp (host.getenv "XDG_RUNTIME_DIR") ++
    dbusOps host dbusProxySocket (host.getenv "XDG_RUNTIME_DIR") ++ displayOps comp ++ finalOps

end Roots

section Binds

variable {host : Host} {comp : LaunchContext} {config : SandboxConfig}
  {dbusProxySocket : Option String} {mode : BindMode} {src dest : String}

/-- The binds in the runtime directory are the sockets and lock files. -/
theorem bind_mem_runtimeOps
    (member : .bind mode src dest ∈ runtimeOps comp (host.getenv "XDG_RUNTIME_DIR")) :
    dest ∈ compositorSockets host comp ∨ (mode = .readOnly ∧ dest ∈ lockFiles host comp) := by
  unfold compositorSockets lockFiles
  cases xdg : host.getenv "XDG_RUNTIME_DIR" <;> cases socket : comp.socket <;>
    simp_all [runtimeOps, socketOps, bindSelf]
  tauto

/-- The user's binds are the workspace and the extra paths. -/
theorem bind_mem_userBinds
    (member : .bind mode src dest ∈ (userBinds (some config)).map bindSelf) :
    dest ∈ config.workspacePath.toList ∨ dest ∈ extraBinds config := by
  simp only [List.mem_map, userBinds, List.mem_append, bindSelf, BwrapOp.bind.injEq] at member
  obtain ⟨path, workspace | extra, rfl, rfl, rfl⟩ := member
  · unfold workspaceBinds at workspace
    split at workspace
    · exact .inl workspace
    · cases workspace
  · exact .inr extra

/-- The bus is the only bind for D-Bus. -/
theorem bind_mem_dbusOps
    (member : .bind mode src dest ∈ dbusOps host dbusProxySocket (host.getenv "XDG_RUNTIME_DIR")) :
    dest ∈ boundBuses host dbusProxySocket := by
  unfold boundBuses
  cases xdg : host.getenv "XDG_RUNTIME_DIR" with
  | none => simp [dbusOps, xdg] at member
  | some xdgRuntime =>
      simp only [dbusOps, xdg] at member
      cases source : busSource host dbusProxySocket xdgRuntime with
      | some bus => simp_all
      | none =>
          simp only [source] at member
          split at member <;> simp at member

/-- The X11 socket is the only bind for the display. -/
theorem bind_mem_displayOps (member : .bind mode src dest ∈ displayOps comp) :
    dest ∈ boundX11Sockets comp := by
  unfold displayOps at member
  unfold boundX11Sockets
  cases display : comp.xwaylandDisplay <;> simp_all [bindSelf]

/-- Everything bound after the root file system is meant to be. -/
theorem bind_mem_laterOps
    (member : .bind mode src dest ∈ laterOps host comp config dbusProxySocket) :
    dest ∈ writableRoots host comp config dbusProxySocket ∨
      (mode = .readOnly ∧ dest ∈ lockFiles host comp) := by
  simp only [laterOps, List.mem_append] at member
  simp only [writableRoots, List.mem_append]
  rcases member with (((((runtime | user) | namespaces) | wayland) | dbus) | display) | final
  · rcases bind_mem_runtimeOps runtime with socket | lock
    · simp [socket]
    · exact .inr lock
  · rcases bind_mem_userBinds user with workspace | extra
    · simp [workspace]
    · simp [extra]
  · unfold namespaceOps at namespaces
    cases config.isolatePid <;> cases config.isolateIpc <;> cases config.networkNamespace <;>
      simp_all
  · simp [waylandOps] at wayland
  · simp [bind_mem_dbusOps dbus]
  · simp [bind_mem_displayOps display]
  · simp [finalOps] at final

end Binds

/-! ## Results -/

section Isolated

variable {host : Host} {comp : LaunchContext} {config : SandboxConfig}
  {dbusProxySocket : Option String} (isolated : config.isolateFilesystem = true)

include isolated

/-- The options of an isolated launch in three parts. -/
theorem bwrapOps_isolated :
    bwrapOps host comp (some config) dbusProxySocket =
      baseOps .readOnly ++ homeOps host config ++ laterOps host comp config dbusProxySocket := by
  simp [bwrapOps, laterOps, rootOps, isolated]

/-- What an isolated launch binds writable: the writable roots, and the home directory
where that is asked for. -/
theorem writable_bind_mem {mode : BindMode} {src dest : String}
    (member : .bind mode src dest ∈ bwrapOps host comp (some config) dbusProxySocket)
    (writable : mode ≠ .readOnly) :
    dest ∈ writableRoots host comp config dbusProxySocket ∨
      (config.bindHomeRw = true ∧ host.getenv "HOME" = some dest) := by
  rw [bwrapOps_isolated isolated, List.mem_append, List.mem_append] at member
  rcases member with (base | home) | late
  · simp only [baseOps, bindSelf, List.mem_cons, BwrapOp.bind.injEq, reduceCtorEq,
      List.not_mem_nil, or_false, false_or] at base
    rcases base with ⟨rfl, -, -⟩ | ⟨-, -, rfl⟩ | ⟨-, -, rfl⟩
    · exact absurd rfl writable
    · exact .inl (by simp [writableRoots])
    · exact .inl (by simp [writableRoots])
  · unfold homeOps at home
    cases isHome : host.getenv "HOME" with
    | none => simp [isHome] at home
    | some directory =>
        simp only [isHome] at home
        split at home
        · rename_i bound
          obtain ⟨-, -, rfl⟩ : mode = _ ∧ src = _ ∧ dest = _ := by simpa [bindSelf] using home
          exact .inr ⟨bound, rfl⟩
        · simp at home
  · exact .inl ((bind_mem_laterOps late).resolve_right fun lock => writable lock.1)

end Isolated

/-- With the file system isolated and the home directory ephemeral, bubblewrap reads
a mount table that confines writes and hides the home directory. -/
theorem dlpBuildBwrapArgs_confines (host : Host) (comp : LaunchContext) (command : String)
    (config : SandboxConfig) (dbusProxySocket : Option String)
    (isolated : config.isolateFilesystem = true) (ephemeral : config.bindHomeRw = false) :
    ∃ ops, parseBwrap (dlpBuildBwrapArgs host comp command (some config) dbusProxySocket).tail =
        some (ops, ["/bin/sh", "-c", command]) ∧
      WritesConfined ((writableRoots host comp config dbusProxySocket).map Path.ofString)
        (mounts ops) ∧
      ∀ home, host.getenv "HOME" = some home →
        Hides (Path.ofString home)
          ((writableRoots host comp config dbusProxySocket ++ lockFiles host comp).map
            Path.ofString) (mounts ops) := by
  refine ⟨_, parse_dlpBuildBwrapArgs host comp command (some config) dbusProxySocket, ?_, ?_⟩
  · refine .of_mounts fun mount member source shape => ?_
    obtain ⟨mode, src, dest, opMember, target, -, writes⟩ := mem_mounts_host member shape
    have root := (writable_bind_mem isolated opMember (writes rfl)).resolve_right
      fun home => by simp [ephemeral] at home
    exact ⟨_, List.mem_map_of_mem root, target ▸ List.prefix_refl _⟩
  · intro home isHome
    have table : mounts (bwrapOps host comp (some config) dbusProxySocket) =
        mounts (baseOps .readOnly) ++
          ⟨Path.ofString home, .fresh⟩ :: mounts (laterOps host comp config dbusProxySocket) := by
      simp [bwrapOps_isolated isolated, homeOps, ephemeral, isHome, mounts, BwrapOp.mount]
    rw [table]
    refine .of_overlay (fun mount member source writable shape => ?_)
      fun mount member source writable shape => ?_
    · obtain ⟨mode, src, dest, opMember, target, rfl, -⟩ := mem_mounts_host member shape
      have inPlace : src = dest := by
        simp only [baseOps, bindSelf, List.mem_cons, BwrapOp.bind.injEq, reduceCtorEq,
          List.not_mem_nil, or_false, false_or] at opMember
        rcases opMember with ⟨-, rfl, rfl⟩ | ⟨-, rfl, rfl⟩ | ⟨-, rfl, rfl⟩ <;> rfl
      rw [target, inPlace]
    · obtain ⟨mode, src, dest, opMember, target, -, -⟩ := mem_mounts_host member shape
      have root : dest ∈ writableRoots host comp config dbusProxySocket ++ lockFiles host comp := by
        rcases bind_mem_laterOps opMember with root | ⟨-, lock⟩
        · exact List.mem_append_left _ root
        · exact List.mem_append_right _ lock
      exact ⟨_, List.mem_map_of_mem root, target ▸ List.prefix_refl _⟩

/-- A host whose runtime directory lies in the home directory. -/
def runtimeInHome : Host where
  getenv name :=
    if name = "HOME" then some "/home/u"
    else if name = "XDG_RUNTIME_DIR" then some "/home/u/run"
    else none
  exists_ _ := false
  executable _ := false

/-- Everything is isolated, with a workspace in the home directory. -/
def isolatedConfig : SandboxConfig where
  workspacePath := some "/home/u/project"
  networkNamespace := none
  isolatePid := true
  isolateIpc := true
  isolateFilesystem := true
  bindHomeRw := false
  extraBindPaths := none
  filterDbus := true

/-- A compositor without Xwayland. -/
def nestedCompositor : LaunchContext where
  socket := some "wayland-1"
  xwaylandDisplay := none

/-- A launch with the runtime directory inside the home. -/
theorem confines_runtimeInHome :
    ∃ ops, parseBwrap
        (dlpBuildBwrapArgs runtimeInHome nestedCompositor "code" (some isolatedConfig)
          (some "")).tail = some (ops, ["/bin/sh", "-c", "code"]) ∧
      WritesConfined ((writableRoots runtimeInHome nestedCompositor isolatedConfig (some "")).map
        Path.ofString) (mounts ops) ∧
      ∀ home, runtimeInHome.getenv "HOME" = some home →
        Hides (Path.ofString home)
          ((writableRoots runtimeInHome nestedCompositor isolatedConfig (some "") ++
            lockFiles runtimeInHome nestedCompositor).map Path.ofString) (mounts ops) :=
  dlpBuildBwrapArgs_confines _ _ _ _ _ rfl rfl

/-- The lock file of the compositor's socket is visible in the home directory although
none of the writable roots is at or above it. -/
theorem lockFile_visible :
    ¬ ∃ ops, parseBwrap
        (dlpBuildBwrapArgs runtimeInHome nestedCompositor "code" (some isolatedConfig)
          (some "")).tail = some (ops, ["/bin/sh", "-c", "code"]) ∧
      ∀ path file, backing (mounts ops) path = some file → Path.ofString "/home/u" <+: path →
        ∃ root ∈ writableRoots runtimeInHome nestedCompositor isolatedConfig (some ""),
          Path.ofString root <+: path := by
  rintro ⟨ops, parsed, hidden⟩
  rw [parse_dlpBuildBwrapArgs] at parsed
  obtain ⟨rfl, -⟩ := Prod.mk.inj (Option.some.inj parsed)
  obtain ⟨root, member, above⟩ := hidden (Path.ofString "/home/u/run/wayland-1.lock")
    ⟨Path.ofString "/home/u/run/wayland-1.lock", false⟩ (by decide) (by decide)
  have uncovered : ∀ root ∈ writableRoots runtimeInHome nestedCompositor isolatedConfig (some ""),
      ¬ Path.ofString root <+: Path.ofString "/home/u/run/wayland-1.lock" := by
    decide
  exact uncovered root member above

end CoderDesktop.Dlp
