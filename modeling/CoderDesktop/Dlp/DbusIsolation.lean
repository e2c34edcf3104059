import CoderDesktop.Dlp.Confinement

/-!
# Isolation from the session bus

What a filtered launch leaves of the host's session bus: the address in the
environment and the socket at `$XDG_RUNTIME_DIR/bus`. The launcher sets or unsets
the address only when `XDG_RUNTIME_DIR` is set, and mounts whatever the user binds
over the runtime directory's tmpfs, so both depend on the environment and the
binds. `BusGuarded` is the exact condition.
-/

namespace CoderDesktop.Dlp

open Sandbox

/-- The standard path of the session bus. -/
def busFile (xdgRuntime : String) : Path :=
  Path.ofString (xdgRuntime ++ "/bus")

/-- The application has no bus address and no host bus, or those of the proxy. -/
structure BusIsolated (host : Host) (proxy : Option String) (ops : List BwrapOp) : Prop where
  address : environment host.getenv ops "DBUS_SESSION_BUS_ADDRESS" = none ∨
    ∃ xdgRuntime socket file, host.getenv "XDG_RUNTIME_DIR" = some xdgRuntime ∧
      proxy = some socket ∧
      environment host.getenv ops "DBUS_SESSION_BUS_ADDRESS" =
        some ("unix:path=" ++ (xdgRuntime ++ "/bus")) ∧
      backing (mounts ops) (busFile xdgRuntime) = some file ∧ file.path = Path.ofString socket
  /-- The host's file is not at the bus path, unless it is the proxy's socket. -/
  hostBus : ∀ xdgRuntime file, host.getenv "XDG_RUNTIME_DIR" = some xdgRuntime →
    backing (mounts ops) (busFile xdgRuntime) = some file → file.path = busFile xdgRuntime →
    ∃ socket, proxy = some socket ∧ Path.ofString socket = busFile xdgRuntime

/-- The paths bound over the runtime directory's tmpfs, the D-Bus socket aside. -/
def lateBinds (host : Host) (comp : LaunchContext) (config : SandboxConfig) : List String :=
  compositorSockets host comp ++ lockFiles host comp ++ userBinds (some config) ++
    boundX11Sockets comp

/-- When a filtered launch isolates the application from the bus. -/
def BusGuarded (host : Host) (comp : LaunchContext) (config : SandboxConfig)
    (proxy : Option String) : Prop :=
  match host.getenv "XDG_RUNTIME_DIR", proxy with
  | none, _ => host.getenv "DBUS_SESSION_BUS_ADDRESS" = none
  | some xdgRuntime, none =>
      ∀ bound ∈ lateBinds host comp config, ¬ Path.ofString bound <+: busFile xdgRuntime
  | some xdgRuntime, some socket =>
      (xdgRuntime ++ "/bus").toList.length < pathMax ∧
        ∀ bound ∈ boundX11Sockets comp, Path.ofString bound <+: busFile xdgRuntime →
          Path.ofString socket = busFile xdgRuntime

section Address

variable (host : Host) (comp : LaunchContext) (sandbox : Option SandboxConfig)
  (dbusProxySocket : Option String)

/-- What stands in front of the operations for the bus. -/
def beforeDbus : List BwrapOp :=
  rootOps host sandbox ++ runtimeOps comp (host.getenv "XDG_RUNTIME_DIR") ++
    (userBinds sandbox).map bindSelf ++ namespaceOps sandbox ++
    waylandOps comp (host.getenv "XDG_RUNTIME_DIR")

/-- The options before, for and after D-Bus. -/
theorem bwrapOps_eq_dbus :
    bwrapOps host comp sandbox dbusProxySocket =
      beforeDbus host comp sandbox ++
        (dbusOps host dbusProxySocket (host.getenv "XDG_RUNTIME_DIR") ++
          (displayOps comp ++ finalOps)) := by
  simp [bwrapOps, beforeDbus]

/-- The options before D-Bus do not touch the bus address. -/
theorem beforeDbus_unnamed :
    ∀ op ∈ beforeDbus host comp sandbox, op.variable ≠ some "DBUS_SESSION_BUS_ADDRESS" := by
  have root : ∀ op ∈ rootOps host sandbox, op.variable = none := by
    unfold rootOps homeOps
    split
    · split <;> (try split) <;> (try split) <;>
        simp [baseOps, bindSelf, BwrapOp.variable]
    · simp [baseOps, bindSelf, BwrapOp.variable]
  have runtime : ∀ op ∈ runtimeOps comp (host.getenv "XDG_RUNTIME_DIR"), op.variable = none := by
    unfold runtimeOps socketOps
    split <;> (try split) <;> simp [bindSelf, BwrapOp.variable]
  have namespaces : ∀ op ∈ namespaceOps sandbox, op.variable = none := by
    unfold namespaceOps
    split
    · split <;> split <;> split <;> simp [BwrapOp.variable]
    · simp
  intro op member
  simp only [beforeDbus, List.mem_append, List.mem_map] at member
  rcases member with (((member | member) | ⟨path, -, rfl⟩) | member) | member
  · simp [root op member]
  · simp [runtime op member]
  · simp [bindSelf, BwrapOp.variable]
  · simp [namespaces op member]
  · simp only [waylandOps, List.mem_cons, List.mem_map] at member
    rcases member with rfl | ⟨value, -, rfl⟩ <;> simp [BwrapOp.variable]

/-- The options after D-Bus do not touch the bus address. -/
theorem afterDbus_unnamed :
    ∀ op ∈ displayOps comp ++ finalOps, op.variable ≠ some "DBUS_SESSION_BUS_ADDRESS" := by
  unfold displayOps
  split <;> simp [bindSelf, finalOps, BwrapOp.variable]

/-- Only the D-Bus options decide about the bus address. -/
theorem environment_dbus :
    environment host.getenv (bwrapOps host comp sandbox dbusProxySocket)
        "DBUS_SESSION_BUS_ADDRESS" =
      environment (environment host.getenv (beforeDbus host comp sandbox))
        (dbusOps host dbusProxySocket (host.getenv "XDG_RUNTIME_DIR"))
        "DBUS_SESSION_BUS_ADDRESS" := by
  rw [bwrapOps_eq_dbus, environment_append, environment_append,
    environment_of_unnamed (afterDbus_unnamed comp)]

/-- Before D-Bus the address is the host's. -/
theorem environment_beforeDbus :
    environment host.getenv (beforeDbus host comp sandbox) "DBUS_SESSION_BUS_ADDRESS" =
      host.getenv "DBUS_SESSION_BUS_ADDRESS" :=
  environment_of_unnamed (beforeDbus_unnamed host comp sandbox)

end Address

/-! ## The mounts around the bus -/

/-- The mount of a path bound to itself. -/
def selfMount (writable : Bool) (path : String) : Mount :=
  ⟨Path.ofString path, .host (Path.ofString path) writable⟩

/-- Self binds mount what they name. -/
theorem mounts_bindSelf (paths : List String) :
    mounts (paths.map bindSelf) = paths.map (selfMount true) := by
  induction paths with
  | nil => rfl
  | cons path paths inductionHypothesis =>
      simpa [mounts, bindSelf, BwrapOp.mount, selfMount] using inductionHypothesis

/-- The display mounts the X11 socket. -/
theorem mounts_displayOps (comp : LaunchContext) :
    mounts (displayOps comp ++ finalOps) = (boundX11Sockets comp).map (selfMount true) := by
  unfold displayOps boundX11Sockets
  cases comp.xwaylandDisplay <;> rfl

/-- Namespaces mount nothing. -/
theorem mounts_namespaceOps (sandbox : Option SandboxConfig) :
    mounts (namespaceOps sandbox) = [] := by
  unfold namespaceOps
  split
  · split <;> split <;> split <;> rfl
  · rfl

/-- The Wayland variables mount nothing. -/
theorem mounts_waylandOps (comp : LaunchContext) (xdgRuntime : Option String) :
    mounts (waylandOps comp xdgRuntime) = [] := by
  cases xdgRuntime <;> rfl

/-- The sockets are mounted writable and the lock files read-only. -/
theorem mounts_socketOps {host : Host} (comp : LaunchContext) {xdgRuntime : String}
    (isSet : host.getenv "XDG_RUNTIME_DIR" = some xdgRuntime) :
    mounts (socketOps comp xdgRuntime) =
      (compositorSockets host comp).map (selfMount true) ++
        (lockFiles host comp).map (selfMount false) := by
  unfold socketOps compositorSockets lockFiles
  cases comp.socket <;> simp [isSet, mounts, bindSelf, BwrapOp.mount, selfMount]

/-- Every mount over the runtime directory but the bus itself shows the host in place. -/
def lateMounts (host : Host) (comp : LaunchContext) (config : SandboxConfig) : List Mount :=
  (compositorSockets host comp).map (selfMount true) ++
    (lockFiles host comp).map (selfMount false) ++
    (userBinds (some config)).map (selfMount true) ++ (boundX11Sockets comp).map (selfMount true)

/-- Late mounts show a path of the host in its own place. -/
theorem lateMounts_inPlace (host : Host) (comp : LaunchContext) (config : SandboxConfig) :
    ∀ mount ∈ lateMounts host comp config,
      ∃ writable, mount.source = .host mount.target writable := by
  intro mount member
  simp only [lateMounts, List.mem_append, List.mem_map] at member
  rcases member with ((⟨_, -, rfl⟩ | ⟨_, -, rfl⟩) | ⟨_, -, rfl⟩) | ⟨_, -, rfl⟩ <;> exact ⟨_, rfl⟩

/-- A path is covered exactly when it is below a late bind. -/
theorem lateMounts_covers (host : Host) (comp : LaunchContext) (config : SandboxConfig)
    (path : Path) :
    (∃ mount ∈ lateMounts host comp config, mount.target <+: path) ↔
      ∃ bound ∈ lateBinds host comp config, Path.ofString bound <+: path := by
  simp only [lateMounts, lateBinds, List.mem_append, List.mem_map, or_and_right, exists_or]
  simp [selfMount]

/-- The bus is a file of the runtime directory. -/
theorem busFile_eq (xdgRuntime : String) :
    busFile xdgRuntime = Path.ofString xdgRuntime ++ ["bus".toList] := by
  have slash : "/bus" = "/" ++ "bus" := by decide
  rw [busFile, slash, ← String.append_assoc]
  exact Path.ofString_child xdgRuntime "bus" (by decide) (by decide)

/-- A proxy that was started has a socket. -/
theorem dlpStartDbusProxy_ne_empty {host : Host} {start : ProxyStart} {socket : String}
    (started : dlpStartDbusProxy host start = some socket) : socket ≠ "" := by
  unfold dlpStartDbusProxy at started
  split at started
  · cases started
  · split at started
    · cases started
    · split at started
      · cases started
      · split at started
        · obtain rfl := Option.some.inj started
          intro empty
          have short := congrArg (fun text => text.toList.length) empty
          simp [snprintf] at short
        · cases started

/-- The formatted address always fits its buffer. It is the full one exactly when the
path fits. -/
theorem dbusAddr_eq_iff (xdgRuntime : String) :
    dbusAddr xdgRuntime = "unix:path=" ++ (xdgRuntime ++ "/bus") ↔
      (xdgRuntime ++ "/bus").toList.length < pathMax := by
  have fits : dbusAddr xdgRuntime = "unix:path=" ++ dbusPath xdgRuntime := by
    have short : (dbusPath xdgRuntime).toList.length ≤ pathMax - 1 := length_snprintf_le _ _
    have scheme : "unix:path=".toList.length = 10 := by decide
    refine snprintf_eq_self_iff.mpr ?_
    rw [String.toList_append, List.length_append, scheme]
    unfold pathMax at short ⊢
    omega
  rw [fits, ← String.toList_inj, String.toList_append, String.toList_append,
    List.append_cancel_left_eq, String.toList_inj, dbusPath, snprintf_eq_self_iff]
  unfold pathMax
  omega

/-! ## Results -/

/-- Without a runtime directory the launcher leaves the host's address in place. -/
theorem busIsolated_unset {host : Host} (comp : LaunchContext) (config : SandboxConfig)
    (proxy : Option String) (dbusProxySocket : Option String)
    (unset : host.getenv "XDG_RUNTIME_DIR" = none) :
    BusIsolated host proxy (bwrapOps host comp (some config) dbusProxySocket) ↔
      host.getenv "DBUS_SESSION_BUS_ADDRESS" = none := by
  have address : environment host.getenv (bwrapOps host comp (some config) dbusProxySocket)
      "DBUS_SESSION_BUS_ADDRESS" = host.getenv "DBUS_SESSION_BUS_ADDRESS" := by
    rw [environment_dbus, unset, ← environment_beforeDbus host comp (some config)]
    rfl
  constructor
  · rintro ⟨isUnset | ⟨xdgRuntime, _, _, isSet, -⟩, -⟩
    · exact address ▸ isUnset
    · rw [unset] at isSet
      cases isSet
  · intro isUnset
    refine ⟨.inl (address ▸ isUnset), fun xdgRuntime file isSet => ?_⟩
    rw [unset] at isSet
    cases isSet

/-- When the proxy failed, the address is gone and only a late bind can bring the
host's bus back. -/
theorem busIsolated_blocked {host : Host} (comp : LaunchContext) (config : SandboxConfig)
    {xdgRuntime : String} (isSet : host.getenv "XDG_RUNTIME_DIR" = some xdgRuntime) :
    BusIsolated host none (bwrapOps host comp (some config) (some "")) ↔
      ∀ bound ∈ lateBinds host comp config, ¬ Path.ofString bound <+: busFile xdgRuntime := by
  have address : environment host.getenv (bwrapOps host comp (some config) (some ""))
      "DBUS_SESSION_BUS_ADDRESS" = none := by
    rw [environment_dbus, isSet]
    rfl
  have table : mounts (bwrapOps host comp (some config) (some "")) =
      mounts (rootOps host (some config)) ++
        ⟨Path.ofString xdgRuntime, .fresh⟩ :: lateMounts host comp config := by
    have dbus : mounts (dbusOps host (some "") (some xdgRuntime)) = [] := rfl
    have runtime : mounts (runtimeOps comp (some xdgRuntime)) =
        ⟨Path.ofString xdgRuntime, .fresh⟩ :: mounts (socketOps comp xdgRuntime) := rfl
    rw [bwrapOps_eq_dbus, beforeDbus, isSet, mounts_append,
      mounts_append (dbusOps host (some "") (some xdgRuntime)), mounts_displayOps, dbus]
    simp only [mounts_append, mounts_bindSelf, mounts_namespaceOps, mounts_waylandOps,
      runtime, mounts_socketOps comp isSet]
    simp [lateMounts]
  have below : Path.ofString xdgRuntime <+: busFile xdgRuntime := by
    rw [busFile_eq]
    exact List.prefix_append _ _
  have visible := backing_overlay (mounts (rootOps host (some config))) below
    (lateMounts_inPlace host comp config)
  rw [← table, lateMounts_covers] at visible
  constructor
  · rintro ⟨-, hostBus⟩ bound member above
    obtain ⟨file, shows, same⟩ := visible.mpr ⟨bound, member, above⟩
    obtain ⟨socket, started, -⟩ := hostBus xdgRuntime file isSet shows same
    cases started
  · intro guarded
    refine ⟨.inl address, fun other file isOther shows same => ?_⟩
    obtain rfl : xdgRuntime = other := Option.some.inj (isSet.symm.trans isOther)
    obtain ⟨bound, member, above⟩ := visible.mp ⟨file, shows, same⟩
    exact absurd above (guarded bound member)

/-- With a proxy its socket is bound in place of the bus. -/
theorem dbusOps_proxied (host : Host) {socket : String} (nonempty : socket ≠ "")
    (xdgRuntime : String) :
    dbusOps host (some socket) (some xdgRuntime) =
      [.bind .readWrite socket (dbusPath xdgRuntime),
        .setenv "DBUS_SESSION_BUS_ADDRESS" (dbusAddr xdgRuntime)] := by
  simp [dbusOps, busSource, nonempty]

/-- With an untruncated path the proxy's socket is bound at the bus file, where only the
X11 socket can be bound over it. -/
theorem backing_busFile_proxied {host : Host} (comp : LaunchContext) (config : SandboxConfig)
    {xdgRuntime socket : String} (isSet : host.getenv "XDG_RUNTIME_DIR" = some xdgRuntime)
    (nonempty : socket ≠ "") (short : (xdgRuntime ++ "/bus").toList.length < pathMax) :
    ∃ file, backing (mounts (bwrapOps host comp (some config) (some socket)))
        (busFile xdgRuntime) = some file ∧
      ((∃ bound ∈ boundX11Sockets comp, Path.ofString bound <+: busFile xdgRuntime) ∧
          file.path = busFile xdgRuntime ∨
        (∀ bound ∈ boundX11Sockets comp, ¬ Path.ofString bound <+: busFile xdgRuntime) ∧
          file.path = Path.ofString socket) := by
  have target : Path.ofString (dbusPath xdgRuntime) = busFile xdgRuntime := by
    have full : dbusPath xdgRuntime = xdgRuntime ++ "/bus" :=
      snprintf_eq_self_iff.mpr (by omega)
    rw [full, busFile]
  have bus : mounts (dbusOps host (some socket) (some xdgRuntime)) =
      [⟨busFile xdgRuntime, .host (Path.ofString socket) true⟩] := by
    simp [dbusOps_proxied host nonempty, mounts, BwrapOp.mount, target]
  have inPlace : ∀ mount ∈ (boundX11Sockets comp).map (selfMount true),
      ∃ writable, mount.source = .host mount.target writable := by
    intro mount member
    obtain ⟨path, -, rfl⟩ := List.mem_map.mp member
    exact ⟨true, rfl⟩
  rw [bwrapOps_eq_dbus, isSet, mounts_append, mounts_append, bus, mounts_displayOps,
    List.singleton_append]
  simpa [selfMount] using backing_bound (mounts (beforeDbus host comp (some config)))
    (busFile xdgRuntime) (Path.ofString socket) true inPlace

/-- When the proxy runs, its socket is at the bus path unless the path was truncated
or the X11 socket is bound over it. -/
theorem busIsolated_proxied {host : Host} (comp : LaunchContext) (config : SandboxConfig)
    {xdgRuntime socket : String} (isSet : host.getenv "XDG_RUNTIME_DIR" = some xdgRuntime)
    (nonempty : socket ≠ "") :
    BusIsolated host (some socket) (bwrapOps host comp (some config) (some socket)) ↔
      (xdgRuntime ++ "/bus").toList.length < pathMax ∧
        ∀ bound ∈ boundX11Sockets comp, Path.ofString bound <+: busFile xdgRuntime →
          Path.ofString socket = busFile xdgRuntime := by
  have address : environment host.getenv (bwrapOps host comp (some config) (some socket))
      "DBUS_SESSION_BUS_ADDRESS" = some (dbusAddr xdgRuntime) := by
    rw [environment_dbus, isSet, dbusOps_proxied host nonempty]
    rfl
  have shown := backing_busFile_proxied comp config isSet nonempty
  constructor
  · rintro ⟨isUnset | ⟨other, started, file, isOther, same, full, shows, isSocket⟩, -⟩
    · rw [address] at isUnset
      cases isUnset
    · obtain rfl : xdgRuntime = other := Option.some.inj (isSet.symm.trans isOther)
      obtain rfl : socket = started := Option.some.inj same
      rw [address] at full
      have short := (dbusAddr_eq_iff xdgRuntime).mp (Option.some.inj full)
      refine ⟨short, fun bound member above => ?_⟩
      obtain ⟨other, shows', covered | ⟨uncovered, -⟩⟩ := shown short
      · obtain rfl : file = other := Option.some.inj (shows.symm.trans shows')
        exact isSocket.symm.trans covered.2
      · exact absurd above (uncovered bound member)
  · rintro ⟨short, guarded⟩
    obtain ⟨file, shows, covered⟩ := shown short
    have isSocket : file.path = Path.ofString socket := by
      rcases covered with ⟨⟨bound, member, above⟩, same⟩ | ⟨-, same⟩
      · exact same.trans (guarded bound member above).symm
      · exact same
    refine ⟨.inr ⟨xdgRuntime, socket, file, isSet, rfl, ?_, shows, isSocket⟩, ?_⟩
    · rw [address, (dbusAddr_eq_iff xdgRuntime).mpr short]
    · intro other file' isOther shows' same
      obtain rfl : xdgRuntime = other := Option.some.inj (isSet.symm.trans isOther)
      obtain rfl : file = file' := Option.some.inj (shows.symm.trans shows')
      exact ⟨socket, rfl, isSocket.symm.trans same⟩

/-- A filtered launch isolates the application from the host's bus exactly when the
environment and the binds are guarded. -/
theorem coderDlpLaunchApp_isolatesBus_iff (host : Host) (comp : LaunchContext) (command : String)
    (config : SandboxConfig) (start : ProxyStart) (filtered : config.filterDbus = true) :
    (∃ ops, parseBwrap (coderDlpLaunchApp host comp command (some config) start).tail =
        some (ops, ["/bin/sh", "-c", command]) ∧
      BusIsolated host (dlpStartDbusProxy host start) ops) ↔
    BusGuarded host comp config (dlpStartDbusProxy host start) := by
  have parsed := parse_dlpBuildBwrapArgs host comp command (some config)
    (proxySocket host (some config) start)
  have isolated :
      (∃ ops, parseBwrap (coderDlpLaunchApp host comp command (some config) start).tail =
        some (ops, ["/bin/sh", "-c", command]) ∧
      BusIsolated host (dlpStartDbusProxy host start) ops) ↔
      BusIsolated host (dlpStartDbusProxy host start)
        (bwrapOps host comp (some config) (proxySocket host (some config) start)) := by
    simp [coderDlpLaunchApp, parsed]
  rw [isolated]
  unfold BusGuarded
  cases isSet : host.getenv "XDG_RUNTIME_DIR" with
  | none => exact busIsolated_unset comp config _ _ isSet
  | some xdgRuntime =>
      cases started : dlpStartDbusProxy host start with
      | none =>
          have blocked : proxySocket host (some config) start = some "" := by
            simp [proxySocket, filtered, started]
          rw [blocked]
          exact busIsolated_blocked comp config isSet
      | some socket =>
          have proxied : proxySocket host (some config) start = some socket := by
            simp [proxySocket, filtered, started]
          rw [proxied]
          exact busIsolated_proxied comp config isSet (dlpStartDbusProxy_ne_empty started)

/-- The usual failure: the proxy cannot be started, the runtime directory is set. -/
theorem isolatesBus_runtimeInHome :
    ∃ ops, parseBwrap (coderDlpLaunchApp runtimeInHome nestedCompositor "code"
        (some isolatedConfig) ⟨none, false, false, false⟩).tail =
        some (ops, ["/bin/sh", "-c", "code"]) ∧
      BusIsolated runtimeInHome (dlpStartDbusProxy runtimeInHome ⟨none, false, false, false⟩)
        ops := by
  refine (coderDlpLaunchApp_isolatesBus_iff _ _ _ _ _ rfl).mpr ?_
  have away : ∀ bound ∈ lateBinds runtimeInHome nestedCompositor isolatedConfig,
      ¬ Path.ofString bound <+: busFile "/home/u/run" := by
    decide
  exact away

/-- A session that has a bus but no runtime directory. -/
def withoutRuntimeDir : Host where
  getenv name :=
    if name = "HOME" then some "/home/u"
    else if name = "DBUS_SESSION_BUS_ADDRESS" then some "unix:path=/tmp/session-bus"
    else none
  exists_ _ := false
  executable _ := false

/-- The proxy fails, and the application still gets the host's bus address. -/
theorem hostBus_inherited :
    ¬ ∃ ops, parseBwrap (coderDlpLaunchApp withoutRuntimeDir nestedCompositor "code"
        (some isolatedConfig) ⟨none, false, false, false⟩).tail =
        some (ops, ["/bin/sh", "-c", "code"]) ∧
      BusIsolated withoutRuntimeDir
        (dlpStartDbusProxy withoutRuntimeDir ⟨none, false, false, false⟩) ops := by
  rintro ⟨ops, parsed, isUnset | ⟨xdgRuntime, _, _, isSet, -⟩, -⟩
  · rw [coderDlpLaunchApp, parse_dlpBuildBwrapArgs] at parsed
    obtain ⟨rfl, -⟩ := Prod.mk.inj (Option.some.inj parsed)
    have inherited : environment withoutRuntimeDir.getenv
        (bwrapOps withoutRuntimeDir nestedCompositor (some isolatedConfig)
          (proxySocket withoutRuntimeDir (some isolatedConfig) ⟨none, false, false, false⟩))
        "DBUS_SESSION_BUS_ADDRESS" = some "unix:path=/tmp/session-bus" := by
      decide
    rw [inherited] at isUnset
    cases isUnset
  · have unset : withoutRuntimeDir.getenv "XDG_RUNTIME_DIR" = none := by decide
    rw [unset] at isSet
    cases isSet

end CoderDesktop.Dlp
