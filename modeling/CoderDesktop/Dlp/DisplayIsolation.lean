import CoderDesktop.Dlp.DbusIsolation

/-!
# Isolation from the host's displays

A launched application talks to the compositor it was launched on and to no other
display. The host's sockets live in `$XDG_RUNTIME_DIR` and below `/tmp`, which every
launch covers with a tmpfs, isolated or not, so what is left of them is what the
launch binds on purpose. The display variables name the compositor's own sockets,
and these are the host files found at the paths a client connects to.
-/

namespace CoderDesktop.Dlp

open Sandbox

section Shown

variable (host : Host) (comp : LaunchContext) (sandbox : Option SandboxConfig)
  (dbusProxySocket : Option String)

/-- What a launch binds over the runtime directory. -/
def shownPaths : List String :=
  compositorSockets host comp ++ lockFiles host comp ++ userBinds sandbox ++
    boundBuses host dbusProxySocket ++ boundX11Sockets comp

/-- The home directory, when an isolated launch keeps it writable. -/
def boundHomes : List String :=
  match sandbox, host.getenv "HOME" with
  | some config, some home =>
      if config.isolateFilesystem ∧ config.bindHomeRw then [home] else []
  | _, _ => []

/-- The options after the root file system's. -/
def overlayOps : List BwrapOp :=
  (userBinds sandbox).map bindSelf ++ namespaceOps sandbox ++
    waylandOps comp (host.getenv "XDG_RUNTIME_DIR") ++
    dbusOps host dbusProxySocket (host.getenv "XDG_RUNTIME_DIR") ++ displayOps comp ++ finalOps

end Shown

/-! ## Binds -/

section Binds

variable {host : Host} {comp : LaunchContext} {sandbox : Option SandboxConfig}
  {dbusProxySocket : Option String} {mode : BindMode} {src dest : String}

/-- The options for the root, the runtime directory and what follows. -/
theorem bwrapOps_eq_overlay :
    bwrapOps host comp sandbox dbusProxySocket =
      rootOps host sandbox ++ (runtimeOps comp (host.getenv "XDG_RUNTIME_DIR") ++
        overlayOps host comp sandbox dbusProxySocket) := by
  simp [bwrapOps, overlayOps]

/-- What follows binds shown paths only. -/
theorem bind_mem_overlayOps
    (member : .bind mode src dest ∈ overlayOps host comp sandbox dbusProxySocket) :
    dest ∈ shownPaths host comp sandbox dbusProxySocket := by
  simp only [overlayOps, List.mem_append] at member
  simp only [shownPaths, List.mem_append]
  rcases member with ((((user | namespaces) | wayland) | dbus) | display) | final
  · simp only [List.mem_map, bindSelf, BwrapOp.bind.injEq] at user
    obtain ⟨path, bound, -, -, rfl⟩ := user
    simp [bound]
  · unfold namespaceOps at namespaces
    split at namespaces
    · split at namespaces <;> split at namespaces <;> split at namespaces <;> simp at namespaces
    · cases namespaces
  · simp [waylandOps] at wayland
  · simp [bind_mem_dbusOps dbus]
  · simp [bind_mem_displayOps display]
  · simp [finalOps] at final

/-- The runtime directory and what follows bind shown paths only. -/
theorem bind_mem_laterRuntime
    (member : .bind mode src dest ∈ runtimeOps comp (host.getenv "XDG_RUNTIME_DIR") ++
      overlayOps host comp sandbox dbusProxySocket) :
    dest ∈ shownPaths host comp sandbox dbusProxySocket := by
  rcases List.mem_append.mp member with runtime | overlay
  · have shown := bind_mem_runtimeOps runtime
    simp only [shownPaths, List.mem_append]
    tauto
  · exact bind_mem_overlayOps overlay

/-- An isolated home is bound onto itself, if at all. -/
theorem bind_mem_homeOps {config : SandboxConfig} (isolated : config.isolateFilesystem = true)
    (member : .bind mode src dest ∈ homeOps host config) :
    src = dest ∧ dest ∈ boundHomes host (some config) := by
  unfold homeOps at member
  unfold boundHomes
  cases isHome : host.getenv "HOME" with
  | none => simp [isHome] at member
  | some home =>
      cases bound : config.bindHomeRw with
      | false => simp [isHome, bound] at member
      | true =>
          simp only [isHome, bound, if_true, List.mem_singleton, bindSelf,
            BwrapOp.bind.injEq] at member
          obtain ⟨-, rfl, rfl⟩ := member
          simp [isolated, bound]

/-- The root file system is shown in place. -/
theorem bind_mem_baseOps {root : BindMode} (member : .bind mode src dest ∈ baseOps root) :
    src = dest := by
  simp only [baseOps, bindSelf, List.mem_cons, BwrapOp.bind.injEq, reduceCtorEq,
    List.not_mem_nil, or_false, false_or] at member
  rcases member with ⟨-, rfl, rfl⟩ | ⟨-, rfl, rfl⟩ | ⟨-, rfl, rfl⟩ <;> rfl

/-- Every launch starts with the same mounts and covers `/tmp`; the home directory follows
when it is isolated. -/
theorem rootOps_eq (host : Host) (sandbox : Option SandboxConfig) :
    ∃ root home, rootOps host sandbox = baseOps root ++ home ∧
      ∀ mode src dest, .bind mode src dest ∈ home →
        src = dest ∧ dest ∈ boundHomes host sandbox := by
  unfold rootOps
  cases sandbox with
  | none => exact ⟨.readWrite, [], by simp, by simp⟩
  | some config =>
      cases isolated : config.isolateFilesystem with
      | true =>
          exact ⟨.readOnly, homeOps host config, by simp [isolated],
            fun _ _ _ member => bind_mem_homeOps isolated member⟩
      | false => exact ⟨.readWrite, [], by simp [isolated], by simp⟩

end Binds

/-! ## Environment -/

section Variables

variable (host : Host) (comp : LaunchContext) (sandbox : Option SandboxConfig)
  (dbusProxySocket : Option String)

/-- The options before the display's set no variable. -/
theorem mountOps_unnamed (name : String) :
    ∀ op ∈ rootOps host sandbox ++ runtimeOps comp (host.getenv "XDG_RUNTIME_DIR") ++
      (userBinds sandbox).map bindSelf ++ namespaceOps sandbox, op.variable ≠ some name := by
  have root : ∀ op ∈ rootOps host sandbox, op.variable = none := by
    unfold rootOps homeOps
    split
    · split <;> (try split) <;> (try split) <;>
        simp [baseOps, bindSelf, BwrapOp.variable]
    · simp [baseOps, bindSelf, BwrapOp.variable]
  have runtime : ∀ op ∈ runtimeOps comp (host.getenv "XDG_RUNTIME_DIR"), op.variable = none := by
    unfold runtimeOps socketOps
    split <;> (try split) <;> simp [bindSelf, BwrapOp.variable]
  have namespaces : ∀ op ∈ namespaceOps sandbox, op.variable = none := by
    unfold namespaceOps
    split
    · split <;> split <;> split <;> simp [BwrapOp.variable]
    · simp
  intro op member
  simp only [List.mem_append, List.mem_map] at member
  rcases member with ((member | member) | ⟨path, -, rfl⟩) | member
  · simp [root op member]
  · simp [runtime op member]
  · simp [bindSelf, BwrapOp.variable]
  · simp [namespaces op member]

/-- The options for D-Bus set only the bus address. -/
theorem dbusOps_unnamed (xdgRuntime : Option String) {name : String}
    (other : name ≠ "DBUS_SESSION_BUS_ADDRESS") :
    ∀ op ∈ dbusOps host dbusProxySocket xdgRuntime, op.variable ≠ some name := by
  unfold dbusOps
  split
  · split
    · simp [BwrapOp.variable, Ne.symm other]
    · split <;> simp [BwrapOp.variable, Ne.symm other]
  · simp

/-- The environment of the application, in the order the options set it. -/
theorem environment_bwrapOps (name : String) :
    environment host.getenv (bwrapOps host comp sandbox dbusProxySocket) name =
      environment (environment (environment (environment
          (environment host.getenv (rootOps host sandbox ++
            runtimeOps comp (host.getenv "XDG_RUNTIME_DIR") ++
            (userBinds sandbox).map bindSelf ++ namespaceOps sandbox))
          (waylandOps comp (host.getenv "XDG_RUNTIME_DIR")))
        (dbusOps host dbusProxySocket (host.getenv "XDG_RUNTIME_DIR")))
        (displayOps comp)) finalOps name := by
  simp only [bwrapOps, environment_append]

/-- The last options set only their own variable. -/
theorem finalOps_unnamed {name : String} (other : "ELECTRON_NO_SANDBOX" ≠ name) :
    ∀ op ∈ finalOps, op.variable ≠ some name := by
  simpa [finalOps, BwrapOp.variable] using other

/-- `WAYLAND_DISPLAY` names the compositor's socket. -/
theorem environment_waylandDisplay :
    environment host.getenv (bwrapOps host comp sandbox dbusProxySocket) "WAYLAND_DISPLAY" =
      some (comp.socket.getD "wayland-0") := by
  have display : ∀ op ∈ displayOps comp, op.variable ≠ some "WAYLAND_DISPLAY" := by
    unfold displayOps
    split <;> simp [bindSelf, BwrapOp.variable]
  rw [environment_bwrapOps, environment_of_unnamed (finalOps_unnamed (by decide)),
    environment_of_unnamed display, environment_of_unnamed (dbusOps_unnamed _ _ _ (by decide))]
  cases host.getenv "XDG_RUNTIME_DIR" <;> simp [waylandOps, environment, BwrapOp.applyEnv]

/-- `XDG_RUNTIME_DIR` stays the host's. -/
theorem environment_runtimeDir :
    environment host.getenv (bwrapOps host comp sandbox dbusProxySocket) "XDG_RUNTIME_DIR" =
      host.getenv "XDG_RUNTIME_DIR" := by
  have display : ∀ op ∈ displayOps comp, op.variable ≠ some "XDG_RUNTIME_DIR" := by
    unfold displayOps
    split <;> simp [bindSelf, BwrapOp.variable]
  rw [environment_bwrapOps, environment_of_unnamed (finalOps_unnamed (by decide)),
    environment_of_unnamed display, environment_of_unnamed (dbusOps_unnamed _ _ _ (by decide))]
  cases isSet : host.getenv "XDG_RUNTIME_DIR" with
  | some xdgRuntime => simp [waylandOps, environment, BwrapOp.applyEnv]
  | none =>
      have wayland : ∀ op ∈ waylandOps comp none, op.variable ≠ some "XDG_RUNTIME_DIR" := by
        simp [waylandOps, BwrapOp.variable]
      have before := mountOps_unnamed host comp sandbox "XDG_RUNTIME_DIR"
      rw [isSet] at before
      rw [environment_of_unnamed wayland, environment_of_unnamed before, isSet]

/-- Without an Xwayland of its own the application has no X display, whatever the host's
is. -/
theorem environment_display :
    environment host.getenv (bwrapOps host comp sandbox dbusProxySocket) "DISPLAY" =
      comp.xwaylandDisplay := by
  rw [environment_bwrapOps, environment_of_unnamed (finalOps_unnamed (by decide))]
  cases isSet : comp.xwaylandDisplay <;>
    simp [displayOps, isSet, bindSelf, environment, BwrapOp.applyEnv]

end Variables

/-! ## Mounts -/

section Mounts

variable {host : Host} {comp : LaunchContext} {sandbox : Option SandboxConfig}
  {dbusProxySocket : Option String}

/-- The mounts around the fresh runtime directory. -/
theorem mounts_eq_runtime {xdgRuntime : String}
    (isSet : host.getenv "XDG_RUNTIME_DIR" = some xdgRuntime) :
    mounts (bwrapOps host comp sandbox dbusProxySocket) =
      mounts (rootOps host sandbox) ++ ⟨Path.ofString xdgRuntime, .fresh⟩ ::
        mounts (socketOps comp xdgRuntime ++ overlayOps host comp sandbox dbusProxySocket) := by
  rw [bwrapOps_eq_overlay, isSet, mounts_append]
  rfl

/-- The mounts around the fresh `/tmp`. -/
theorem mounts_eq_tmp {root : BindMode} {home : List BwrapOp}
    (starts : rootOps host sandbox = baseOps root ++ home) :
    mounts (bwrapOps host comp sandbox dbusProxySocket) =
      mounts (baseOps root).dropLast ++ ⟨Path.ofString "/tmp", .fresh⟩ ::
        mounts (home ++ (runtimeOps comp (host.getenv "XDG_RUNTIME_DIR") ++
          overlayOps host comp sandbox dbusProxySocket)) := by
  have covers : mounts (baseOps root) =
      mounts (baseOps root).dropLast ++ [⟨Path.ofString "/tmp", .fresh⟩] := by
    have last : baseOps root = (baseOps root).dropLast ++ [.tmpfs "/tmp"] := rfl
    exact (congrArg mounts last).trans (mounts_append _ _)
  rw [bwrapOps_eq_overlay, starts, mounts_append, mounts_append, covers]
  simp

/-- The root file system shows every host file under its own path. -/
theorem rootOps_inPlace :
    ∀ mount ∈ mounts (rootOps host sandbox), ∀ source writable,
      mount.source = .host source writable → source = mount.target := by
  intro mount member source writable shape
  obtain ⟨mode, src, dest, opMember, target, rfl, -⟩ := mem_mounts_host member shape
  obtain ⟨root, home, starts, homes⟩ := rootOps_eq host sandbox
  rw [starts] at opMember
  have inPlace : src = dest := by
    rcases List.mem_append.mp opMember with base | isHome
    · exact bind_mem_baseOps base
    · exact (homes _ _ _ isHome).1
  rw [target, inPlace]

/-- Of the runtime directory only shown paths are visible. -/
theorem hides_runtimeDir {xdgRuntime : String}
    (isSet : host.getenv "XDG_RUNTIME_DIR" = some xdgRuntime) :
    Hides (Path.ofString xdgRuntime)
      ((shownPaths host comp sandbox dbusProxySocket).map Path.ofString)
      (mounts (bwrapOps host comp sandbox dbusProxySocket)) := by
  rw [mounts_eq_runtime isSet]
  refine .of_overlay rootOps_inPlace fun mount member source writable shape => ?_
  obtain ⟨mode, src, dest, opMember, target, -, -⟩ := mem_mounts_host member shape
  have later : .bind mode src dest ∈ runtimeOps comp (host.getenv "XDG_RUNTIME_DIR") ++
      overlayOps host comp sandbox dbusProxySocket := by
    rw [isSet]
    exact List.mem_cons_of_mem _ opMember
  exact ⟨_, List.mem_map_of_mem (bind_mem_laterRuntime later), target ▸ List.prefix_refl _⟩

/-- Of `/tmp` only shown paths and a bound home are visible. -/
theorem hides_tmp :
    Hides (Path.ofString "/tmp")
      ((shownPaths host comp sandbox dbusProxySocket ++ boundHomes host sandbox).map Path.ofString)
      (mounts (bwrapOps host comp sandbox dbusProxySocket)) := by
  obtain ⟨root, home, starts, homes⟩ := rootOps_eq host sandbox
  rw [mounts_eq_tmp starts]
  refine .of_overlay (fun mount member source writable shape => ?_)
    fun mount member source writable shape => ?_
  · obtain ⟨mode, src, dest, opMember, target, rfl, -⟩ := mem_mounts_host member shape
    rw [target, bind_mem_baseOps (List.mem_of_mem_dropLast opMember)]
  · obtain ⟨mode, src, dest, opMember, target, -, -⟩ := mem_mounts_host member shape
    have bound : dest ∈
        shownPaths host comp sandbox dbusProxySocket ++ boundHomes host sandbox := by
      rcases List.mem_append.mp opMember with isHome | later
      · exact List.mem_append_right _ (homes _ _ _ isHome).2
      · exact List.mem_append_left _ (bind_mem_laterRuntime later)
    exact ⟨_, List.mem_map_of_mem bound, target ▸ List.prefix_refl _⟩

end Mounts

/-- Bubblewrap reads the launcher's vector as options that hide the runtime directory and
`/tmp` of the host, up to what the launch binds there, and leave the application the
displays of its compositor alone. -/
theorem dlpBuildBwrapArgs_hidesDisplays (host : Host) (comp : LaunchContext) (command : String)
    (sandbox : Option SandboxConfig) (dbusProxySocket : Option String) :
    ∃ ops, parseBwrap (dlpBuildBwrapArgs host comp command sandbox dbusProxySocket).tail =
        some (ops, ["/bin/sh", "-c", command]) ∧
      (∀ xdgRuntime, host.getenv "XDG_RUNTIME_DIR" = some xdgRuntime →
        Hides (Path.ofString xdgRuntime)
          ((shownPaths host comp sandbox dbusProxySocket).map Path.ofString) (mounts ops)) ∧
      Hides (Path.ofString "/tmp")
        ((shownPaths host comp sandbox dbusProxySocket ++ boundHomes host sandbox).map
          Path.ofString) (mounts ops) ∧
      environment host.getenv ops "WAYLAND_DISPLAY" = some (comp.socket.getD "wayland-0") ∧
      environment host.getenv ops "DISPLAY" = comp.xwaylandDisplay ∧
      environment host.getenv ops "XDG_RUNTIME_DIR" = host.getenv "XDG_RUNTIME_DIR" :=
  ⟨_, parse_dlpBuildBwrapArgs host comp command sandbox dbusProxySocket,
    fun _ isSet => hides_runtimeDir isSet, hides_tmp,
    environment_waylandDisplay host comp sandbox dbusProxySocket,
    environment_display host comp sandbox dbusProxySocket,
    environment_runtimeDir host comp sandbox dbusProxySocket⟩

/-! ## The compositor's own displays -/

/-- `sizeof(sockaddr_un.sun_path)`: the path of a socket is shorter. -/
def sunPathMax : Nat := 108

/-- The names `wl_display_add_socket_auto` chooses. -/
def autoSocket (number : Nat) : String :=
  "wayland-" ++ toString number

/-- The socket an X client connects to for a display. -/
def xClientSocket (display : String) : String :=
  "/tmp/.X11-unix/X" ++ displayNum display

/-- What clients find in the sandbox at the paths their environment sends them to. -/
structure DisplaysReached (host : Host) (ops : List BwrapOp) : Prop where
  wayland : ∀ xdgRuntime name, environment host.getenv ops "XDG_RUNTIME_DIR" = some xdgRuntime →
    environment host.getenv ops "WAYLAND_DISPLAY" = some name →
    backing (mounts ops) (Path.ofString (xdgRuntime ++ "/" ++ name)) =
      some ⟨Path.ofString (xdgRuntime ++ "/" ++ name), true⟩
  x11 : ∀ display, environment host.getenv ops "DISPLAY" = some display →
    backing (mounts ops) (Path.ofString (xClientSocket display)) =
      some ⟨Path.ofString (xClientSocket display), true⟩

/-- An automatic socket name has no slash. -/
theorem autoSocket_plain (number : Nat) : '/' ∉ (autoSocket number).toList := by
  intro member
  rw [autoSocket, String.toList_append, List.mem_append] at member
  rcases member with fixed | digit
  · revert fixed
    decide
  · rw [Nat.toString_eq_ofList_toDigits, String.toList_ofList] at digit
    have isDigit := Nat.isDigit_of_mem_toDigits (by decide) (Nat.le_refl 10) digit
    revert isDigit
    decide

/-- An automatic socket name has at least eight letters. -/
theorem autoSocket_length (number : Nat) : 8 ≤ (autoSocket number).toList.length := by
  rw [autoSocket, String.toList_append, List.length_append]
  have fixed : "wayland-".toList.length = 8 := by decide
  omega

/-- A name longer than `..` that holds no slash is one component. -/
theorem ofString_component (directory : String) {name : String} (plain : '/' ∉ name.toList)
    (long : 2 < name.toList.length) :
    Path.ofString (directory ++ "/" ++ name) = Path.ofString directory ++ [name.toList] := by
  refine Path.ofString_child directory name plain ⟨?_, ?_, ?_⟩ <;> intro same <;>
    simp [same] at long

section Reached

variable {host : Host} {comp : LaunchContext} {sandbox : Option SandboxConfig}
  {dbusProxySocket : Option String} {xdgRuntime : String}

/-- The mounts of the user's binds, the bus and the X11 socket. -/
theorem mounts_overlayOps :
    mounts (overlayOps host comp sandbox dbusProxySocket) =
      (userBinds sandbox).map (selfMount true) ++
        (mounts (dbusOps host dbusProxySocket (host.getenv "XDG_RUNTIME_DIR")) ++
          (boundX11Sockets comp).map (selfMount true)) := by
  simp only [overlayOps, List.append_assoc, mounts_append, mounts_bindSelf, mounts_namespaceOps,
    mounts_waylandOps, List.nil_append]
  rw [← mounts_displayOps, mounts_append]

/-- The session bus is mounted at its standard path or not at all. -/
theorem mem_mounts_dbusOps {mount : Mount}
    (member : mount ∈ mounts (dbusOps host dbusProxySocket (some xdgRuntime))) :
    mount.target = Path.ofString (dbusPath xdgRuntime) := by
  obtain ⟨op, opMember, made⟩ := List.mem_filterMap.mp member
  unfold dbusOps at opMember
  simp only at opMember
  split at opMember
  · simp only [List.mem_cons, List.not_mem_nil, or_false] at opMember
    rcases opMember with rfl | rfl
    · obtain rfl := Option.some.inj made
      rfl
    · cases made
  · split at opMember
    · obtain rfl := List.mem_singleton.mp opMember
      cases made
    · cases opMember

/-- Sibling files below one directory are not above one another. -/
theorem sibling_not_above {directory other : String} {name : String}
    (plain : '/' ∉ name.toList) (otherPlain : '/' ∉ other.toList)
    (long : 2 < name.toList.length) (otherLong : 2 < other.toList.length)
    (different : other ≠ name) :
    ¬ Path.ofString (directory ++ "/" ++ other) <+: Path.ofString (directory ++ "/" ++ name) := by
  rw [ofString_component directory plain long, ofString_component directory otherPlain otherLong]
  intro above
  have same := (List.append_cancel_left_eq ..).mp (above.eq_of_length (by simp))
  exact different (String.toList_inj.mp (List.cons.inj same).1)

/-- Two paths in the runtime directory that the launcher does not cut off. -/
theorem socketPath_of_short {name : String}
    (short : (xdgRuntime ++ "/" ++ name).toList.length < sunPathMax) :
    socketPath xdgRuntime name = xdgRuntime ++ "/" ++ name ∧
      lockPath xdgRuntime name = xdgRuntime ++ "/" ++ (name ++ ".lock") := by
  unfold sunPathMax at short
  constructor
  · refine snprintf_eq_self_iff.mpr ?_
    unfold pathMax
    omega
  · rw [← String.append_assoc]
    refine snprintf_eq_self_iff.mpr ?_
    have suffixLength : ".lock".toList.length = 5 := by decide
    rw [String.toList_append, List.length_append, suffixLength]
    unfold pathMax
    omega

/-- A short runtime directory's bus path is not cut. -/
theorem dbusPath_of_short (short : xdgRuntime.toList.length < sunPathMax) :
    dbusPath xdgRuntime = xdgRuntime ++ "/" ++ "bus" := by
  have slash : "/" ++ "bus" = "/bus" := by decide
  rw [String.append_assoc, slash]
  refine snprintf_eq_self_iff.mpr ?_
  have busLength : "/bus".toList.length = 4 := by decide
  rw [String.toList_append, List.length_append, busLength]
  unfold sunPathMax at short
  unfold pathMax
  omega

/-- Neither the lock file nor the session bus is mounted above the socket. -/
theorem not_above_waylandSocket (number : Nat) {other : String}
    (among : other = autoSocket number ++ ".lock" ∨ other = "bus") :
    ¬ Path.ofString (xdgRuntime ++ "/" ++ other) <+:
      Path.ofString (xdgRuntime ++ "/" ++ autoSocket number) := by
  have long := autoSocket_length number
  have plain := autoSocket_plain number
  rcases among with rfl | rfl
  · refine sibling_not_above plain ?_ (by omega) ?_ ?_
    · rw [String.toList_append, List.mem_append, not_or]
      exact ⟨plain, by decide⟩
    · rw [String.toList_append, List.length_append]
      omega
    · intro same
      have lengths := congrArg (fun text : String => text.toList.length) same
      simp [String.toList_append] at lengths
  · refine sibling_not_above plain (by decide) (by omega) (by decide) ?_
    intro same
    rw [← same] at long
    revert long
    decide

/-- The compositor's own socket is the host file at the path Wayland clients connect to. -/
theorem backing_waylandSocket {number : Nat}
    (isSet : host.getenv "XDG_RUNTIME_DIR" = some xdgRuntime)
    (named : comp.socket = some (autoSocket number))
    (short : (xdgRuntime ++ "/" ++ autoSocket number).toList.length < sunPathMax) :
    backing (mounts (bwrapOps host comp sandbox dbusProxySocket))
        (Path.ofString (xdgRuntime ++ "/" ++ autoSocket number)) =
      some ⟨Path.ofString (xdgRuntime ++ "/" ++ autoSocket number), true⟩ := by
  obtain ⟨socket, lock⟩ := socketPath_of_short short
  have bus : dbusPath xdgRuntime = xdgRuntime ++ "/" ++ "bus" := by
    refine dbusPath_of_short (Nat.lt_of_le_of_lt ?_ short)
    rw [String.append_assoc, String.toList_append, List.length_append]
    exact Nat.le_add_right _ _
  have table : mounts (bwrapOps host comp sandbox dbusProxySocket) =
      (mounts (rootOps host sandbox) ++ [⟨Path.ofString xdgRuntime, .fresh⟩]) ++
        selfMount true (xdgRuntime ++ "/" ++ autoSocket number) ::
          (selfMount false (xdgRuntime ++ "/" ++ (autoSocket number ++ ".lock")) ::
            mounts (overlayOps host comp sandbox dbusProxySocket)) := by
    rw [mounts_eq_runtime isSet, ← lock, ← socket, mounts_append]
    simp [socketOps, named, mounts, BwrapOp.mount, bindSelf, selfMount]
  rw [table]
  refine backing_kept _ (List.prefix_refl _) fun mount member above => ?_
  rw [mounts_overlayOps, isSet] at member
  simp only [List.mem_cons, List.mem_append, List.mem_map] at member
  rcases member with rfl | ⟨path, -, rfl⟩ | isBus | ⟨path, -, rfl⟩
  · exact absurd above (not_above_waylandSocket number (.inl rfl))
  · rfl
  · rw [mem_mounts_dbusOps isBus, bus] at above
    exact absurd above (not_above_waylandSocket number (.inr rfl))
  · rfl

/-- The socket of the compositor's Xwayland is mounted last. -/
theorem backing_x11Socket {display : String} (isSet : comp.xwaylandDisplay = some display) :
    backing (mounts (bwrapOps host comp sandbox dbusProxySocket))
        (Path.ofString (x11Socket display)) = some ⟨Path.ofString (x11Socket display), true⟩ := by
  rw [bwrapOps_eq_dbus, mounts_append, mounts_append, mounts_displayOps, ← List.append_assoc]
  have last : (boundX11Sockets comp).map (selfMount true) =
      [⟨Path.ofString (x11Socket display), .host (Path.ofString (x11Socket display)) true⟩] := by
    simp [boundX11Sockets, isSet, selfMount]
  rw [last]
  exact backing_kept _ (List.prefix_refl _) (by simp)

end Reached

/-- Every Wayland client of the sandbox reaches the compositor it was launched on, and
every X client the compositor's Xwayland. -/
theorem dlpBuildBwrapArgs_reachesDisplays (host : Host) (comp : LaunchContext) (command : String)
    (sandbox : Option SandboxConfig) (dbusProxySocket : Option String) (number : Nat)
    (named : comp.socket = some (autoSocket number))
    (short : ∀ xdgRuntime, host.getenv "XDG_RUNTIME_DIR" = some xdgRuntime →
      (xdgRuntime ++ "/" ++ autoSocket number).toList.length < sunPathMax)
    (shortX11 : ∀ display ∈ comp.xwaylandDisplay,
      (xClientSocket display).toList.length < sunPathMax) :
    ∃ ops, parseBwrap (dlpBuildBwrapArgs host comp command sandbox dbusProxySocket).tail =
        some (ops, ["/bin/sh", "-c", command]) ∧ DisplaysReached host ops := by
  refine ⟨_, parse_dlpBuildBwrapArgs host comp command sandbox dbusProxySocket, ⟨?_, ?_⟩⟩
  · intro xdgRuntime name isSet isName
    rw [environment_runtimeDir] at isSet
    rw [environment_waylandDisplay, named] at isName
    obtain rfl : autoSocket number = name := Option.some.inj isName
    exact backing_waylandSocket isSet named (short xdgRuntime isSet)
  · intro display isSet
    rw [environment_display] at isSet
    have fits : x11Socket display = xClientSocket display := by
      have length := shortX11 display isSet
      unfold sunPathMax at length
      refine snprintf_eq_self_iff.mpr ?_
      unfold pathMax
      exact Nat.le_of_lt (Nat.lt_trans length (by decide))
    rw [← fits]
    exact backing_x11Socket isSet

/-- A nested compositor with its Xwayland running. -/
def bothDisplays : LaunchContext where
  socket := some (autoSocket 1)
  xwaylandDisplay := some ":7"

/-- A launch that reaches both displays. -/
theorem reachesDisplays_bothDisplays :
    ∃ ops, parseBwrap
        (dlpBuildBwrapArgs runtimeInHome bothDisplays "code" (some isolatedConfig)
          (some "")).tail = some (ops, ["/bin/sh", "-c", "code"]) ∧
      DisplaysReached runtimeInHome ops :=
  dlpBuildBwrapArgs_reachesDisplays _ _ _ _ _ 1 rfl
    (fun xdgRuntime isSet => by
      obtain rfl : "/home/u/run" = xdgRuntime := Option.some.inj isSet
      decide)
    (fun display isSet => by
      obtain rfl : ":7" = display := Option.some.inj isSet
      decide)

end CoderDesktop.Dlp
