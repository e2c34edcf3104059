import CoderDesktop.Dlp.SandboxOps

/-!
# What the command line says

The operations the launcher means to ask of bubblewrap, written with the paths
themselves instead of what `snprintf` leaves of them, and the option words of the
vector. `CommandShape` records which inputs are given and no text of theirs, so
words computed from it cannot be reached by an input.
-/

namespace CoderDesktop.Sandbox.BwrapOp

/-- The word that stands in option position. -/
def option : BwrapOp → String
  | .bind .readOnly _ _ => "--ro-bind"
  | .bind .readWrite _ _ => "--bind"
  | .bind .device _ _ => "--dev-bind"
  | .dev _ => "--dev"
  | .proc _ => "--proc"
  | .tmpfs _ => "--tmpfs"
  | .unsharePid => "--unshare-pid"
  | .unshareIpc => "--unshare-ipc"
  | .unshareNet => "--unshare-net"
  | .setenv _ _ => "--setenv"
  | .unsetenv _ => "--unsetenv"
  | .dieWithParent => "--die-with-parent"
  | .newSession => "--new-session"

/-- The words after it that belong to it. -/
def operands : BwrapOp → List String
  | .bind _ src dest => [src, dest]
  | .dev dest | .proc dest | .tmpfs dest => [dest]
  | .setenv name value => [name, value]
  | .unsetenv name => [name]
  | .unsharePid | .unshareIpc | .unshareNet | .dieWithParent | .newSession => []

/-- An option is its word and its operands. -/
theorem render_eq (op : BwrapOp) : op.render = op.option :: op.operands := by
  cases op with
  | bind mode src dest => cases mode <;> rfl
  | _ => rfl

end CoderDesktop.Sandbox.BwrapOp

namespace CoderDesktop.Dlp

open Sandbox

/-! ## The intended operations -/

/-- What is to become of the home directory. -/
def intendedHome (host : Host) (sandbox : Option SandboxConfig) : List BwrapOp :=
  if sandbox.any (·.isolateFilesystem) then
    (host.getenv "HOME").toList.map fun home =>
      if sandbox.any (·.bindHomeRw) then bindSelf home else .tmpfs home
  else
    []

/-- A fresh runtime directory with the compositor's socket and its lock file. -/
def intendedRuntime (comp : LaunchContext) (runtime : String) : List BwrapOp :=
  .tmpfs runtime :: comp.socket.toList.flatMap fun socket =>
    [bindSelf (runtime ++ "/" ++ socket),
      .bind .readOnly (runtime ++ "/" ++ socket ++ ".lock") (runtime ++ "/" ++ socket ++ ".lock")]

/-- What is to become of the session bus, in the runtime directory. -/
def intendedBus (host : Host) (dbusProxySocket : Option String) (runtime : String) :
    List BwrapOp :=
  let bus := runtime ++ "/bus"
  let address := BwrapOp.setenv "DBUS_SESSION_BUS_ADDRESS" ("unix:path=" ++ bus)
  match dbusProxySocket with
  | some "" => [.unsetenv "DBUS_SESSION_BUS_ADDRESS"]
  | some socket => [.bind .readWrite socket bus, address]
  | none => if host.exists_ bus then [bindSelf bus, address] else []

/-- What is to become of the X11 display. -/
def intendedDisplay : Option String → List BwrapOp
  | some display =>
      let socket := "/tmp/.X11-unix/X" ++ displayNum display
      [.setenv "DISPLAY" display, bindSelf socket,
        .setenv "ELECTRON_OZONE_PLATFORM_HINT" "wayland", .setenv "MOZ_ENABLE_WAYLAND" "1"]
  | none =>
      [.unsetenv "DISPLAY", .setenv "GDK_BACKEND" "wayland", .setenv "QT_QPA_PLATFORM" "wayland",
        .setenv "SDL_VIDEODRIVER" "wayland"]

/-- What the sandbox of a launch is made of, in order. -/
def intendedOps (host : Host) (comp : LaunchContext) (sandbox : Option SandboxConfig)
    (dbusProxySocket : Option String) : List BwrapOp :=
  let runtime := host.getenv "XDG_RUNTIME_DIR"
  baseOps (if sandbox.any (·.isolateFilesystem) then .readOnly else .readWrite) ++
    intendedHome host sandbox ++
    runtime.toList.flatMap (intendedRuntime comp) ++
    (userBinds sandbox).map bindSelf ++
    namespaceOps sandbox ++
    waylandOps comp runtime ++
    runtime.toList.flatMap (intendedBus host dbusProxySocket) ++
    intendedDisplay comp.xwaylandDisplay ++
    finalOps

/-- Every path the launcher formats fits its buffer of `PATH_MAX` bytes. -/
structure Untruncated (host : Host) (comp : LaunchContext) : Prop where
  socket : ∀ runtime ∈ host.getenv "XDG_RUNTIME_DIR", ∀ socket ∈ comp.socket,
    (runtime ++ "/" ++ socket ++ ".lock").toList.length < pathMax
  bus : ∀ runtime ∈ host.getenv "XDG_RUNTIME_DIR", (runtime ++ "/bus").toList.length < pathMax
  display : ∀ display ∈ comp.xwaylandDisplay,
    ("/tmp/.X11-unix/X" ++ displayNum display).toList.length < pathMax

/-- A text that fits is not cut. -/
theorem snprintf_of_lt {size : Nat} {text : String} (fits : text.toList.length < size) :
    snprintf size text = text :=
  snprintf_eq_self_iff.mpr (Nat.le_sub_one_of_lt fits)

section Intended

variable {host : Host} {comp : LaunchContext} (sandbox : Option SandboxConfig)
  (dbusProxySocket : Option String)

/-- The root is bound as intended. -/
theorem rootOps_eq_intended : rootOps host sandbox =
    baseOps (if sandbox.any (·.isolateFilesystem) then .readOnly else .readWrite) ++
      intendedHome host sandbox := by
  cases sandbox with
  | none => rfl
  | some config =>
      cases isolated : config.isolateFilesystem with
      | false => simp [rootOps, intendedHome, isolated]
      | true =>
          cases home : host.getenv "HOME" <;>
            simp [rootOps, homeOps, intendedHome, isolated, home]
          split <;> rfl

/-- The sockets are bound as intended, if their names fit. -/
theorem socketOps_eq_intended (fits : Untruncated host comp) {runtime : String}
    (given : runtime ∈ host.getenv "XDG_RUNTIME_DIR") :
    .tmpfs runtime :: socketOps comp runtime = intendedRuntime comp runtime := by
  cases connected : comp.socket with
  | none => simp [socketOps, intendedRuntime, connected]
  | some socket =>
      have lockFits := fits.socket runtime given socket (by simp [connected])
      have socketFits : (runtime ++ "/" ++ socket).toList.length < pathMax := by
        simp only [String.toList_append, List.length_append] at lockFits ⊢
        omega
      simp only [socketOps, intendedRuntime, connected, socketPath, lockPath,
        snprintf_of_lt lockFits, snprintf_of_lt socketFits]
      rfl

/-- The bus is bound as intended, if its path fits. -/
theorem dbusOps_eq_intended (fits : Untruncated host comp) {runtime : String}
    (given : runtime ∈ host.getenv "XDG_RUNTIME_DIR") :
    dbusOps host dbusProxySocket (some runtime) = intendedBus host dbusProxySocket runtime := by
  have busFits := fits.bus runtime given
  have addressFits : ("unix:path=" ++ (runtime ++ "/bus")).toList.length < pathMax + 32 := by
    rw [String.toList_append, List.length_append]
    have prefixLength : "unix:path=".toList.length = 10 := by decide
    omega
  have path : dbusPath runtime = runtime ++ "/bus" := snprintf_of_lt busFits
  have address : dbusAddr runtime = "unix:path=" ++ (runtime ++ "/bus") := by
    rw [dbusAddr, path, snprintf_of_lt addressFits]
  cases dbusProxySocket with
  | none =>
      simp only [dbusOps, busSource, intendedBus, path, address]
      cases host.exists_ (runtime ++ "/bus") <;> rfl
  | some socket =>
      by_cases failed : socket = ""
      · subst failed
        rfl
      · simp only [dbusOps, busSource, intendedBus, path, address, if_pos failed]

/-- The display is bound as intended, if its socket's name fits. -/
theorem displayOps_eq_intended (fits : Untruncated host comp) :
    displayOps comp = intendedDisplay comp.xwaylandDisplay := by
  unfold displayOps intendedDisplay
  cases running : comp.xwaylandDisplay with
  | none => rfl
  | some display =>
      have path : x11Socket display = "/tmp/.X11-unix/X" ++ displayNum display :=
        snprintf_of_lt (fits.display display (by simp [running]))
      simp only [path]

/-- Without truncation the vector stands for the intended operations. -/
theorem bwrapOps_eq_intended (fits : Untruncated host comp) :
    bwrapOps host comp sandbox dbusProxySocket =
      intendedOps host comp sandbox dbusProxySocket := by
  simp only [bwrapOps, intendedOps, rootOps_eq_intended, displayOps_eq_intended fits]
  cases given : host.getenv "XDG_RUNTIME_DIR" with
  | none => rfl
  | some runtime =>
      simp only [runtimeOps, socketOps_eq_intended fits given,
        dbusOps_eq_intended dbusProxySocket fits given, Option.toList_some,
        List.flatMap_singleton]

end Intended

/-! ## Words in option position -/

/-- Whether the sandbox gets a session bus. -/
inductive BusShape where
  | untouched
  | bound
  | unset
deriving DecidableEq, Repr

/-- The option words for the bus. -/
def BusShape.words : BusShape → List String
  | .untouched => []
  | .bound => ["--bind", "--setenv"]
  | .unset => ["--unsetenv"]

/-- Which inputs of a launch are given. -/
structure CommandShape where
  isolated : Bool
  /-- `$HOME` is set, and whether it is bound. -/
  home : Option Bool
  runtime : Bool
  socket : Bool
  userBinds : Nat
  unsharePid : Bool
  unshareIpc : Bool
  unshareNet : Bool
  bus : BusShape
  display : Bool
deriving DecidableEq, Repr

/-- What is done about the bus, from the environment and the proxy. -/
def busShape (host : Host) (dbusProxySocket : Option String) : BusShape :=
  match host.getenv "XDG_RUNTIME_DIR" with
  | none => .untouched
  | some runtime =>
      match dbusProxySocket with
      | some socket => if socket ≠ "" then .bound else .unset
      | none => if host.exists_ (runtime ++ "/bus") then .bound else .untouched

/-- What decides which words the command line has. -/
def commandShape (host : Host) (comp : LaunchContext) (sandbox : Option SandboxConfig)
    (dbusProxySocket : Option String) : CommandShape where
  isolated := sandbox.any (·.isolateFilesystem)
  home := (host.getenv "HOME").map fun _ => sandbox.any (·.bindHomeRw)
  runtime := (host.getenv "XDG_RUNTIME_DIR").isSome
  socket := comp.socket.isSome
  userBinds := (userBinds sandbox).length
  unsharePid := sandbox.any (·.isolatePid)
  unshareIpc := sandbox.any (·.isolateIpc)
  unshareNet := sandbox.any (·.networkNamespace.isSome)
  bus := busShape host dbusProxySocket
  display := comp.xwaylandDisplay.isSome

namespace CommandShape

/-- The words in option position, in order. -/
def optionWords (shape : CommandShape) : List String :=
  [if shape.isolated then "--ro-bind" else "--bind", "--dev", "--dev-bind", "--bind", "--proc",
    "--tmpfs"] ++
  (if shape.isolated then
    shape.home.toList.map fun bound => if bound then "--bind" else "--tmpfs" else []) ++
  (if shape.runtime then
    "--tmpfs" :: (if shape.socket then ["--bind", "--ro-bind"] else []) else []) ++
  List.replicate shape.userBinds "--bind" ++
  (if shape.unsharePid then ["--unshare-pid"] else []) ++
  (if shape.unshareIpc then ["--unshare-ipc"] else []) ++
  (if shape.unshareNet then ["--unshare-net"] else []) ++
  "--setenv" :: (if shape.runtime then ["--setenv"] else []) ++
  shape.bus.words ++
  (if shape.display then ["--setenv", "--bind", "--setenv", "--setenv"]
    else ["--unsetenv", "--setenv", "--setenv", "--setenv"]) ++
  ["--setenv", "--die-with-parent", "--new-session"]

end CommandShape

section OptionWords

variable (host : Host) (comp : LaunchContext) (sandbox : Option SandboxConfig)
  (dbusProxySocket : Option String)

/-- The option words for the home. -/
theorem options_intendedHome : (intendedHome host sandbox).map BwrapOp.option =
    if sandbox.any (·.isolateFilesystem) then
      ((host.getenv "HOME").map fun _ => sandbox.any (·.bindHomeRw)).toList.map fun bound =>
        if bound then "--bind" else "--tmpfs"
    else [] := by
  unfold intendedHome
  split
  · cases host.getenv "HOME" with
    | none => rfl
    | some home => cases sandbox.any (·.bindHomeRw) <;> rfl
  · rfl

/-- The option words for the runtime directory. -/
theorem options_intendedRuntime (runtime : Option String) :
    (runtime.toList.flatMap (intendedRuntime comp)).map BwrapOp.option =
      if runtime.isSome then
        "--tmpfs" :: (if comp.socket.isSome then ["--bind", "--ro-bind"] else [])
      else [] := by
  cases runtime with
  | none => rfl
  | some runtime => cases connected : comp.socket <;> simp [intendedRuntime, connected, bindSelf,
      BwrapOp.option]

/-- The option words for binds. -/
theorem options_binds (paths : List String) :
    (paths.map bindSelf).map BwrapOp.option = List.replicate paths.length "--bind" := by
  induction paths with
  | nil => rfl
  | cons path paths inductionHypothesis =>
      simp only [List.map_cons, inductionHypothesis, List.length_cons, List.replicate_succ]
      rfl

/-- The option words for the namespaces. -/
theorem options_namespaceOps : (namespaceOps sandbox).map BwrapOp.option =
    (if sandbox.any (·.isolatePid) then ["--unshare-pid"] else []) ++
      (if sandbox.any (·.isolateIpc) then ["--unshare-ipc"] else []) ++
      (if sandbox.any (·.networkNamespace.isSome) then ["--unshare-net"] else []) := by
  cases sandbox with
  | none => rfl
  | some config =>
      cases pid : config.isolatePid <;> cases ipc : config.isolateIpc <;>
        cases net : config.networkNamespace <;>
        simp [namespaceOps, pid, ipc, net, BwrapOp.option]

/-- The option words for Wayland. -/
theorem options_waylandOps (runtime : Option String) :
    (waylandOps comp runtime).map BwrapOp.option =
      "--setenv" :: (if runtime.isSome then ["--setenv"] else []) := by
  cases runtime <;> rfl

/-- The option words for the bus. -/
theorem options_intendedBus :
    ((host.getenv "XDG_RUNTIME_DIR").toList.flatMap (intendedBus host dbusProxySocket)).map
        BwrapOp.option =
      (busShape host dbusProxySocket).words := by
  unfold busShape
  cases host.getenv "XDG_RUNTIME_DIR" with
  | none => rfl
  | some runtime =>
      cases dbusProxySocket with
      | none =>
          simp only [Option.toList_some, List.flatMap_singleton, intendedBus]
          cases host.exists_ (runtime ++ "/bus") <;> rfl
      | some socket =>
          by_cases failed : socket = ""
          · subst failed
            rfl
          · simp [intendedBus, failed, BwrapOp.option, BusShape.words]

/-- The option words for the display. -/
theorem options_intendedDisplay (display : Option String) :
    (intendedDisplay display).map BwrapOp.option =
      if display.isSome then ["--setenv", "--bind", "--setenv", "--setenv"]
      else ["--unsetenv", "--setenv", "--setenv", "--setenv"] := by
  cases display <;> rfl

/-- The words in option position depend on no text of an input. -/
theorem options_intendedOps :
    (intendedOps host comp sandbox dbusProxySocket).map BwrapOp.option =
      (commandShape host comp sandbox dbusProxySocket).optionWords := by
  have base : ∀ isolated : Bool,
      (baseOps (if isolated then .readOnly else .readWrite)).map BwrapOp.option =
        [if isolated then "--ro-bind" else "--bind", "--dev", "--dev-bind", "--bind", "--proc",
          "--tmpfs"] :=
    fun isolated => by cases isolated <;> rfl
  have final : finalOps.map BwrapOp.option = ["--setenv", "--die-with-parent", "--new-session"] :=
    rfl
  simp only [intendedOps, List.map_append, base, final, options_intendedHome,
    options_intendedRuntime, options_binds, options_namespaceOps, options_waylandOps,
    options_intendedBus, options_intendedDisplay, CommandShape.optionWords, commandShape,
    List.append_assoc, List.cons_append]
  rfl

end OptionWords

/-- What bubblewrap reads from the launcher's vector: the intended operations and
the shell command. The vector is the option words, each followed by its operands,
and the option words are chosen by the shape of the launch. -/
theorem dlpBuildBwrapArgs_reads_as_intended (host : Host) (comp : LaunchContext)
    (command : String) (sandbox : Option SandboxConfig) (dbusProxySocket : Option String)
    (fits : Untruncated host comp) :
    parseBwrap (dlpBuildBwrapArgs host comp command sandbox dbusProxySocket).tail =
        some (intendedOps host comp sandbox dbusProxySocket, ["/bin/sh", "-c", command]) ∧
      dlpBuildBwrapArgs host comp command sandbox dbusProxySocket =
        "bwrap" :: ((intendedOps host comp sandbox dbusProxySocket).flatMap fun op =>
          op.option :: op.operands) ++ ["--", "/bin/sh", "-c", command] ∧
      (intendedOps host comp sandbox dbusProxySocket).map BwrapOp.option =
        (commandShape host comp sandbox dbusProxySocket).optionWords := by
  have ops := bwrapOps_eq_intended sandbox dbusProxySocket fits
  refine ⟨?_, ?_, options_intendedOps host comp sandbox dbusProxySocket⟩
  · rw [parse_dlpBuildBwrapArgs, ops]
  · rw [dlpBuildBwrapArgs_eq, ops, funext BwrapOp.render_eq]
    rfl

/-- Inputs that look like options are read as operands. -/
theorem dlpBuildBwrapArgs_reads_as_intended_options :
    let host : Host :=
      { getenv := fun name =>
          if name = "HOME" then some "--bind" else
          if name = "XDG_RUNTIME_DIR" then some "--" else none
        exists_ := fun _ => false
        executable := fun _ => false }
    let comp : LaunchContext := ⟨some "--ro-bind", some ":--unshare-net"⟩
    let sandbox : SandboxConfig :=
      ⟨some "--", none, true, false, true, false, some [some "--tmpfs", none], true⟩
    parseBwrap (dlpBuildBwrapArgs host comp "--" (some sandbox) (some "--setenv")).tail =
      some (intendedOps host comp (some sandbox) (some "--setenv"), ["/bin/sh", "-c", "--"]) := by
  intro host comp sandbox
  refine (dlpBuildBwrapArgs_reads_as_intended host comp "--" (some sandbox) (some "--setenv")
    ⟨?_, ?_, ?_⟩).1
  all_goals decide

end CoderDesktop.Dlp
