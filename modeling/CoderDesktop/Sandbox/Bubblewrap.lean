import CoderDesktop.Sandbox.MountTable

/-!
# The bubblewrap command line

The options of `bwrap` that launchers use, how it reads its arguments, and what
the options do: the mounts they make, in order, and the environment they leave.
Device trees, `/proc` and tmpfs mounts hold nothing of the host.
-/

namespace CoderDesktop.Sandbox

/-- How a host directory is bound. -/
inductive BindMode where
  | readOnly
  | readWrite
  | device
deriving DecidableEq, Repr

/-- The options of bwrap that the launcher uses. -/
inductive BwrapOp where
  | bind (mode : BindMode) (src dest : String)
  | dev (dest : String)
  | proc (dest : String)
  | tmpfs (dest : String)
  | unsharePid
  | unshareIpc
  | unshareNet
  | setenv (name value : String)
  | unsetenv (name : String)
  | dieWithParent
  | newSession
deriving DecidableEq, Repr

namespace BwrapOp

/-- The option as it stands on the command line. -/
def render : BwrapOp → List String
  | .bind .readOnly src dest => ["--ro-bind", src, dest]
  | .bind .readWrite src dest => ["--bind", src, dest]
  | .bind .device src dest => ["--dev-bind", src, dest]
  | .dev dest => ["--dev", dest]
  | .proc dest => ["--proc", dest]
  | .tmpfs dest => ["--tmpfs", dest]
  | .unsharePid => ["--unshare-pid"]
  | .unshareIpc => ["--unshare-ipc"]
  | .unshareNet => ["--unshare-net"]
  | .setenv name value => ["--setenv", name, value]
  | .unsetenv name => ["--unsetenv", name]
  | .dieWithParent => ["--die-with-parent"]
  | .newSession => ["--new-session"]

/-- The mount an option makes. -/
def mount : BwrapOp → Option Mount
  | .bind mode src dest =>
      some ⟨Path.ofString dest, .host (Path.ofString src) (mode ≠ .readOnly)⟩
  | .dev dest | .proc dest | .tmpfs dest => some ⟨Path.ofString dest, .fresh⟩
  | .unsharePid | .unshareIpc | .unshareNet | .setenv _ _ | .unsetenv _ | .dieWithParent
  | .newSession => none

/-- The option's effect on the environment. -/
def applyEnv (env : String → Option String) : BwrapOp → String → Option String
  | .setenv name value => fun other => if other = name then some value else env other
  | .unsetenv name => fun other => if other = name then none else env other
  | .bind _ _ _ | .dev _ | .proc _ | .tmpfs _ | .unsharePid | .unshareIpc | .unshareNet
  | .dieWithParent | .newSession => env

end BwrapOp

/-- Read the arguments after `bwrap`: options up to `--` or the first argument
that is not an option, then the command. -/
def parseBwrap : List String → Option (List BwrapOp × List String)
  | "--ro-bind" :: src :: dest :: rest => cons (.bind .readOnly src dest) (parseBwrap rest)
  | "--bind" :: src :: dest :: rest => cons (.bind .readWrite src dest) (parseBwrap rest)
  | "--dev-bind" :: src :: dest :: rest => cons (.bind .device src dest) (parseBwrap rest)
  | "--dev" :: dest :: rest => cons (.dev dest) (parseBwrap rest)
  | "--proc" :: dest :: rest => cons (.proc dest) (parseBwrap rest)
  | "--tmpfs" :: dest :: rest => cons (.tmpfs dest) (parseBwrap rest)
  | "--unshare-pid" :: rest => cons .unsharePid (parseBwrap rest)
  | "--unshare-ipc" :: rest => cons .unshareIpc (parseBwrap rest)
  | "--unshare-net" :: rest => cons .unshareNet (parseBwrap rest)
  | "--setenv" :: name :: value :: rest => cons (.setenv name value) (parseBwrap rest)
  | "--unsetenv" :: name :: rest => cons (.unsetenv name) (parseBwrap rest)
  | "--die-with-parent" :: rest => cons .dieWithParent (parseBwrap rest)
  | "--new-session" :: rest => cons .newSession (parseBwrap rest)
  | "--" :: command => some ([], command)
  | [] => none
  | word :: rest => if word.toList.head? = some '-' then none else some ([], word :: rest)
where
  cons (op : BwrapOp) : Option (List BwrapOp × List String) → Option (List BwrapOp × List String)
    | some (ops, command) => some (op :: ops, command)
    | none => none

/-- The mount table of a list of options. -/
def mounts (ops : List BwrapOp) : List Mount :=
  ops.filterMap BwrapOp.mount

/-- The environment the command is started in. -/
def environment (env : String → Option String) (ops : List BwrapOp) : String → Option String :=
  ops.foldl BwrapOp.applyEnv env

/-- An option in front is parsed. -/
theorem parseBwrap_render_cons (op : BwrapOp) (rest : List String) :
    parseBwrap (op.render ++ rest) = parseBwrap.cons op (parseBwrap rest) := by
  cases op with
  | bind mode src dest => cases mode <;> rfl
  | _ => rfl

/-- Reading rendered options gives back the options and the command. -/
theorem parseBwrap_render (ops : List BwrapOp) (command : List String) :
    parseBwrap (ops.flatMap BwrapOp.render ++ "--" :: command) = some (ops, command) := by
  induction ops with
  | nil => rfl
  | cons op ops inductionHypothesis =>
      rw [List.flatMap_cons, List.append_assoc, parseBwrap_render_cons, inductionHypothesis]
      rfl

/-! ## Mounts and environment of composed options -/

@[simp] theorem mounts_append (ops more : List BwrapOp) :
    mounts (ops ++ more) = mounts ops ++ mounts more :=
  List.filterMap_append

@[simp] theorem environment_append (env : String → Option String) (ops more : List BwrapOp) :
    environment env (ops ++ more) = environment (environment env ops) more :=
  List.foldl_append

/-- Host directories are mounted by bind options only. -/
theorem mem_mounts_host {ops : List BwrapOp} {mount : Mount} {source : Path} {writable : Bool}
    (member : mount ∈ mounts ops) (host : mount.source = .host source writable) :
    ∃ mode src dest, .bind mode src dest ∈ ops ∧ mount.target = Path.ofString dest ∧
      source = Path.ofString src ∧ (writable = true → mode ≠ .readOnly) := by
  obtain ⟨op, opMember, made⟩ := List.mem_filterMap.mp member
  cases op with
  | bind mode src dest =>
      obtain rfl := Option.some.inj made
      cases host
      exact ⟨mode, src, dest, opMember, rfl, rfl, by simp⟩
  | dev | proc | tmpfs =>
      obtain rfl := Option.some.inj made
      cases host
  | _ => cases made

/-- The variable an option changes. -/
def BwrapOp.variable : BwrapOp → Option String
  | .setenv name _ | .unsetenv name => some name
  | _ => none

/-- An option changes the variable it names only. -/
theorem BwrapOp.applyEnv_of_unnamed {env : String → Option String} {op : BwrapOp}
    {name : String} (unnamed : op.variable ≠ some name) : op.applyEnv env name = env name := by
  cases op with
  | setenv other value | unsetenv other =>
      have different : name ≠ other := fun same => unnamed (congrArg some same.symm)
      simp only [applyEnv, if_neg different]
  | _ => rfl

/-- Options that do not name a variable leave it alone. -/
theorem environment_of_unnamed {env : String → Option String} {ops : List BwrapOp}
    {name : String} (unnamed : ∀ op ∈ ops, op.variable ≠ some name) :
    environment env ops name = env name := by
  induction ops generalizing env with
  | nil => rfl
  | cons op ops inductionHypothesis =>
      have rest : environment (op.applyEnv env) ops name = op.applyEnv env name :=
        inductionHypothesis fun other member => unnamed other (List.mem_cons_of_mem _ member)
      exact rest.trans (BwrapOp.applyEnv_of_unnamed (unnamed op List.mem_cons_self))

end CoderDesktop.Sandbox
