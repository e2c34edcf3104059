import Mathlib.Logic.Function.Basic

/-!
# Child processes

A child is known under its pid until it has exited and was waited for. Only then can the
kernel hand the pid out again.
-/

namespace CoderDesktop.Semantics

/-- What a child is until it is reaped. -/
inductive ChildState where
  | running
  | zombie
deriving DecidableEq, Repr

/-- The children that have not been reaped. -/
structure Children where
  state : Int → Option ChildState

namespace Children

variable (children : Children) (pid other : Int)

/-- There are no children. -/
def none : Children := ⟨fun _ => .none⟩

/-- The child runs or waits to be reaped. -/
def unreaped : Bool := (children.state pid).isSome

/-- The child runs. -/
def fork : Children := ⟨Function.update children.state pid (some .running)⟩

/-- A running child exits. -/
def exits : Option Children :=
  if children.state pid = some .running then
    some ⟨Function.update children.state pid (some .zombie)⟩
  else .none

/-- `waitpid` with `WNOHANG`, and whether it returned the child. -/
def waitpid : Children × Bool :=
  if children.state pid = some .zombie then (⟨Function.update children.state pid .none⟩, true)
  else (children, false)

/-- A new child is unreaped. -/
theorem unreaped_fork :
    (children.fork pid).unreaped other = true ↔ other = pid ∨ children.unreaped other = true := by
  by_cases same : other = pid
  · simp [unreaped, fork, same]
  · simp [unreaped, fork, same]

variable {children pid}

/-- A child that exits stays unreaped. -/
theorem unreaped_exits {after : Children} (exited : children.exits pid = some after) :
    after.unreaped other = children.unreaped other := by
  unfold exits at exited
  split at exited
  · rename_i running
    obtain rfl := Option.some.inj exited
    by_cases same : other = pid
    · simp [unreaped, same, running]
    · simp [unreaped, same]
  · cases exited

/-- A zombie is reaped. -/
theorem waitpid_of_zombie (zombie : children.state pid = some .zombie) :
    children.waitpid pid = (⟨Function.update children.state pid .none⟩, true) := if_pos zombie

/-- A child that is no zombie is not reaped. -/
theorem waitpid_of_not_zombie (alive : children.state pid ≠ some .zombie) :
    children.waitpid pid = (children, false) := if_neg alive

end Children

end CoderDesktop.Semantics
