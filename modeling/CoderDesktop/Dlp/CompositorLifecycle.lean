import CoderDesktop.Collections.SwapRemove
import CoderDesktop.Signals.Links

/-!
# The life of a compositor

`coder_dlp_create` and `coder_dlp_destroy` with the handlers of new outputs and input
devices, by what they do to the embedded listeners and to the process-wide list of
compositors. How each fallible call ends is an input. A call whose result the source
does not check ends the process when it fails, and is taken to succeed.
-/

namespace CoderDesktop.Dlp

open Collections Signals

/-- The `wl_listener` members of `coder_dlp_compositor`. -/
inductive Listener where
  | outputFrame
  | outputRequestState
  | outputDestroy
  | newXdgToplevel
  | newXdgPopup
  | xwaylandSurface
  | xwaylandReady
  | newOutput
  | newInput
  | keyboardKey
  | keyboardModifiers
  | cursorMotion
  | cursorMotionAbsolute
  | cursorButton
  | cursorAxis
  | cursorFrame
  | requestSetCursor
  | touchDown
  | touchUp
  | touchMotion
  | touchCancel
  | touchFrame
  | requestSetSelection
  | requestSetPrimarySelection
  | securityContextCommit
  | clientCreated
deriving DecidableEq, Repr

/-- Objects with signals; outputs and devices are numbered as they come. -/
inductive WlObject where
  | display
  | backend
  | xdgShell
  | seat
  | securityContextMgr
  | xwayland
  | cursor
  | output (number : Nat)
  | keyboard (number : Nat)
  | touch (number : Nat)
deriving DecidableEq, Repr

/-- What a new device is, as far as the compositor tells devices apart. -/
inductive InputDevice where
  /-- `keymap`: the XKB context and keymap can be made. -/
  | keyboard (keymap : Bool)
  | pointer
  | touch
  | other
deriving DecidableEq, Repr

/-- What the backend announces. -/
inductive Announcement where
  | newOutput
  | newInput (device : InputDevice)
deriving DecidableEq, Repr

/-- The compositor's listeners, objects and flags. -/
structure Compositor where
  links : Links Listener WlObject
  /-- The objects that exist. -/
  objects : List WlObject
  output : Option Nat
  keyboard : Option Nat
  touch : Option Nat
  securityContextMgr : Bool
  xwayland : Bool
  logCallback : Bool
  /-- The number of the next output or device. -/
  fresh : Nat
  /-- History: `compositor_list_add` succeeded. -/
  inserted : Bool

/-- How the calls of `coder_dlp_create` end. -/
structure CreateOutcome where
  /-- The address `calloc` returns. -/
  calloc : Option Nat
  realloc : Bool
  display : Bool
  backend : Bool
  renderer : Bool
  allocator : Bool
  securityContextMgr : Bool
  /-- Xwayland is built in and created. -/
  xwayland : Bool
  /-- What starting the backend announces, before it succeeds or fails. -/
  announced : List Announcement
  started : Bool
  socket : Bool
deriving DecidableEq, Repr

namespace Compositor

variable (comp : Compositor)

/-- Zeroed memory. -/
def calloc (inserted : Bool) : Compositor where
  links := .none
  objects := []
  output := none
  keyboard := none
  touch := none
  securityContextMgr := false
  xwayland := false
  logCallback := false
  fresh := 0
  inserted := inserted

/-- `wl_signal_add`, for each listener. -/
def signalAdd (object : WlObject) (listeners : List Listener) : Compositor :=
  { comp with links := comp.links.addAll object listeners }

/-- `wl_list_remove`, for each listener. -/
def listRemove (listeners : List Listener) : Compositor :=
  { comp with links := comp.links.removeAll listeners }

/-- The object exists from now on. -/
def withObject (object : WlObject) : Compositor :=
  { comp with objects := object :: comp.objects }

/-! ## Outputs and input devices -/

/-- What is linked for an output. -/
def outputListeners : List Listener := [.outputFrame, .outputRequestState, .outputDestroy]

/-- What is linked for a keyboard. -/
def keyboardListeners : List Listener := [.keyboardKey, .keyboardModifiers]

/-- What is linked for a touch device. -/
def touchListeners : List Listener :=
  [.touchDown, .touchUp, .touchMotion, .touchCancel, .touchFrame]

/-- The listeners are linked to the new output, whatever they were linked to. -/
def handleNewOutput : Compositor :=
  { (comp.withObject (.output comp.fresh)).signalAdd (.output comp.fresh) outputListeners with
    output := some comp.fresh
    fresh := comp.fresh + 1 }

/-- Without a keymap nothing is linked. -/
def setupKeyboard (keymap : Bool) : Compositor :=
  if keymap then
    { comp.signalAdd (.keyboard comp.fresh) keyboardListeners with keyboard := some comp.fresh }
  else comp

/-- The listeners are linked to the new device, whatever they were linked to. -/
def setupTouch : Compositor :=
  { comp.signalAdd (.touch comp.fresh) touchListeners with touch := some comp.fresh }

/-- The pointer is only attached to the cursor. -/
def handleNewInput : InputDevice → Compositor
  | .keyboard keymap =>
      { (comp.withObject (.keyboard comp.fresh)).setupKeyboard keymap with fresh := comp.fresh + 1 }
  | .touch =>
      { (comp.withObject (.touch comp.fresh)).setupTouch with fresh := comp.fresh + 1 }
  | .pointer | .other => comp

/-- The backend tells of an output or a device. -/
def announce : Announcement → Compositor
  | .newOutput => comp.handleNewOutput
  | .newInput device => comp.handleNewInput device

/-- What the backend tells, in order. -/
def announceAll (announced : List Announcement) : Compositor :=
  announced.foldl announce comp

/-- The output's listeners are unlinked. -/
def handleOutputDestroy : Compositor :=
  { comp.listRemove outputListeners with output := none }

/-- An output goes away; its signal reaches the handler if the listener is linked to it. -/
def outputDestroyed (number : Nat) : Compositor :=
  let notified :=
    if comp.links.target .outputDestroy = some (.output number) then comp.handleOutputDestroy
    else comp
  { notified with objects := notified.objects.erase (.output number) }

/-! ## Creation -/

/-- What is linked to the XDG shell. -/
def shellListeners : List Listener := [.newXdgToplevel, .newXdgPopup]

/-- What is linked for the clipboard. -/
def clipboardListeners : List Listener := [.requestSetSelection, .requestSetPrimarySelection]

/-- What is linked to Xwayland. -/
def xwaylandListeners : List Listener := [.xwaylandSurface, .xwaylandReady]

/-- What is linked to the cursor. -/
def cursorListeners : List Listener :=
  [.cursorMotion, .cursorMotionAbsolute, .cursorButton, .cursorAxis, .cursorFrame]

/-- What is linked to the backend. -/
def backendListeners : List Listener := [.newOutput, .newInput]

/-- The clipboard's listeners are linked to the seat. -/
def dlpClipboardInit : Compositor := comp.signalAdd .seat clipboardListeners

/-- Without its manager the listener is not linked. -/
def dlpSecurityContextInit (created : Bool) : Compositor :=
  if created then
    { (comp.withObject .securityContextMgr).signalAdd .securityContextMgr
        [.securityContextCommit] with securityContextMgr := true }
  else comp

/-- Without Xwayland its listeners are not linked. -/
def dlpXwaylandInit (created : Bool) : Compositor :=
  if created then
    { (comp.withObject .xwayland).signalAdd .xwayland xwaylandListeners with xwayland := true }
  else comp

/-- The display and the client listener. -/
def openDisplay : Compositor :=
  (comp.withObject .display).signalAdd .display [.clientCreated]

/-- From the Wayland globals to the listeners on the backend. -/
def wire (outcome : CreateOutcome) : Compositor :=
  let shell := ((comp.withObject .cursor).withObject .xdgShell).signalAdd .xdgShell shellListeners
  let seat := (shell.withObject .seat).dlpClipboardInit
  let optional :=
    (seat.dlpSecurityContextInit outcome.securityContextMgr).dlpXwaylandInit outcome.xwayland
  ((optional.signalAdd .cursor cursorListeners).signalAdd .seat [.requestSetCursor]).signalAdd
    .backend backendListeners

/-- `wl_display_destroy` takes along what belongs to the display or to its event loop,
the backend with its outputs among it. The cursor was created for neither. -/
def wlDisplayDestroy : Compositor :=
  let notified :=
    match comp.links.target .outputDestroy with
    | some (.output number) => comp.outputDestroyed number
    | _ => comp
  { notified with objects := notified.objects.filter (· = .cursor) }

/-- What `coder_dlp_create` makes of a new compositor, and whether it returns it. The
second part is what is left to free otherwise. -/
def build (outcome : CreateOutcome) : Bool × Compositor :=
  if ¬ outcome.display then (false, comp)
  else
    let opened := comp.openDisplay
    if ¬ outcome.backend then (false, opened.wlDisplayDestroy)
    else
      let backed := opened.withObject .backend
      if ¬ (outcome.renderer ∧ outcome.allocator) then (false, backed.wlDisplayDestroy)
      else
        let started := (backed.wire outcome).announceAll outcome.announced
        if ¬ (outcome.started ∧ outcome.socket) then (false, started.wlDisplayDestroy)
        else (true, started)

/-! ## Destruction -/

/-- Only listeners that were linked are unlinked. -/
def dlpXwaylandDestroy : Compositor :=
  if comp.xwayland then comp.listRemove xwaylandListeners else comp

/-- `coder_dlp_destroy` up to where the listeners have been removed; what follows
destroys the objects. -/
def unlink : Compositor :=
  let removed := comp.listRemove
    [.newOutput, .newInput, .newXdgToplevel, .newXdgPopup, .requestSetSelection,
      .requestSetPrimarySelection, .securityContextCommit, .clientCreated]
  let outputs := if removed.output.isSome then removed.listRemove outputListeners else removed
  let keyboards := if outputs.keyboard.isSome then outputs.listRemove keyboardListeners else outputs
  let touches := if keyboards.touch.isSome then keyboards.listRemove touchListeners else keyboards
  ((touches.listRemove cursorListeners).listRemove [.requestSetCursor]).dlpXwaylandDestroy

end Compositor

/-! ## All compositors of the process -/

/-- `s_active_compositors` -/
structure ActiveCompositors where
  entries : List Nat
  capacity : Nat
deriving DecidableEq, Repr

namespace ActiveCompositors

variable (active : ActiveCompositors)

/-- `compositor_list_add`, which fails when the array is full and cannot grow. -/
def canAdd (realloc : Bool) : Bool :=
  active.entries.length < active.capacity ∨ realloc

/-- The array grows to four entries, then to twice its size. -/
def add (address : Nat) (realloc : Bool) : ActiveCompositors × Bool :=
  if active.canAdd realloc then
    ({ entries := active.entries ++ [address]
       capacity :=
        if active.entries.length < active.capacity then active.capacity
        else if active.capacity ≠ 0 then active.capacity * 2 else 4 }, true)
  else (active, false)

/-- The last entry takes the place of the one removed. -/
def remove (address : Nat) : ActiveCompositors :=
  { active with entries := swapRemove address active.entries }

end ActiveCompositors

/-- The active compositors, the memory, and what was freed. -/
structure CompositorWorld where
  active : ActiveCompositors
  /-- The compositors in memory. -/
  memory : Nat → Option Compositor
  /-- History: those that were freed, as they were left. -/
  freed : List Compositor

/-- Compositors are created and destroyed, and the backend acts on them. -/
inductive CompositorEvent where
  | create (outcome : CreateOutcome)
  | destroy (address : Nat)
  | setLogCallback (address : Nat)
  | announced (address : Nat) (announcement : Announcement)
  | outputDestroyed (address number : Nat)

/-- The first compositor in the list with a callback; `error` is an entry that was freed. -/
def customWlrLog (memory : Nat → Option Compositor) : List Nat → Except Nat (Option Nat)
  | [] => .ok none
  | address :: rest =>
      match memory address with
      | none => .error address
      | some comp => if comp.logCallback then .ok (some address) else customWlrLog memory rest

namespace CompositorWorld

/-- There is no compositor. -/
def new : CompositorWorld := ⟨⟨[], 0⟩, fun _ => none, []⟩

variable (world : CompositorWorld)

/-- A place in memory is written. -/
def store (address : Nat) (comp : Option Compositor) : Nat → Option Compositor :=
  Function.update world.memory address comp

/-- Two labels free a compositor that could not be made: without a display it stays in
the list. -/
def coderDlpCreate (address : Nat) (outcome : CreateOutcome) : CompositorWorld :=
  let added := world.active.add address outcome.realloc
  let built := (Compositor.calloc added.2).build outcome
  if built.1 then
    { world with active := added.1, memory := world.store address (some built.2) }
  else
    { world with
      active := if outcome.display then added.1.remove address else added.1
      freed := world.freed ++ [built.2] }

/-- The compositor is unlinked, then freed. -/
def coderDlpDestroy (address : Nat) (comp : Compositor) : CompositorWorld where
  active := world.active.remove address
  memory := world.store address none
  freed := world.freed ++ [comp.unlink]

/-- `calloc` returns memory that is not in use. -/
def next : CompositorEvent → Option CompositorWorld
  | .create outcome =>
      match outcome.calloc with
      | none => some world
      | some address =>
          if (world.memory address).isNone then some (world.coderDlpCreate address outcome)
          else none
  | .destroy address => (world.memory address).map (world.coderDlpDestroy address)
  | .setLogCallback address =>
      (world.memory address).map fun comp =>
        { world with memory := world.store address (some { comp with logCallback := true }) }
  | .announced address announcement =>
      (world.memory address).map fun comp =>
        { world with memory := world.store address (some (comp.announce announcement)) }
  | .outputDestroyed address number =>
      (world.memory address).bind fun comp =>
        if .output number ∈ comp.objects then
          some { world with
            memory := world.store address (some (comp.outputDestroyed number)) }
        else none

end CompositorWorld

end CoderDesktop.Dlp
