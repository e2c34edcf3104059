import CoderDesktop.Semantics.Run
import Mathlib.Logic.Function.Basic

/-!
# The active window

Four handlers hand over activation: the map handler of XDG toplevels, the focus helper
of Xwayland surfaces, button presses and touch-downs. None of them knows which window
is active. They deactivate the one with keyboard focus, so activation and focus have to
stay together.
-/

namespace CoderDesktop.Dlp

open Semantics

/-- `wlr_xwayland_icccm_input_model` -/
inductive InputModel where
  | none
  | passive
  | local
  | global
deriving DecidableEq, Repr

/-- What the handlers ask of an Xwayland surface. -/
structure XwaylandSurface where
  /-- It is associated with a surface of the compositor. -/
  surface : Bool
  overrideRedirect : Bool
  overrideRedirectWantsFocus : Bool
  icccmInputModel : InputModel
deriving DecidableEq, Repr

/-- The windows; those of one kind are numbered. -/
inductive Window where
  | xdg (number : Nat)
  | xwayland (number : Nat)
deriving DecidableEq, Repr

/-- The window is an XDG toplevel. -/
def Window.isXdg : Window → Bool
  | .xdg _ => true
  | .xwayland _ => false

/-- The keyboard focus, and what the windows were told. -/
structure Seat where
  /-- `wlr_seat_get_keyboard` has one to return. -/
  keyboard : Bool
  /-- `keyboard_state.focused_surface` -/
  focused : Option Window
  /-- What each window was told last. -/
  activated : Window → Bool
  xwayland : Nat → XwaylandSurface

/-- The events upon which windows are activated, and what may change between them. -/
inductive SeatEvent where
  | keyboardAdded
  | toplevelMap (number : Nat)
  | xwaylandSurfaceMap (number : Nat)
  | xwaylandRequestActivate (number : Nat)
  /-- `target`: the window whose scene tree has the node under the pointer. -/
  | cursorButton (pressed : Bool) (target : Option Window)
  | touchDown (target : Option Window)
  /-- A client associates its surface or sets its properties. -/
  | xwaylandChanged (number : Nat) (surface : XwaylandSurface)
deriving DecidableEq, Repr

namespace Seat

variable (seat : Seat)

/-- A window is told whether it is active. -/
def setActivated (window : Window) (activated : Bool) : Seat :=
  { seat with activated := Function.update seat.activated window activated }

/-- Deactivate the window with keyboard focus, if the handler knows its kind. -/
def deactivatePrevious (known : Window → Bool) : Seat :=
  match seat.focused with
  | none => seat
  | some previous => if known previous then seat.setActivated previous false else seat

/-- `wlr_seat_keyboard_notify_enter`, which needs a keyboard. -/
def notifyEnter (window : Window) : Seat :=
  if seat.keyboard then { seat with focused := some window } else seat

/-- The previous window is looked up among the XDG toplevels only. -/
def handleToplevelMap (number : Nat) : Seat :=
  ((seat.deactivatePrevious Window.isXdg).setActivated (.xdg number) true).notifyEnter
    (.xdg number)

/-- Any window that had the focus is deactivated first. -/
def focusXwaylandSurface (number : Nat) : Seat :=
  if ¬ (seat.xwayland number).surface then seat
  else
    let previous := seat.deactivatePrevious fun _ => true
    let offered :=
      if (seat.xwayland number).icccmInputModel = .global then previous
      else previous.setActivated (.xwayland number) true
    offered.notifyEnter (.xwayland number)

/-- An override-redirect window is focused only if it wants to be. -/
def handleXwaylandSurfaceMap (number : Nat) : Seat :=
  if (seat.xwayland number).overrideRedirect then
    if (seat.xwayland number).overrideRedirectWantsFocus then seat.focusXwaylandSurface number
    else seat
  else seat.focusXwaylandSurface number

/-- The window asked for it. -/
def handleXwaylandRequestActivate (number : Nat) : Seat :=
  seat.focusXwaylandSurface number

/-- What a button press and a touch-down do with the window they hit. -/
def focusAt : Option Window → Seat
  | none => seat
  | some (.xdg number) =>
      ((seat.deactivatePrevious fun _ => true).setActivated (.xdg number) true).notifyEnter
        (.xdg number)
  | some (.xwayland number) =>
      let activated :=
        (seat.deactivatePrevious fun _ => true).setActivated (.xwayland number) true
      if (seat.xwayland number).surface then activated.notifyEnter (.xwayland number)
      else activated

/-- A press focuses the window under the pointer. -/
def dlpHandleCursorButton (pressed : Bool) (target : Option Window) : Seat :=
  if pressed then seat.focusAt target else seat

/-- A touch focuses the window under it. -/
def touchFocusAt (target : Option Window) : Seat := seat.focusAt target

/-- Every event can come at any time. -/
def next : SeatEvent → Option Seat
  | .keyboardAdded => some { seat with keyboard := true }
  | .toplevelMap number => some (seat.handleToplevelMap number)
  | .xwaylandSurfaceMap number => some (seat.handleXwaylandSurfaceMap number)
  | .xwaylandRequestActivate number => some (seat.handleXwaylandRequestActivate number)
  | .cursorButton pressed target => some (seat.dlpHandleCursorButton pressed target)
  | .touchDown target => some (seat.touchFocusAt target)
  | .xwaylandChanged number surface =>
      some { seat with xwayland := Function.update seat.xwayland number surface }

/-- There is no keyboard and no window. -/
def new : Seat where
  keyboard := false
  focused := none
  activated := fun _ => false
  xwayland := fun _ => ⟨false, false, false, .none⟩

/-! ## One active window -/

/-- An active window of this kind is to have the keyboard focus. -/
def InputModelTakesFocus (model : InputModel) : Prop := model = .passive ∨ model = .local

/-- The compositor gives the window the keyboard focus. -/
def TakesFocus : Window → Prop
  | .xdg _ => True
  | .xwayland number => InputModelTakesFocus (seat.xwayland number).icccmInputModel

/-- At most one window is active, and it has the focus if it takes it. -/
structure OneActive (seat : Seat) : Prop where
  unique : ∀ one other, seat.activated one = true → seat.activated other = true → one = other
  focused : seat.keyboard = true → ∀ window, seat.activated window = true →
    seat.TakesFocus window → seat.focused = some window

section Steps

variable (known : Window → Bool) (window target : Window)

/-- The focused window is deactivated if it is of a known kind. -/
theorem activated_deactivatePrevious :
    (seat.deactivatePrevious known).activated window = true ↔
      seat.activated window = true ∧ ¬ (seat.focused = some window ∧ known window = true) := by
  unfold deactivatePrevious
  cases seat.focused with
  | none => simp
  | some previous =>
      cases isKnown : known previous with
      | false =>
          simp only [isKnown, Bool.false_eq_true, if_false]
          refine (and_iff_left ?_).symm
          rintro ⟨same, wanted⟩
          exact absurd ((Option.some.inj same ▸ isKnown).symm.trans wanted) nofun
      | true =>
          by_cases same : window = previous
          · subst same
            simp [isKnown, setActivated]
          · simp [isKnown, setActivated, same, Ne.symm same]

@[simp] theorem focused_deactivatePrevious :
    (seat.deactivatePrevious known).focused = seat.focused := by
  unfold deactivatePrevious
  split
  · rfl
  · split <;> rfl

@[simp] theorem keyboard_deactivatePrevious :
    (seat.deactivatePrevious known).keyboard = seat.keyboard := by
  unfold deactivatePrevious
  split
  · rfl
  · split <;> rfl

@[simp] theorem xwayland_deactivatePrevious :
    (seat.deactivatePrevious known).xwayland = seat.xwayland := by
  unfold deactivatePrevious
  split
  · rfl
  · split <;> rfl

@[simp] theorem activated_notifyEnter : (seat.notifyEnter target).activated = seat.activated := by
  unfold notifyEnter
  split <;> rfl

@[simp] theorem keyboard_notifyEnter : (seat.notifyEnter target).keyboard = seat.keyboard := by
  unfold notifyEnter
  split <;> rfl

@[simp] theorem xwayland_notifyEnter : (seat.notifyEnter target).xwayland = seat.xwayland := by
  unfold notifyEnter
  split <;> rfl

end Steps

variable {seat} {after : Seat}

/-- A window with the global input model is entered and nothing is activated. -/
theorem OneActive.offered (held : seat.OneActive) (number : Nat) :
    ((seat.deactivatePrevious fun _ => true).notifyEnter (.xwayland number)).OneActive := by
  have active : ∀ window,
      ((seat.deactivatePrevious fun _ => true).notifyEnter (.xwayland number)).activated window =
        true → seat.activated window = true ∧ seat.focused ≠ some window := by
    intro window stays
    rw [activated_notifyEnter, activated_deactivatePrevious] at stays
    exact ⟨stays.1, fun same => stays.2 ⟨same, rfl⟩⟩
  refine ⟨fun one other first second =>
    held.unique one other (active one first).1 (active other second).1, ?_⟩
  intro present window stays wanted
  obtain ⟨before, apart⟩ := active window stays
  refine absurd (held.focused (by simpa using present) window before ?_) apart
  cases window with
  | xdg => trivial
  | xwayland => simpa [TakesFocus] using wanted

end Seat

end CoderDesktop.Dlp
