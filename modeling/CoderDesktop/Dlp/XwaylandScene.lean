import CoderDesktop.Semantics.Arena
import CoderDesktop.Semantics.Run

/-!
# The scene nodes of X11 windows

A window has a placeholder in the scene until it is associated with a surface, and the
subsurface tree of that surface from then on. The scene drops the tree by itself when the
surface is destroyed, while the window keeps its pointer, and a window that goes does not
take its node along. So the handlers are safe only where the pointer has not gone stale,
and the end of a window only where it has.
-/

namespace CoderDesktop.Dlp

open Semantics

/-- A scene tree made by `xwayland.c`. -/
structure SceneNode where
  /-- The surface whose subsurface tree it is; the placeholder has none. -/
  surface : Option Nat
  /-- `node.data`, the window it was made for. -/
  data : Nat
deriving DecidableEq, Repr

/-- `coder_dlp_xwayland_surface`, and what it asks of its `xwayland_surface`. -/
structure XwaylandWindow where
  sceneTree : Option Nat
  surface : Option Nat
  overrideRedirect : Bool
deriving DecidableEq, Repr

/-- A surface of the Wayland client, as `wlroots` sees it. -/
inductive SurfaceUse where
  | unassociated
  | associated (window : Nat)
  | destroyed
deriving DecidableEq, Repr

/-- The scene graph, the windows, and what each surface is used for. -/
structure XwaylandScene where
  scene : Arena SceneNode
  /-- The windows whose structure was allocated and not freed. -/
  windows : Nat → Option XwaylandWindow
  nextWindow : Nat
  surfaces : Nat → SurfaceUse

/-- `tree` tells whether a scene tree could be created. -/
inductive XwaylandSceneEvent where
  | newSurface (overrideRedirect calloc tree : Bool)
  | associate (window surface : Nat) (tree : Bool)
  | map (window : Nat) (wantsFocus : Bool)
  | unmap (window : Nat)
  | dissociate (window : Nat)
  | requestConfigure (window : Nat)
  | requestActivate (window : Nat)
  | setOverrideRedirect (window : Nat) (overrideRedirect : Bool)
  | destroy (window : Nat)
  /-- The subsurface trees of the surface go with it. -/
  | surfaceDestroyed (surface : Nat)
deriving DecidableEq, Repr

/-! ## The handlers -/

namespace XwaylandWindow

variable (xsurf : XwaylandWindow) (scene : Arena SceneNode)

/-- `focus_xwayland_surface` raises the node. -/
def focus : Arena SceneNode :=
  if xsurf.surface = none then scene else scene.access xsurf.sceneTree

/-- The node is enabled; that of a menu is also positioned and raised. -/
def handleMap (wantsFocus : Bool) : Arena SceneNode :=
  let enabled := scene.access xsurf.sceneTree
  if xsurf.overrideRedirect then
    let raised := (enabled.access xsurf.sceneTree).access xsurf.sceneTree
    if wantsFocus then xsurf.focus raised else raised
  else xsurf.focus enabled

/-- The scene tree is used, whatever it points to. -/
def handleUnmap : Arena SceneNode := scene.access xsurf.sceneTree

/-- The requested position is set on the node of a menu only. -/
def handleRequestConfigure : Arena SceneNode :=
  if xsurf.overrideRedirect then scene.access xsurf.sceneTree else scene

/-- `handle_request_activate`: the window is focused. -/
def handleRequestActivate : Arena SceneNode := xsurf.focus scene

/-- What `associate` does first: the node that was there makes room. -/
def dropNode : Arena SceneNode :=
  if xsurf.sceneTree ≠ none then scene.destroy xsurf.sceneTree else scene

end XwaylandWindow

/-- A scene tree with its `data` set, and the pointer to it, which is null on failure. -/
def makeNode (scene : Arena SceneNode) (node : SceneNode) (tree : Bool) :
    Arena SceneNode × Option Nat :=
  if tree then (scene.create node, some scene.next) else (scene, none)

namespace XwaylandScene

/-- No window and no surface is in use. -/
def new : XwaylandScene := ⟨.empty, fun _ => none, 0, fun _ => .unassociated⟩

variable (world : XwaylandScene)

/-- A window's structure is written or freed. -/
def setWindow (window : Nat) (xsurf : Option XwaylandWindow) : XwaylandScene :=
  { world with windows := Function.update world.windows window xsurf }

/-- A surface is put to a use. -/
def setSurface (surface : Nat) (use : SurfaceUse) : XwaylandScene :=
  { world with surfaces := Function.update world.surfaces surface use }

/-- Without the structure nothing is made, otherwise the window gets a tree. -/
def handleNewSurface (overrideRedirect calloc tree : Bool) : XwaylandScene :=
  if !calloc then world
  else
    let made := makeNode world.scene ⟨none, world.nextWindow⟩ tree
    { world with scene := made.1, nextWindow := world.nextWindow + 1 }.setWindow world.nextWindow
      (some ⟨made.2, none, overrideRedirect⟩)

/-- The window's node is dropped and one for the surface takes its place. -/
def handleAssociate (window surface : Nat) (xsurf : XwaylandWindow) (tree : Bool) :
    XwaylandScene :=
  let made := makeNode (xsurf.dropNode world.scene) ⟨some surface, window⟩ tree
  ({ world with scene := made.1 }.setSurface surface (.associated window)).setWindow window
    (some { xsurf with sceneTree := made.2, surface := some surface })

/-- A window is dissociated before it or its surface goes, and is mapped and unmapped
while it is associated. -/
def next : XwaylandSceneEvent → Option XwaylandScene
  | .newSurface overrideRedirect calloc tree =>
      some (world.handleNewSurface overrideRedirect calloc tree)
  | .associate window surface tree =>
      match world.windows window with
      | some xsurf =>
          if xsurf.surface = none ∧ world.surfaces surface = .unassociated then
            some (world.handleAssociate window surface xsurf tree)
          else none
      | none => none
  | .map window wantsFocus =>
      match world.windows window with
      | some xsurf =>
          if xsurf.surface ≠ none then
            some { world with scene := xsurf.handleMap world.scene wantsFocus }
          else none
      | none => none
  | .unmap window =>
      match world.windows window with
      | some xsurf =>
          if xsurf.surface ≠ none then some { world with scene := xsurf.handleUnmap world.scene }
          else none
      | none => none
  | .dissociate window =>
      match world.windows window with
      | some xsurf =>
          xsurf.surface.map fun surface =>
            (world.setSurface surface .unassociated).setWindow window
              (some { xsurf with surface := none })
      | none => none
  | .requestConfigure window =>
      (world.windows window).map fun xsurf =>
        { world with scene := xsurf.handleRequestConfigure world.scene }
  | .requestActivate window =>
      (world.windows window).map fun xsurf =>
        { world with scene := xsurf.handleRequestActivate world.scene }
  | .setOverrideRedirect window overrideRedirect =>
      (world.windows window).map fun xsurf =>
        world.setWindow window (some { xsurf with overrideRedirect })
  | .destroy window =>
      match world.windows window with
      | some xsurf => if xsurf.surface = none then some (world.setWindow window none) else none
      | none => none
  | .surfaceDestroyed surface =>
      if world.surfaces surface = .unassociated then
        some
          ({ world with
            scene := world.scene.discard fun node => node.surface = some surface }.setSurface
              surface .destroyed)
      else none

/-! ## What is to hold -/

/-- No handler used a node that is gone, and no node points to a window that is. -/
structure NodesValid (world : XwaylandScene) : Prop where
  used : world.scene.faulted = false
  owned : ∀ address node, world.scene.cells address = some node →
    world.windows node.data ≠ none

/-- The only node of a window is the one it points to. -/
structure Tracked (world : XwaylandScene) : Prop where
  fresh : world.scene.Fresh
  numbered : ∀ window, world.nextWindow ≤ window → world.windows window = none
  named : ∀ address node, world.scene.cells address = some node → node.data < world.nextWindow
  current : ∀ address node, world.scene.cells address = some node →
    ∀ xsurf ∈ world.windows node.data, xsurf.sceneTree = some address
  own : ∀ window xsurf, world.windows window = some xsurf →
    ∀ node ∈ world.scene.target xsurf.sceneTree, node.data = window
  made : ∀ window xsurf, world.windows window = some xsurf →
    ∀ address ∈ xsurf.sceneTree, address < world.scene.next

/-! ## The scene after a handler -/

end XwaylandScene

namespace XwaylandWindow

variable (xsurf : XwaylandWindow) (scene : Arena SceneNode)

/-- Focusing uses the tree that was used already. -/
theorem focus_access :
    xsurf.focus (scene.access xsurf.sceneTree) = scene.access xsurf.sceneTree := by
  unfold focus
  split
  · rfl
  · exact Arena.access_access _

/-- Mapping a window uses its tree. -/
theorem handleMap_eq (wantsFocus : Bool) :
    xsurf.handleMap scene wantsFocus = scene.access xsurf.sceneTree := by
  simp only [handleMap, Arena.access_access, focus_access, ite_self]

end XwaylandWindow

namespace XwaylandScene

variable {world : XwaylandScene}

/-- What an event does to the windows and the nodes. -/
inductive Handled (world : XwaylandScene) : XwaylandSceneEvent → XwaylandScene → Prop where
  | newSurface (overrideRedirect calloc tree : Bool) :
      Handled world (.newSurface overrideRedirect calloc tree)
        (world.handleNewSurface overrideRedirect calloc tree)
  | associate {window : Nat} {xsurf : XwaylandWindow} (found : world.windows window = some xsurf)
      (surface : Nat) (tree : Bool) :
      Handled world (.associate window surface tree)
        (world.handleAssociate window surface xsurf tree)
  | map {window : Nat} {xsurf : XwaylandWindow} (found : world.windows window = some xsurf)
      (wantsFocus : Bool) :
      Handled world (.map window wantsFocus)
        { world with scene := world.scene.access xsurf.sceneTree }
  | unmap {window : Nat} {xsurf : XwaylandWindow} (found : world.windows window = some xsurf) :
      Handled world (.unmap window) { world with scene := world.scene.access xsurf.sceneTree }
  | dissociate {window : Nat} {xsurf : XwaylandWindow} (found : world.windows window = some xsurf)
      (surface : Nat) :
      Handled world (.dissociate window)
        ((world.setSurface surface .unassociated).setWindow window
          (some { xsurf with surface := none }))
  | requestConfigure {window : Nat} {xsurf : XwaylandWindow}
      (found : world.windows window = some xsurf) :
      Handled world (.requestConfigure window)
        { world with scene := xsurf.handleRequestConfigure world.scene }
  | requestActivate {window : Nat} {xsurf : XwaylandWindow}
      (found : world.windows window = some xsurf) :
      Handled world (.requestActivate window)
        { world with scene := xsurf.handleRequestActivate world.scene }
  | setOverrideRedirect {window : Nat} {xsurf : XwaylandWindow}
      (found : world.windows window = some xsurf) (overrideRedirect : Bool) :
      Handled world (.setOverrideRedirect window overrideRedirect)
        (world.setWindow window (some { xsurf with overrideRedirect }))
  | destroy {window : Nat} {xsurf : XwaylandWindow} (found : world.windows window = some xsurf) :
      Handled world (.destroy window) (world.setWindow window none)
  | surfaceDestroyed (surface : Nat) :
      Handled world (.surfaceDestroyed surface)
        ({ world with
          scene := world.scene.discard fun node => node.surface = some surface }.setSurface
            surface .destroyed)

/-- What the handlers do, one case for each. -/
theorem handled_of_next {event : XwaylandSceneEvent} {after : XwaylandScene}
    (taken : world.next event = some after) : world.Handled event after := by
  cases event with
  | newSurface overrideRedirect calloc tree =>
      obtain rfl := Option.some.inj taken
      exact .newSurface _ _ _
  | associate window surface tree =>
      simp only [next] at taken
      split at taken
      · next found =>
          obtain ⟨-, rfl⟩ := of_guarded taken
          exact .associate found surface tree
      · cases taken
  | map window wantsFocus =>
      simp only [next] at taken
      split at taken
      · next found =>
          obtain ⟨-, rfl⟩ := of_guarded taken
          rw [XwaylandWindow.handleMap_eq]
          exact .map found wantsFocus
      · cases taken
  | unmap window =>
      simp only [next] at taken
      split at taken
      · next found =>
          obtain ⟨-, rfl⟩ := of_guarded taken
          exact .unmap found
      · cases taken
  | dissociate window =>
      simp only [next] at taken
      split at taken
      · next found =>
          obtain ⟨surface, -, rfl⟩ := Option.map_eq_some_iff.mp taken
          exact .dissociate found surface
      · cases taken
  | requestConfigure window =>
      obtain ⟨xsurf, found, rfl⟩ := Option.map_eq_some_iff.mp taken
      exact .requestConfigure found
  | requestActivate window =>
      obtain ⟨xsurf, found, rfl⟩ := Option.map_eq_some_iff.mp taken
      exact .requestActivate found
  | setOverrideRedirect window overrideRedirect =>
      obtain ⟨xsurf, found, rfl⟩ := Option.map_eq_some_iff.mp taken
      exact .setOverrideRedirect found overrideRedirect
  | destroy window =>
      simp only [next] at taken
      split at taken
      · next found =>
          obtain ⟨-, rfl⟩ := of_guarded taken
          exact .destroy found
      · cases taken
  | surfaceDestroyed surface =>
      obtain ⟨-, rfl⟩ := of_guarded taken
      exact .surfaceDestroyed surface

/-- Using a node changes no other. -/
theorem Tracked.access (tracked : world.Tracked) (pointer : Option Nat) :
    Tracked { world with scene := world.scene.access pointer } where
  fresh := tracked.fresh.access pointer
  numbered := tracked.numbered
  named := tracked.named
  current := tracked.current
  own := tracked.own
  made := tracked.made

/-- The use of a surface changes no node. -/
theorem Tracked.setSurface (tracked : world.Tracked) (surface : Nat) (use : SurfaceUse) :
    (world.setSurface surface use).Tracked :=
  ⟨tracked.fresh, tracked.numbered, tracked.named, tracked.current, tracked.own, tracked.made⟩

/-! ## A change of one window -/

/-- Only the window's own structure changes. -/
theorem windows_setWindow (window : Nat) (xsurf : Option XwaylandWindow) (other : Nat) :
    (world.setWindow window xsurf).windows other =
      if other = window then xsurf else world.windows other := by
  change Function.update world.windows window xsurf other = _
  rw [Function.update_apply]

/-- The window keeps its pointer. -/
theorem Tracked.setWindow (tracked : world.Tracked) {window : Nat} {before : XwaylandWindow}
    (found : world.windows window = some before) {after : XwaylandWindow}
    (same : after.sceneTree = before.sceneTree) :
    (world.setWindow window (some after)).Tracked := by
  have pointer (other : Nat) (xsurf : XwaylandWindow)
      (there : (world.setWindow window (some after)).windows other = some xsurf) :
      ∃ old, world.windows other = some old ∧ xsurf.sceneTree = old.sceneTree := by
    rw [windows_setWindow] at there
    by_cases here : other = window
    · rw [if_pos here] at there
      obtain rfl := Option.some.inj there
      exact ⟨before, here ▸ found, same⟩
    · rw [if_neg here] at there
      exact ⟨xsurf, there, rfl⟩
  refine ⟨tracked.fresh, ?_, tracked.named, ?_, ?_, ?_⟩
  · intro other beyond
    have isOther : other ≠ window := by
      rintro rfl
      rw [tracked.numbered other beyond] at found
      cases found
    rw [windows_setWindow, if_neg isOther]
    exact tracked.numbered other beyond
  · intro address node there xsurf isWindow
    obtain ⟨old, oldThere, sameTree⟩ := pointer _ _ isWindow
    rw [sameTree]
    exact tracked.current address node there old oldThere
  · intro other xsurf isWindow
    obtain ⟨old, oldThere, sameTree⟩ := pointer _ _ isWindow
    rw [sameTree]
    exact tracked.own other old oldThere
  · intro other xsurf isWindow
    obtain ⟨old, oldThere, sameTree⟩ := pointer _ _ isWindow
    rw [sameTree]
    exact tracked.made other old oldThere

/-- A window that is rewritten keeps the nodes valid. -/
theorem NodesValid.setWindow (valid : world.NodesValid) (window : Nat)
    (xsurf : XwaylandWindow) : (world.setWindow window (some xsurf)).NodesValid := by
  refine ⟨valid.used, fun address node there => ?_⟩
  rw [windows_setWindow]
  split
  · exact Option.some_ne_none _
  · exact valid.owned address node there

/-! ## New nodes -/

section MakeNode

variable {scene : Arena SceneNode} (node : SceneNode) (tree : Bool)

/-- Making a node is no fault. -/
theorem faulted_makeNode : (makeNode scene node tree).1.faulted = scene.faulted := by
  unfold makeNode
  split <;> rfl

/-- The next address stays unused. -/
theorem fresh_makeNode (fresh : scene.Fresh) : (makeNode scene node tree).1.Fresh := by
  unfold makeNode
  split
  · exact fresh.create node
  · exact fresh

/-- Addresses are not used again. -/
theorem next_le_makeNode : scene.next ≤ (makeNode scene node tree).1.next := by
  unfold makeNode
  split
  · exact Nat.le_succ _
  · exact Nat.le_refl _

variable {node} {tree}

/-- What is there after making a node is the node or was there before. -/
theorem of_cells_makeNode (fresh : scene.Fresh) {address : Nat} {other : SceneNode}
    (there : (makeNode scene node tree).1.cells address = some other) :
    (makeNode scene node tree).2 = some address ∧ address = scene.next ∧ node = other ∨
      scene.cells address = some other := by
  cases tree with
  | true =>
      rcases (Arena.cells_create_eq_some_iff fresh).mp there with ⟨rfl, same⟩ | old
      · exact .inl ⟨rfl, rfl, same⟩
      · exact .inr old
  | false => exact .inr there

/-- The pointer that is made leads to the node. -/
theorem of_pointer_makeNode {address : Nat} (made : address ∈ (makeNode scene node tree).2) :
    address = scene.next ∧ address < (makeNode scene node tree).1.next ∧
      (makeNode scene node tree).1.cells address = some node := by
  cases tree with
  | true =>
      obtain rfl := Option.some.inj made
      exact ⟨rfl, Nat.lt_succ_self _, Function.update_self ..⟩
  | false => cases made

end MakeNode

/-- A window that has no node in `scene` gets one. -/
theorem Tracked.place (tracked : world.Tracked) {scene : Arena SceneNode} (fresh : scene.Fresh)
    (next : scene.next = world.scene.next) {window : Nat}
    (left : ∀ address node, scene.cells address = some node →
      world.scene.cells address = some node ∧ node.data ≠ window)
    {nextWindow : Nat} (later : world.nextWindow ≤ nextWindow) (numbered : window < nextWindow)
    {surface : Option Nat} {tree : Bool} {xsurf : XwaylandWindow}
    (pointer : xsurf.sceneTree = (makeNode scene ⟨surface, window⟩ tree).2)
    (surfaces : Nat → SurfaceUse) :
    Tracked ⟨(makeNode scene ⟨surface, window⟩ tree).1,
      Function.update world.windows window (some xsurf), nextWindow, surfaces⟩ := by
  refine ⟨fresh_makeNode _ _ fresh, ?_, ?_, ?_, ?_, ?_⟩
  · intro other beyond
    have beyond : nextWindow ≤ other := beyond
    change Function.update world.windows window (some xsurf) other = none
    rw [Function.update_of_ne (by omega)]
    exact tracked.numbered other (by omega)
  · intro address node there
    rcases of_cells_makeNode fresh there with ⟨-, -, rfl⟩ | old
    · exact numbered
    · exact Nat.lt_of_lt_of_le (tracked.named address node (left address node old).1) later
  · intro address node there other isWindow
    change Function.update world.windows window (some xsurf) node.data = some other at isWindow
    rcases of_cells_makeNode fresh there with ⟨made, -, rfl⟩ | old
    · rw [Function.update_self] at isWindow
      obtain rfl := Option.some.inj isWindow
      exact pointer.trans made
    · obtain ⟨before, isOther⟩ := left address node old
      rw [Function.update_of_ne isOther] at isWindow
      exact tracked.current address node before other isWindow
  · intro other found isWindow node there
    change Function.update world.windows window (some xsurf) other = some found at isWindow
    obtain ⟨address, points, cell⟩ := Option.bind_eq_some_iff.mp there
    by_cases here : other = window
    · subst here
      rw [Function.update_self] at isWindow
      obtain rfl := Option.some.inj isWindow
      rw [pointer] at points
      rw [(of_pointer_makeNode points).2.2] at cell
      obtain rfl := Option.some.inj cell
      rfl
    · rw [Function.update_of_ne here] at isWindow
      rcases of_cells_makeNode fresh cell with ⟨-, isNext, -⟩ | old
      · have before := tracked.made other found isWindow address points
        omega
      · refine tracked.own other found isWindow node ?_
        rw [points]
        exact (left address node old).1
  · intro other found isWindow address points
    change Function.update world.windows window (some xsurf) other = some found at isWindow
    by_cases here : other = window
    · subst here
      rw [Function.update_self] at isWindow
      obtain rfl := Option.some.inj isWindow
      rw [pointer] at points
      exact (of_pointer_makeNode points).2.1
    · rw [Function.update_of_ne here] at isWindow
      have before := tracked.made other found isWindow address points
      exact Nat.lt_of_lt_of_le (next ▸ before) (next_le_makeNode _ _)

/-- A new window is tracked. -/
theorem Tracked.newSurface (tracked : world.Tracked) (overrideRedirect calloc tree : Bool) :
    (world.handleNewSurface overrideRedirect calloc tree).Tracked := by
  unfold handleNewSurface
  split
  · exact tracked
  · refine tracked.place tracked.fresh rfl (fun address node there => ⟨there, ?_⟩)
      (Nat.le_succ _) (Nat.lt_succ_self _) rfl world.surfaces
    exact Nat.ne_of_lt (tracked.named address node there)

/-- What `associate` leaves of the nodes are those of other windows. -/
theorem Tracked.of_dropNode (tracked : world.Tracked) {window : Nat} {xsurf : XwaylandWindow}
    (found : world.windows window = some xsurf) {address : Nat} {node : SceneNode}
    (there : (xsurf.dropNode world.scene).cells address = some node) :
    world.scene.cells address = some node ∧ node.data ≠ window := by
  have isCurrent (cell : world.scene.cells address = some node) (same : node.data = window) :
      xsurf.sceneTree = some address :=
    tracked.current address node cell xsurf (same ▸ found)
  unfold XwaylandWindow.dropNode at there
  split at there
  · obtain ⟨elsewhere, cell⟩ := Arena.cells_destroy_eq_some_iff.mp there
    exact ⟨cell, fun same => elsewhere (isCurrent cell same)⟩
  · next noTree =>
      refine ⟨there, fun same => ?_⟩
      rw [isCurrent there same] at noTree
      exact noTree (Option.some_ne_none _)

/-- Dropping a node uses no address. -/
theorem fresh_dropNode (tracked : world.Tracked) (xsurf : XwaylandWindow) :
    (xsurf.dropNode world.scene).Fresh := by
  unfold XwaylandWindow.dropNode
  split
  · exact tracked.fresh.destroy _
  · exact tracked.fresh

/-- Dropping a node leaves the next address as it is. -/
theorem next_dropNode (xsurf : XwaylandWindow) (scene : Arena SceneNode) :
    (xsurf.dropNode scene).next = scene.next := by
  unfold XwaylandWindow.dropNode
  split <;> rfl

/-- An association is tracked. -/
theorem Tracked.associate (tracked : world.Tracked) {window : Nat} {xsurf : XwaylandWindow}
    (found : world.windows window = some xsurf) (surface : Nat) (tree : Bool) :
    (world.handleAssociate window surface xsurf tree).Tracked := by
  have numbered : window < world.nextWindow := by
    by_contra beyond
    rw [tracked.numbered window (Nat.le_of_not_lt beyond)] at found
    cases found
  exact tracked.place (fresh_dropNode tracked xsurf) (next_dropNode _ _)
    (fun _ _ there => tracked.of_dropNode found there) (Nat.le_refl _) numbered rfl _

/-! ## Steps -/

/-- What is discarded need not be tracked. -/
theorem Tracked.discard (tracked : world.Tracked) (gone : SceneNode → Bool)
    (surfaces : Nat → SurfaceUse) :
    Tracked ⟨world.scene.discard gone, world.windows, world.nextWindow, surfaces⟩ where
  fresh := tracked.fresh.discard gone
  numbered := tracked.numbered
  named address node there :=
    tracked.named address node (Arena.cells_discard_eq_some_iff.mp there).1
  current address node there :=
    tracked.current address node (Arena.cells_discard_eq_some_iff.mp there).1
  own window xsurf found node there := by
    obtain ⟨address, points, cell⟩ := Option.bind_eq_some_iff.mp there
    refine tracked.own window xsurf found node ?_
    rw [points]
    exact (Arena.cells_discard_eq_some_iff.mp cell).1
  made := tracked.made

/-- The nodes of a window that is freed stay. -/
theorem Tracked.destroy (tracked : world.Tracked) (window : Nat) :
    (world.setWindow window none).Tracked := by
  have kept (other : Nat) (xsurf : XwaylandWindow)
      (there : (world.setWindow window none).windows other = some xsurf) :
      world.windows other = some xsurf := by
    rw [windows_setWindow] at there
    split at there
    · cases there
    · exact there
  refine ⟨tracked.fresh, fun other beyond => ?_, tracked.named, ?_, ?_, ?_⟩
  · rw [windows_setWindow, tracked.numbered other beyond, ite_self]
  · exact fun address node there xsurf found =>
      tracked.current address node there xsurf (kept _ _ found)
  · exact fun other xsurf found => tracked.own other xsurf (kept _ _ found)
  · exact fun other xsurf found => tracked.made other xsurf (kept _ _ found)

/-- Every event keeps the nodes tracked. -/
theorem Tracked.next {event : XwaylandSceneEvent} {after : XwaylandScene}
    (tracked : world.Tracked) (taken : world.next event = some after) : after.Tracked := by
  cases handled_of_next taken with
  | newSurface overrideRedirect calloc tree => exact tracked.newSurface _ _ _
  | associate found surface tree => exact tracked.associate found surface tree
  | map found wantsFocus => exact tracked.access _
  | unmap found => exact tracked.access _
  | dissociate found surface =>
      exact (tracked.setSurface surface .unassociated).setWindow found rfl
  | requestConfigure found =>
      unfold XwaylandWindow.handleRequestConfigure
      split
      · exact tracked.access _
      · exact tracked
  | requestActivate found =>
      unfold XwaylandWindow.handleRequestActivate XwaylandWindow.focus
      split
      · exact tracked
      · exact tracked.access _
  | setOverrideRedirect found overrideRedirect => exact tracked.setWindow found rfl
  | destroy found => exact tracked.destroy _
  | surfaceDestroyed surface => exact tracked.discard _ _

/-- A new window has a valid node. -/
theorem NodesValid.newSurface (valid : world.NodesValid) (tracked : world.Tracked)
    (overrideRedirect calloc tree : Bool) :
    (world.handleNewSurface overrideRedirect calloc tree).NodesValid := by
  unfold handleNewSurface
  split
  · exact valid
  · refine ⟨(faulted_makeNode _ _).trans valid.used, fun address node there => ?_⟩
    rw [windows_setWindow]
    split
    · exact Option.some_ne_none _
    · next isOther =>
        rcases of_cells_makeNode tracked.fresh there with ⟨-, -, rfl⟩ | old
        · exact absurd rfl isOther
        · exact valid.owned address node old

end XwaylandScene

end CoderDesktop.Dlp
