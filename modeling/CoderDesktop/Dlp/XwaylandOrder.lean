import CoderDesktop.Dlp.XwaylandScene

/-!
# The events of X11 windows in order

Whether the pointer of a window fits can be read off the events that came before: which
attempt to make a tree for the window was the last, whether it succeeded, and whether the
surface of that tree was destroyed since. `InOrder` says of each event when it comes at its
time, in these terms.
-/

namespace CoderDesktop.Dlp

open Semantics

namespace XwaylandScene

/-! ## What the events tell -/

/-- How many windows were made. -/
def windowsMade (past : List XwaylandSceneEvent) : Nat :=
  past.countP fun
    | .newSurface _ calloc _ => calloc
    | _ => false

/-- The last attempt to make a tree for a window: the surface it was for, with none for the
placeholder's, and whether the tree was made. The latest event stands first. -/
def lastTree (window : Nat) : List XwaylandSceneEvent → Option (Option Nat × Bool)
  | [] => none
  | .newSurface _ calloc tree :: past =>
      if calloc = true ∧ windowsMade past = window then some (none, tree)
      else lastTree window past
  | .associate other surface tree :: past =>
      if other = window then some (some surface, tree) else lastTree window past
  | _ :: past => lastTree window past

/-- The last tree of the window was made, and its surface was not destroyed. -/
def Standing (past : List XwaylandSceneEvent) (window : Nat) : Prop :=
  ∃ surface, lastTree window past = some (surface, true) ∧
    ∀ own ∈ surface, .surfaceDestroyed own ∉ past

end XwaylandScene

/-- A scene and the events that led to it, the latest first. -/
structure XwaylandHistory where
  world : XwaylandScene
  past : List XwaylandSceneEvent

namespace XwaylandHistory

open XwaylandScene

/-- Nothing has happened. -/
def new : XwaylandHistory := ⟨.new, []⟩

/-- An event is handled and remembered. -/
def next (history : XwaylandHistory) (event : XwaylandSceneEvent) : Option XwaylandHistory :=
  (history.world.next event).map fun world => ⟨world, event :: history.past⟩

/-- The event comes at its time. A window is associated again before the surface of its last
tree is destroyed; it is mapped, unmapped and activated only if its last tree could be made;
a menu is configured while its last tree stands, and a window goes when that does not. -/
def InOrder (history : XwaylandHistory) : XwaylandSceneEvent → Prop
  | .associate window _ _ =>
      ∀ surface, lastTree window history.past = some (some surface, true) →
        .surfaceDestroyed surface ∉ history.past
  | .map window _ | .unmap window =>
      ∀ last ∈ lastTree window history.past, last.2 = true
  | .requestActivate window =>
      (∃ xsurf ∈ history.world.windows window, xsurf.surface ≠ none) →
        ∀ last ∈ lastTree window history.past, last.2 = true
  | .requestConfigure window =>
      (∃ xsurf ∈ history.world.windows window, xsurf.overrideRedirect = true) →
        Standing history.past window
  | .destroy window => ¬ Standing history.past window
  | .newSurface _ _ _ | .dissociate _ | .setOverrideRedirect _ _ | .surfaceDestroyed _ => True

/-- What the events say of the tree a window's pointer was set to last. -/
inductive TreeState (past : List XwaylandSceneEvent) (window : Nat) (scene : Arena SceneNode)
    (pointer : Option Nat) : Prop where
  | failed (surface : Option Nat) (last : lastTree window past = some (surface, false))
      (null : pointer = none)
  | standing (surface : Option Nat) (last : lastTree window past = some (surface, true))
      (rooted : ∀ own ∈ surface, .surfaceDestroyed own ∉ past)
      (node : scene.target pointer = some ⟨surface, window⟩)
  | uprooted (surface : Nat) (last : lastTree window past = some (some surface, true))
      (destroyed : .surfaceDestroyed surface ∈ past) (stale : pointer ≠ none)
      (node : scene.target pointer = none)

/-- The events tell where the pointers lead. -/
structure Recorded (history : XwaylandHistory) : Prop where
  tracked : history.world.Tracked
  counted : windowsMade history.past = history.world.nextWindow
  trees : ∀ window xsurf, history.world.windows window = some xsurf →
    TreeState history.past window history.world.scene xsurf.sceneTree
  associated : ∀ window xsurf surface, history.world.windows window = some xsurf →
    xsurf.surface = some surface → history.world.surfaces surface = .associated window ∧
      ∃ tree, lastTree window history.past = some (some surface, tree)
  destroyed : ∀ surface, .surfaceDestroyed surface ∈ history.past →
    history.world.surfaces surface = .destroyed

namespace TreeState

variable {past later : List XwaylandSceneEvent} {window : Nat} {scene after : Arena SceneNode}
  {pointer : Option Nat}

/-- Events of other windows, and the scene's changes elsewhere, leave the state as it is. -/
theorem keep (state : TreeState past window scene pointer)
    (last : lastTree window later = lastTree window past)
    (destroyed : ∀ surface, .surfaceDestroyed surface ∈ later ↔ .surfaceDestroyed surface ∈ past)
    (target : after.target pointer = scene.target pointer) :
    TreeState later window after pointer := by
  cases state with
  | failed surface isLast null => exact .failed surface (last.trans isLast) null
  | standing surface isLast rooted node =>
      refine .standing surface (last.trans isLast) (fun own isOwn gone => ?_) (target.trans node)
      exact rooted own isOwn ((destroyed own).mp gone)
  | uprooted surface isLast gone stale node =>
      exact .uprooted surface (last.trans isLast) ((destroyed surface).mpr gone) stale
        (target.trans node)

end TreeState

namespace Recorded

variable {history : XwaylandHistory} {after : XwaylandScene} {event : XwaylandSceneEvent}

/-- Events that make no tree and end no surface leave the books as they are. -/
theorem quiet (recorded : history.Recorded) (tracked : after.Tracked)
    (last : ∀ window, lastTree window (event :: history.past) = lastTree window history.past)
    (made : windowsMade (event :: history.past) = windowsMade history.past)
    (keeps : ∀ surface, event ≠ .surfaceDestroyed surface)
    (nextWindow : after.nextWindow = history.world.nextWindow)
    (pointers : ∀ window xsurf, after.windows window = some xsurf →
      ∃ old, history.world.windows window = some old ∧ xsurf.sceneTree = old.sceneTree)
    (target : ∀ pointer, after.scene.target pointer = history.world.scene.target pointer)
    (surfaces : ∀ window xsurf surface, after.windows window = some xsurf →
      xsurf.surface = some surface → ∃ old, history.world.windows window = some old ∧
        old.surface = some surface ∧ after.surfaces surface = history.world.surfaces surface)
    (destroyed : ∀ surface, history.world.surfaces surface = .destroyed →
      after.surfaces surface = .destroyed) :
    Recorded ⟨after, event :: history.past⟩ := by
  have gone (surface : Nat) : .surfaceDestroyed surface ∈ event :: history.past ↔
      .surfaceDestroyed surface ∈ history.past := by
    rw [List.mem_cons, or_iff_right fun same => keeps surface same.symm]
  refine ⟨tracked, made.trans (recorded.counted.trans nextWindow.symm), ?_, ?_, ?_⟩
  · intro window xsurf found
    obtain ⟨old, was, same⟩ := pointers window xsurf found
    rw [same]
    exact (recorded.trees window old was).keep (last window) gone (target _)
  · intro window xsurf surface found isSurface
    obtain ⟨old, was, wasSurface, same⟩ := surfaces window xsurf surface found isSurface
    obtain ⟨inUse, tree, isLast⟩ := recorded.associated window old surface was wasSurface
    exact ⟨same.trans inUse, tree, (last window).trans isLast⟩
  · intro surface isGone
    exact destroyed surface (recorded.destroyed surface ((gone surface).mp isGone))

/-- A handler that only uses the scene. -/
theorem used (recorded : history.Recorded) (pointer : Option Nat)
    (last : ∀ window, lastTree window (event :: history.past) = lastTree window history.past)
    (made : windowsMade (event :: history.past) = windowsMade history.past)
    (keeps : ∀ surface, event ≠ .surfaceDestroyed surface) :
    Recorded ⟨{ history.world with scene := history.world.scene.access pointer },
      event :: history.past⟩ :=
  recorded.quiet (recorded.tracked.access pointer) last made keeps rfl
    (fun _ xsurf found => ⟨xsurf, found, rfl⟩) (fun _ => rfl)
    (fun _ xsurf _ found isSurface => ⟨xsurf, found, isSurface, rfl⟩) fun _ isGone => isGone

/-- The same without a use. -/
theorem unused (recorded : history.Recorded)
    (last : ∀ window, lastTree window (event :: history.past) = lastTree window history.past)
    (made : windowsMade (event :: history.past) = windowsMade history.past)
    (keeps : ∀ surface, event ≠ .surfaceDestroyed surface) :
    Recorded ⟨history.world, event :: history.past⟩ :=
  recorded.quiet recorded.tracked last made keeps rfl
    (fun _ xsurf found => ⟨xsurf, found, rfl⟩) (fun _ => rfl)
    (fun _ xsurf _ found isSurface => ⟨xsurf, found, isSurface, rfl⟩) fun _ isGone => isGone

/-! ### Events that make or end a tree -/

/-- A new node leaves older pointers alone. -/
theorem target_makeNode {scene : Arena SceneNode} (node : SceneNode) (tree : Bool)
    {pointer : Option Nat} (older : ∀ address ∈ pointer, address < scene.next) :
    (makeNode scene node tree).1.target pointer = scene.target pointer := by
  cases tree with
  | false => rfl
  | true =>
      cases pointer with
      | none => rfl
      | some address => exact Function.update_of_ne (Nat.ne_of_lt (older address rfl)) _ _

/-- A tree that was just made stands, if its surface exists. -/
theorem treeState_makeNode {scene : Arena SceneNode} {past : List XwaylandSceneEvent}
    {window : Nat} {surface : Option Nat} {tree : Bool}
    (last : lastTree window past = some (surface, tree))
    (rooted : ∀ own ∈ surface, .surfaceDestroyed own ∉ past) :
    TreeState past window (makeNode scene ⟨surface, window⟩ tree).1
      (makeNode scene ⟨surface, window⟩ tree).2 := by
  cases tree with
  | false => exact .failed surface last rfl
  | true => exact .standing surface last rooted (Function.update_self ..)

/-- A new window is recorded. -/
theorem newSurface (recorded : history.Recorded) (overrideRedirect tree : Bool) :
    Recorded ⟨history.world.handleNewSurface overrideRedirect true tree,
      .newSurface overrideRedirect true tree :: history.past⟩ := by
  have gone (surface : Nat) :
      .surfaceDestroyed surface ∈ .newSurface overrideRedirect true tree :: history.past ↔
        .surfaceDestroyed surface ∈ history.past := by simp
  have other {window : Nat} (isOther : window ≠ history.world.nextWindow) :
      lastTree window (.newSurface overrideRedirect true tree :: history.past) =
        lastTree window history.past := by
    simp [lastTree, recorded.counted, Ne.symm isOther]
  refine ⟨recorded.tracked.newSurface overrideRedirect true tree, ?_, ?_, ?_, ?_⟩
  · change windowsMade _ = history.world.nextWindow + 1
    rw [← recorded.counted]
    exact List.countP_cons_of_pos rfl
  · intro window xsurf found
    change Function.update history.world.windows _ _ window = some xsurf at found
    by_cases isNew : window = history.world.nextWindow
    · subst isNew
      rw [Function.update_self] at found
      obtain rfl := Option.some.inj found
      refine treeState_makeNode ?_ fun _ isOwn => nomatch isOwn
      simp [lastTree, recorded.counted]
    · rw [Function.update_of_ne isNew] at found
      exact (recorded.trees window xsurf found).keep (other isNew) gone
        (target_makeNode _ _ (recorded.tracked.made window xsurf found))
  · intro window xsurf surface found isSurface
    change Function.update history.world.windows _ _ window = some xsurf at found
    by_cases isNew : window = history.world.nextWindow
    · subst isNew
      rw [Function.update_self] at found
      obtain rfl := Option.some.inj found
      cases isSurface
    · rw [Function.update_of_ne isNew] at found
      rw [other isNew]
      exact recorded.associated window xsurf surface found isSurface
  · exact fun surface isGone => recorded.destroyed surface ((gone surface).mp isGone)

/-- The pointers of other windows do not lead to the node that makes room. -/
theorem target_dropNode (recorded : history.Recorded) {window other : Nat}
    (different : other ≠ window) {xsurf xother : XwaylandWindow}
    (found : history.world.windows window = some xsurf)
    (foundOther : history.world.windows other = some xother) :
    (xsurf.dropNode history.world.scene).target xother.sceneTree =
      history.world.scene.target xother.sceneTree := by
  unfold XwaylandWindow.dropNode
  split
  · cases points : xother.sceneTree with
    | none => rfl
    | some address =>
        by_cases same : xsurf.sceneTree = some address
        · have nothing : history.world.scene.cells address = none := by
            by_contra there
            obtain ⟨node, cell⟩ := Option.ne_none_iff_exists'.mp there
            have mine := recorded.tracked.own window xsurf found node (by rw [same]; exact cell)
            have others := recorded.tracked.own other xother foundOther node
              (by rw [points]; exact cell)
            exact different (others.symm.trans mine)
          exact (if_pos same).trans nothing.symm
        · exact if_neg same
  · rfl

/-- An association is recorded. -/
theorem associate (recorded : history.Recorded) {window surface : Nat} {xsurf : XwaylandWindow}
    (found : history.world.windows window = some xsurf)
    (free : history.world.surfaces surface = .unassociated) (tree : Bool) :
    Recorded ⟨history.world.handleAssociate window surface xsurf tree,
      .associate window surface tree :: history.past⟩ := by
  have gone (own : Nat) :
      .surfaceDestroyed own ∈ .associate window surface tree :: history.past ↔
        .surfaceDestroyed own ∈ history.past := by simp
  have mine : lastTree window (.associate window surface tree :: history.past) =
      some (some surface, tree) := if_pos rfl
  have others {other : Nat} (isOther : other ≠ window) :
      lastTree other (.associate window surface tree :: history.past) =
        lastTree other history.past := if_neg (Ne.symm isOther)
  refine ⟨recorded.tracked.associate found surface tree, ?_, ?_, ?_, ?_⟩
  · rw [windowsMade, List.countP_cons_of_neg Bool.false_ne_true]
    exact recorded.counted
  · intro other xother foundOther
    change Function.update history.world.windows window _ other = some xother at foundOther
    by_cases here : other = window
    · subst here
      rw [Function.update_self] at foundOther
      obtain rfl := Option.some.inj foundOther
      refine treeState_makeNode mine fun own isOwn isGone => ?_
      obtain rfl := Option.some.inj isOwn
      have uprooted := recorded.destroyed surface ((gone surface).mp isGone)
      rw [free] at uprooted
      cases uprooted
    · rw [Function.update_of_ne here] at foundOther
      refine (recorded.trees other xother foundOther).keep (others here) gone ?_
      refine (target_makeNode _ _ fun address points => ?_).trans
        (recorded.target_dropNode here found foundOther)
      rw [next_dropNode]
      exact recorded.tracked.made other xother foundOther address points
  · intro other xother own foundOther isOwn
    change Function.update history.world.windows window _ other = some xother at foundOther
    by_cases here : other = window
    · subst here
      rw [Function.update_self] at foundOther
      obtain rfl := Option.some.inj foundOther
      obtain rfl := Option.some.inj isOwn
      exact ⟨Function.update_self .., tree, mine⟩
    · rw [Function.update_of_ne here] at foundOther
      obtain ⟨inUse, last⟩ := recorded.associated other xother own foundOther isOwn
      have different : own ≠ surface :=
        ne_of_apply_ne history.world.surfaces (by simp [inUse, free])
      exact ⟨(Function.update_of_ne different _ _).trans inUse, (others here).symm ▸ last⟩
  · intro own isGone
    have before := recorded.destroyed own ((gone own).mp isGone)
    have different : own ≠ surface :=
      ne_of_apply_ne history.world.surfaces (by simp [before, free])
    exact (Function.update_of_ne different _ _).trans before

/-- The trees of a surface go with it, and the pointers to them stay. -/
theorem treeState_surfaceDestroyed {past : List XwaylandSceneEvent} {window : Nat}
    {scene : Arena SceneNode} {pointer : Option Nat}
    (state : TreeState past window scene pointer) (surface : Nat) :
    TreeState (.surfaceDestroyed surface :: past) window
      (scene.discard fun node => node.surface = some surface) pointer := by
  cases state with
  | failed own last null => exact .failed own last null
  | standing own last rooted node =>
      obtain ⟨address, points, cell⟩ := Option.bind_eq_some_iff.mp node
      obtain rfl := points
      by_cases isOwn : own = some surface
      · subst isOwn
        refine .uprooted surface last List.mem_cons_self (Option.some_ne_none _) ?_
        change (scene.cells address).filter _ = none
        rw [cell]
        simp
      · refine .standing own last (fun other isOther isGone => ?_) ?_
        · rcases List.mem_cons.mp isGone with same | before
          · cases same
            exact isOwn (Option.mem_def.mp isOther)
          · exact rooted other isOther before
        · refine Arena.cells_discard_eq_some_iff.mpr ⟨cell, ?_⟩
          exact decide_eq_false isOwn
  | uprooted own last destroyed stale node =>
      refine .uprooted own last (List.mem_cons_of_mem _ destroyed) stale ?_
      cases pointer with
      | none => rfl
      | some address =>
          change (scene.cells address).filter _ = none
          have nothing : scene.cells address = none := node
          rw [nothing]
          rfl

/-- The end of a surface is recorded. -/
theorem surfaceDestroyed (recorded : history.Recorded) {surface : Nat}
    (free : history.world.surfaces surface = .unassociated) :
    Recorded ⟨({ history.world with
        scene := history.world.scene.discard fun node => node.surface = some surface }.setSurface
          surface .destroyed), .surfaceDestroyed surface :: history.past⟩ := by
  refine ⟨recorded.tracked.discard _ _, ?_, ?_, ?_, ?_⟩
  · rw [windowsMade, List.countP_cons_of_neg Bool.false_ne_true]
    exact recorded.counted
  · exact fun window xsurf found =>
      treeState_surfaceDestroyed (recorded.trees window xsurf found) surface
  · intro window xsurf own found isOwn
    obtain ⟨inUse, last⟩ := recorded.associated window xsurf own found isOwn
    have different : own ≠ surface :=
      ne_of_apply_ne history.world.surfaces (by simp [inUse, free])
    exact ⟨(Function.update_of_ne different _ _).trans inUse, last⟩
  · intro own isGone
    by_cases here : own = surface
    · subst here
      exact Function.update_self ..
    · refine (Function.update_of_ne here _ _).trans (recorded.destroyed own ?_)
      exact (List.mem_cons.mp isGone).resolve_left fun same => here (by cases same; rfl)

/-- A change of a window's own fields, and of the use of its surface. -/
theorem dissociate (recorded : history.Recorded) {window surface : Nat} {xsurf : XwaylandWindow}
    (found : history.world.windows window = some xsurf) (isSurface : xsurf.surface = some surface) :
    Recorded ⟨(history.world.setSurface surface .unassociated).setWindow window
      (some { xsurf with surface := none }), .dissociate window :: history.past⟩ := by
  obtain ⟨inUse, -⟩ := recorded.associated window xsurf surface found isSurface
  refine recorded.quiet ((recorded.tracked.setSurface surface .unassociated).setWindow found rfl)
    (fun _ => rfl) (List.countP_cons_of_neg Bool.false_ne_true) nofun rfl ?_ (fun _ => rfl) ?_ ?_
  · intro other xother foundOther
    rw [windows_setWindow] at foundOther
    split at foundOther
    · next here =>
        obtain rfl := Option.some.inj foundOther
        exact ⟨xsurf, here ▸ found, rfl⟩
    · exact ⟨xother, foundOther, rfl⟩
  · intro other xother own foundOther isOwn
    rw [windows_setWindow] at foundOther
    split at foundOther
    · obtain rfl := Option.some.inj foundOther
      cases isOwn
    · next elsewhere =>
        have others := (recorded.associated other xother own foundOther isOwn).1
        have different : own ≠ surface :=
          ne_of_apply_ne history.world.surfaces (by simp [inUse, others, elsewhere])
        exact ⟨xother, foundOther, isOwn, Function.update_of_ne different _ _⟩
  · intro own isGone
    have different : own ≠ surface :=
      ne_of_apply_ne history.world.surfaces (by simp [inUse, isGone])
    exact (Function.update_of_ne different _ _).trans isGone

/-- A changed flag is recorded. -/
theorem setOverrideRedirect (recorded : history.Recorded) {window : Nat} {xsurf : XwaylandWindow}
    (found : history.world.windows window = some xsurf) (overrideRedirect : Bool) :
    Recorded ⟨history.world.setWindow window (some { xsurf with overrideRedirect }),
      .setOverrideRedirect window overrideRedirect :: history.past⟩ := by
  have was {other : Nat} {xother : XwaylandWindow}
      (foundOther : (history.world.setWindow window
        (some { xsurf with overrideRedirect })).windows other = some xother) :
      ∃ old, history.world.windows other = some old ∧ xother.sceneTree = old.sceneTree ∧
        xother.surface = old.surface := by
    rw [windows_setWindow] at foundOther
    split at foundOther
    · next here =>
        obtain rfl := Option.some.inj foundOther
        exact ⟨xsurf, here ▸ found, rfl, rfl⟩
    · exact ⟨xother, foundOther, rfl, rfl⟩
  refine recorded.quiet (recorded.tracked.setWindow found rfl) (fun _ => rfl)
    (List.countP_cons_of_neg Bool.false_ne_true) nofun rfl ?_ (fun _ => rfl) ?_
    fun _ isGone => isGone
  · intro other xother foundOther
    obtain ⟨old, wasOld, sameTree, -⟩ := was foundOther
    exact ⟨old, wasOld, sameTree⟩
  · intro other xother own foundOther isOwn
    obtain ⟨old, wasOld, -, sameSurface⟩ := was foundOther
    exact ⟨old, wasOld, sameSurface ▸ isOwn, rfl⟩

/-- The end of a window is recorded. -/
theorem destroy (recorded : history.Recorded) (window : Nat) :
    Recorded ⟨history.world.setWindow window none, .destroy window :: history.past⟩ := by
  have was {other : Nat} {xother : XwaylandWindow}
      (foundOther : (history.world.setWindow window none).windows other = some xother) :
      history.world.windows other = some xother := by
    rw [windows_setWindow] at foundOther
    split at foundOther
    · cases foundOther
    · exact foundOther
  exact recorded.quiet (recorded.tracked.destroy window) (fun _ => rfl)
    (List.countP_cons_of_neg Bool.false_ne_true) nofun rfl
    (fun _ xother foundOther => ⟨xother, was foundOther, rfl⟩) (fun _ => rfl)
    (fun _ xother _ foundOther isOwn => ⟨xother, was foundOther, isOwn, rfl⟩) fun _ isGone => isGone

/-- Every event is recorded. -/
theorem next {later : XwaylandHistory} (recorded : history.Recorded)
    (taken : history.next event = some later) : later.Recorded := by
  obtain ⟨world, step, rfl⟩ := Option.map_eq_some_iff.mp taken
  cases event with
  | newSurface overrideRedirect calloc tree =>
      obtain rfl := Option.some.inj step
      cases calloc with
      | true => exact recorded.newSurface _ _
      | false =>
          exact recorded.unused (fun _ => if_neg fun both => Bool.false_ne_true both.1)
            (List.countP_cons_of_neg Bool.false_ne_true) (by simp)
  | associate window surface tree =>
      simp only [XwaylandScene.next] at step
      split at step
      · next found =>
          obtain ⟨⟨-, free⟩, rfl⟩ := of_guarded step
          exact recorded.associate found free tree
      · cases step
  | map window wantsFocus =>
      simp only [XwaylandScene.next] at step
      split at step
      · next found =>
          obtain ⟨-, rfl⟩ := of_guarded step
          rw [XwaylandWindow.handleMap_eq]
          exact recorded.used _ (fun _ => rfl) (List.countP_cons_of_neg Bool.false_ne_true)
            (by simp)
      · cases step
  | unmap window =>
      simp only [XwaylandScene.next] at step
      split at step
      · next found =>
          obtain ⟨-, rfl⟩ := of_guarded step
          exact recorded.used _ (fun _ => rfl) (List.countP_cons_of_neg Bool.false_ne_true)
            (by simp)
      · cases step
  | dissociate window =>
      simp only [XwaylandScene.next] at step
      split at step
      · next found =>
          obtain ⟨surface, isSurface, rfl⟩ := Option.map_eq_some_iff.mp step
          exact recorded.dissociate found isSurface
      · cases step
  | requestConfigure window =>
      obtain ⟨xsurf, found, rfl⟩ := Option.map_eq_some_iff.mp step
      unfold XwaylandWindow.handleRequestConfigure
      split
      · exact recorded.used _ (fun _ => rfl) (List.countP_cons_of_neg Bool.false_ne_true) (by simp)
      · exact recorded.unused (fun _ => rfl) (List.countP_cons_of_neg Bool.false_ne_true) (by simp)
  | requestActivate window =>
      obtain ⟨xsurf, found, rfl⟩ := Option.map_eq_some_iff.mp step
      unfold XwaylandWindow.handleRequestActivate XwaylandWindow.focus
      split
      · exact recorded.unused (fun _ => rfl) (List.countP_cons_of_neg Bool.false_ne_true) (by simp)
      · exact recorded.used _ (fun _ => rfl) (List.countP_cons_of_neg Bool.false_ne_true) (by simp)
  | setOverrideRedirect window overrideRedirect =>
      obtain ⟨xsurf, found, rfl⟩ := Option.map_eq_some_iff.mp step
      exact recorded.setOverrideRedirect found overrideRedirect
  | destroy window =>
      simp only [XwaylandScene.next] at step
      split at step
      · obtain ⟨-, rfl⟩ := of_guarded step
        exact recorded.destroy window
      · cases step
  | surfaceDestroyed surface =>
      obtain ⟨free, rfl⟩ := of_guarded step
      exact recorded.surfaceDestroyed free

end Recorded

/-! ## Runs -/

/-- Nothing is to be recorded at first. -/
theorem recorded_new : new.Recorded where
  tracked := ⟨Arena.fresh_empty, fun _ _ => rfl, nofun, nofun, nofun, nofun⟩
  counted := rfl
  trees := nofun
  associated := nofun
  destroyed := nofun

end XwaylandHistory

end CoderDesktop.Dlp
