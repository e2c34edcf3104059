import CoderDesktop.Dlp.CompositorManager
import CoderDesktop.Dlp.Watermark
import CoderDesktop.Semantics.Run

/-!
# The compositor's output

The handlers of `output.c` with the policy and identity setters. What wlroots returns
is an input of each event. The compositor keeps a history of what its handlers commit,
with the result of `dlp_watermark_apply` for each frame buffer.

`handleOutputFrame` ignores that result: a frame whose buffer cannot be marked is
committed all the same.
-/

namespace CoderDesktop.Dlp

open Semantics

/-- The part of a `wlr_output_state` that carries pixels. -/
structure OutputState where
  buffer : Option WlrBuffer

/-- A call of a wlroots commit function. -/
inductive Commit where
  /-- By `handleOutputFrame`: the buffer as committed, the result of marking it if that
  was tried, and whether the watermark was in force. -/
  | frame (buffer : Option WlrBuffer) (marked : Option Bool) (inForce : Bool)
  /-- By `handleOutputRequestState`. -/
  | requested (buffer : Option WlrBuffer)

/-- A frame buffer that should have been marked and was not. -/
def Commit.unmarked : Commit → Bool
  | .frame buffer marked inForce => buffer.isSome && marked ≠ some true && inForce
  | .requested _ => false

/-- An unmarked commit shows a buffer that was not marked. -/
theorem Commit.unmarked_iff {entry : Commit} :
    entry.unmarked = true ↔
      ∃ buffer marked, entry = .frame (some buffer) marked true ∧ marked ≠ some true := by
  cases entry with
  | frame buffer marked inForce =>
      cases buffer with
      | none => simp [unmarked]
      | some buffer =>
          cases inForce with
          | false => simp [unmarked]
          | true => simp [unmarked]
  | requested buffer => simp [unmarked]

/-- The fields of `coder_dlp_compositor` the output handlers use. -/
structure DlpCompositor where
  policy : CoderDlpPolicy
  watermark : WatermarkState
  /-- An output is attached, with its listeners. -/
  output : Bool
  /-- History, not a field of the source. -/
  commits : List Commit

/-- What wlroots returns during a frame. -/
structure FrameOutcome where
  /-- `wlr_scene_get_scene_output` finds the output. -/
  sceneOutput : Bool
  /-- The state built for the frame, or `none` when there is none to commit. -/
  built : Option OutputState

namespace DlpCompositor

/-- `coder_dlp_create` allocates zeroed memory. -/
def new : DlpCompositor where
  policy := ⟨false, false, false, false, false, false⟩
  watermark := .new
  output := false
  commits := []

/-- A null policy is ignored. -/
def setPolicy (comp : DlpCompositor) (policy : Option CoderDlpPolicy) : DlpCompositor :=
  match policy with
  | none => comp
  | some policy => { comp with policy }

/-- A null identity is ignored. -/
def setWatermarkIdentity (comp : DlpCompositor) (identity : Option (List Byte)) :
    DlpCompositor :=
  match identity with
  | none => comp
  | some identity =>
      { comp with watermark := dlpWatermarkSetIdentity comp.watermark identity }

/-- The condition of the watermark path. -/
def watermarkInForce (comp : DlpCompositor) : Bool :=
  comp.policy.watermarkEnabled && comp.watermark.hasIdentity

/-- Something is committed to the output. -/
def commit (comp : DlpCompositor) (entry : Commit) : DlpCompositor :=
  { comp with commits := comp.commits ++ [entry] }

/-- A frame that is to be marked is committed also if the marking fails. -/
def handleOutputFrame (comp : DlpCompositor) (outcome : FrameOutcome) : DlpCompositor :=
  if !outcome.sceneOutput then comp
  else if comp.watermarkInForce then
    match outcome.built with
    | some state =>
        match state.buffer with
        | some buffer =>
            let applied := dlpWatermarkApply buffer comp.watermark
            comp.commit (.frame (some applied.1) (some applied.2) true)
        | none => comp.commit (.frame none none true)
    | none => comp
  else
    match outcome.built with
    | some state => comp.commit (.frame state.buffer none false)
    | none => comp

/-- The state asked for is committed as it is. -/
def handleOutputRequestState (comp : DlpCompositor) (state : OutputState) : DlpCompositor :=
  comp.commit (.requested state.buffer)

end DlpCompositor

/-- What happens to an output and its compositor. -/
inductive OutputEvent where
  | newOutput
  | frame (outcome : FrameOutcome)
  | requestState (state : OutputState)
  | destroy
  | setPolicy (policy : Option CoderDlpPolicy)
  | setWatermarkIdentity (identity : Option (List Byte))

/-- The listeners are attached from a new output to its destruction. -/
def DlpCompositor.next (comp : DlpCompositor) : OutputEvent → Option DlpCompositor
  | .newOutput => if comp.output then none else some { comp with output := true }
  | .frame outcome => if comp.output then some (comp.handleOutputFrame outcome) else none
  | .requestState state =>
      if comp.output then some (comp.handleOutputRequestState state) else none
  | .destroy => if comp.output then some { comp with output := false } else none
  | .setPolicy policy => some (comp.setPolicy policy)
  | .setWatermarkIdentity identity => some (comp.setWatermarkIdentity identity)

/-- Every frame buffer committed while the watermark was in force was marked. -/
def FramesMarked (comp : DlpCompositor) : Prop :=
  ∀ buffer marked, .frame (some buffer) marked true ∈ comp.commits → marked = some true

/-- A frame drawn while the watermark is in force has a buffer that can be marked, if
it has a buffer. -/
def MarksFrame (comp : DlpCompositor) : OutputEvent → Prop
  | .frame outcome =>
      outcome.sceneOutput → comp.watermarkInForce →
        ∀ state ∈ outcome.built, ∀ buffer ∈ state.buffer, buffer.markable
  | .newOutput | .requestState _ | .destroy | .setPolicy _ | .setWatermarkIdentity _ => True

/-! ## Steps -/

/-- A commit is added; it keeps the frames marked unless it is a frame that should have
been marked and was not. -/
theorem framesMarked_commit_iff {comp : DlpCompositor} (marked : FramesMarked comp)
    (entry : Commit) :
    FramesMarked (comp.commit entry) ↔
      ∀ buffer result, entry = .frame (some buffer) result true → result = some true := by
  constructor
  · rintro next buffer result rfl
    exact next buffer result (List.mem_append_right _ (List.mem_singleton_self _))
  · intro fresh buffer result member
    rcases List.mem_append.mp member with old | new
    · exact marked buffer result old
    · exact fresh buffer result (List.mem_singleton.mp new).symm

/-- A frame keeps the commits marked exactly under `MarksFrame`. -/
theorem framesMarked_frame_iff {comp : DlpCompositor} (marked : FramesMarked comp)
    (outcome : FrameOutcome) :
    FramesMarked (comp.handleOutputFrame outcome) ↔ MarksFrame comp (.frame outcome) := by
  obtain ⟨sceneOutput, built⟩ := outcome
  cases sceneOutput with
  | false => exact iff_of_true marked nofun
  | true =>
      cases inForce : comp.watermarkInForce with
      | false =>
          refine iff_of_true ?_ fun _ force => absurd (inForce.symm.trans force) (by decide)
          cases built with
          | none => simpa [DlpCompositor.handleOutputFrame, inForce] using marked
          | some state =>
              simp [DlpCompositor.handleOutputFrame, inForce, framesMarked_commit_iff marked]
      | true =>
          have identified : comp.watermark.hasIdentity = true :=
            ((Bool.and_eq_true _ _).mp inForce).2
          rcases built with _ | ⟨_ | buffer⟩
          · exact iff_of_true (by simpa [DlpCompositor.handleOutputFrame, inForce] using marked)
              nofun
          · refine iff_of_true ?_ (by simp [MarksFrame])
            simp [DlpCompositor.handleOutputFrame, inForce, framesMarked_commit_iff marked]
          · -- The result of marking is what decides.
            simp [DlpCompositor.handleOutputFrame, MarksFrame, inForce, identified,
              framesMarked_commit_iff marked, dlpWatermarkApply_result]

/-- An event keeps the commits marked exactly under `MarksFrame`. -/
theorem framesMarked_step_iff {comp after : DlpCompositor} {event : OutputEvent}
    (marked : FramesMarked comp) (taken : comp.next event = some after) :
    FramesMarked after ↔ MarksFrame comp event := by
  cases event with
  | frame outcome =>
      obtain ⟨-, rfl⟩ := of_guarded taken
      exact framesMarked_frame_iff marked outcome
  | requestState state =>
      obtain ⟨-, rfl⟩ := of_guarded taken
      exact iff_of_true ((framesMarked_commit_iff marked _).mpr nofun) trivial
  | newOutput =>
      obtain ⟨-, taken⟩ := Option.ite_none_left_eq_some.mp taken
      obtain rfl := Option.some.inj taken
      exact iff_of_true marked trivial
  | destroy =>
      obtain ⟨-, rfl⟩ := of_guarded taken
      exact iff_of_true marked trivial
  | setPolicy policy =>
      obtain rfl := Option.some.inj taken
      cases policy with
      | none => exact iff_of_true marked trivial
      | some policy => exact iff_of_true marked trivial
  | setWatermarkIdentity identity =>
      obtain rfl := Option.some.inj taken
      cases identity with
      | none => exact iff_of_true marked trivial
      | some identity => exact iff_of_true marked trivial

/-! ## Results -/

/-- The frame path fails open: whatever cannot be marked is committed as it was drawn. -/
theorem handleOutputFrame_of_unmarkable {comp : DlpCompositor} {buffer : WlrBuffer}
    (inForce : comp.watermarkInForce = true) (unmarkable : buffer.markable = false) :
    comp.handleOutputFrame ⟨true, some ⟨some buffer⟩⟩ =
      comp.commit (.frame (some buffer) (some false) true) := by
  have failed : (dlpWatermarkApply buffer comp.watermark).2 = false := by
    rw [dlpWatermarkApply_result, unmarkable, Bool.and_false]
  simp [DlpCompositor.handleOutputFrame, inForce, failed, dlpWatermarkApply_of_failed failed]

/-- No unmarked frame is committed throughout a run exactly when every frame drawn
while the watermark is in force has a buffer that can be marked. -/
theorem framesMarked_iff_marksFrames (events : List OutputEvent) :
    (∀ comp, Visits DlpCompositor.next .new events comp → FramesMarked comp) ↔
      Conforms DlpCompositor.next MarksFrame .new events :=
  visits_iff_conforms (fun _ => True) FramesMarked (fun _ _ _ _ _ => trivial)
    (fun _ _ _ _ marked taken => framesMarked_step_iff marked taken) trivial
    (fun _ _ => List.not_mem_nil.elim) events

/-- A buffer in graphics memory that cannot be mapped. -/
def unmappedBuffer : WlrBuffer := ⟨1920, 1080, none⟩

/-- The watermark is switched on for a user, and a frame goes out without it. -/
theorem unmappedFrame_unmarked :
    ¬ ∀ comp, Visits DlpCompositor.next .new
        [.newOutput, .setPolicy (some ⟨false, false, true, false, false, true⟩),
          .setWatermarkIdentity (some [0x75]), .frame ⟨true, some ⟨some unmappedBuffer⟩⟩]
        comp → FramesMarked comp := by
  refine not_visits_of_replay (fun comp => comp.commits.any Commit.unmarked) (by decide) ?_
  intro comp unmarked marked
  obtain ⟨entry, member, isUnmarked⟩ := List.any_eq_true.mp unmarked
  obtain ⟨buffer, result, rfl, differs⟩ := Commit.unmarked_iff.mp isUnmarked
  exact differs (marked buffer result member)

end CoderDesktop.Dlp
