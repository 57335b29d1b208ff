import ScreenMirror.Proofs.Destination.FrameSteps

/-!
# Runs of a virtual screen

A run is any number of frames one after the other, each with a scene and an engine
of its own, and with requests to redraw in between.  Its log has what each frame
was asked to show and how it ended.
-/

namespace ScreenMirror

variable {K : Type} [Scalar K]

/-- What a frame was asked to show, and how it ended. -/
structure FrameRecord (K : Type) where
  screen : Screen K
  nodes : Nodes K
  switches : Switches
  engine : Engine
  result : Except FrameError FrameOutcome

namespace FrameRecord

def link? (r : FrameRecord K) : Option (MirrorLink K) := (r.nodes.mirrorLink r.screen).toOption.join

def visible (r : FrameRecord K) : Option Rect := r.screen.property.visible

/-- Whether the frame was to show a mask instead of a mirror. -/
def muted (r : FrameRecord K) : Bool := r.link?.isSome && r.screen.property.muted

/-- Whether the frame calculated its damage. -/
def measured (r : FrameRecord K) : Bool :=
  r.link?.any fun link => VirtualDestination.measures r.screen link r.switches

def outcome (r : FrameRecord K) : Option FrameOutcome := r.result.toOption

/-- The last frame that was flushed. -/
def lastFlushed (log : List (FrameRecord K)) : Option (FrameRecord K) :=
  log.find? fun r => r.outcome == some .flushed

omit [Scalar K] in
theorem lastFlushed_cons {r : FrameRecord K} {log : List (FrameRecord K)} :
    lastFlushed (r :: log) =
      if r.outcome = some .flushed then some r else lastFlushed log := by
  unfold lastFlushed
  rw [List.find?_cons]
  split
  case h_1 flushed => rw [if_pos (by simpa using flushed)]
  case h_2 other => rw [if_neg (by simpa using other)]

end FrameRecord

namespace VirtualDestination

/-- The runs of a virtual screen, with the last frame first. -/
inductive Run : List (FrameRecord K) → VirtualDestination K → Prop where
  | new (id : NodeId) : Run [] (new id)
  | refresh {log : List (FrameRecord K)} {d : VirtualDestination K} (earlier : Run log d) :
      Run log d.requestRefresh
  | render {log : List (FrameRecord K)} {d d' : VirtualDestination K} {s s' : Services}
      {screen : Screen K} {nodes : Nodes K} {switches : Switches}
      {result : Except FrameError FrameOutcome} (earlier : Run log d)
      (frame : d.render s screen nodes switches = .ok (result, d', s')) :
      Run (⟨screen, nodes, switches, s.engine, result⟩ :: log) d'

end VirtualDestination

/-! ### Frames of a still picture -/

/-- What rendering a frame gives. -/
abbrev Rendering (K : Type) :=
  Checked (Except FrameError FrameOutcome × VirtualDestination K × Services)

namespace Rendering

def outcome? : Rendering K → Option FrameOutcome
  | .ok (result, _) => result.toOption
  | .error _ => none

/-- The screen and the services for the next frame. -/
def after : Rendering K → VirtualDestination K × Services
  | .ok (_, d, s) => (d, s)
  | .error _ => (VirtualDestination.new 0, {})

theorem eq_of_outcome {r : Rendering K} {outcome : FrameOutcome} (h : r.outcome? = some outcome) :
    r = .ok (.ok outcome, r.after.1, r.after.2) := by
  unfold outcome? at h
  split at h
  case h_1 result rest =>
    cases result with
    | error e => cases h
    | ok found =>
      cases h
      rfl
  case h_2 => cases h

end Rendering

namespace VirtualDestination

/-- A screen that shows the same picture all the time. -/
def stillSource : Screen Rat :=
  { (default : Screen Rat) with
    id := 1
    property := { (default : ScreenProperty Rat) with width := 4, height := 2 }
    displays := [10]
    buffer := Picture.blank? 4 2
    dirty := ⟨[[]]⟩ }

def stillProperty : ScreenProperty Rat :=
  { (default : ScreenProperty Rat) with width := 4, height := 2, producer := some 7 }

/-- A virtual screen that mirrors the still picture. -/
def stillMirror (property : ScreenProperty Rat) : Screen Rat :=
  { (default : Screen Rat) with
    id := 2, kind := .virtual, property, mirrorSource := some 1, displays := [20] }

def stillNodes (property : ScreenProperty Rat) : Nodes Rat :=
  [.screen stillSource, .display { id := 10, ancestor := 1, fixedWidth := 4, fixedHeight := 2 },
    .screen (stillMirror property),
    .display { id := 20, ancestor := 2, mirrorSource := some 10 }].foldl Nodes.add {}

def stillLink : MirrorLink Rat :=
  { display := { id := 20, ancestor := 2, mirrorSource := some 10 }
    sourceDisplay := { id := 10, ancestor := 1, fixedWidth := 4, fixedHeight := 2 }
    source := stillSource
    ancestor := stillSource }

theorem stillLink_linked (property : ScreenProperty Rat) :
    (stillNodes property).mirrorLink (stillMirror property) = .ok (some stillLink) := rfl

def stillFrame (property : ScreenProperty Rat) (start : VirtualDestination Rat × Services) :
    Rendering Rat :=
  start.1.render start.2 (stillMirror property) (stillNodes property) {}

def stillRecord (property : ScreenProperty Rat) (s : Services) (outcome : FrameOutcome) :
    FrameRecord Rat :=
  ⟨stillMirror property, stillNodes property, {}, s.engine, .ok outcome⟩

theorem still_run {property : ScreenProperty Rat} {log : List (FrameRecord Rat)}
    {start : VirtualDestination Rat × Services} {outcome : FrameOutcome} (run : Run log start.1)
    (h : (stillFrame property start).outcome? = some outcome) :
    Run (stillRecord property start.2 outcome :: log) (stillFrame property start).after.1 :=
  .render run (Rendering.eq_of_outcome h)

end VirtualDestination

end ScreenMirror
