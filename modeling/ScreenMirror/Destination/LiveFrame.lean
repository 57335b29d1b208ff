import ScreenMirror.Destination.VirtualDraw

/-!
# Steps on the live frame

The steps of a frame one at a time, for whoever drives a virtual screen by hand.
A step that needs the canvas fails while no frame is live.
-/

namespace ScreenMirror

namespace VirtualDestination

variable {K : Type} [Scalar K]

def turnLive (d : VirtualDestination K) :
    Checked (Except FrameError Rotation × VirtualDestination K) :=
  d.onCanvas fun c => return d.turn c

def placeLive (d : VirtualDestination K) (switches : Switches) :
    Checked (Except FrameError Unit × VirtualDestination K) :=
  d.onCanvas fun c => return ((), ← d.place c switches)

def placeSavedLive (d : VirtualDestination K) (switches : Switches) :
    Checked (Except FrameError Unit × VirtualDestination K) :=
  d.onCanvas fun c => return ((), ← d.placeSaved c switches)

/-- The live canvas is clipped to the mirrored content.  A filled frame needs no
clip, and no canvas. -/
def clipLive (d : VirtualDestination K) (beforeSampling : Affine K)
    (isSampling slrEnabled : Bool) : Checked (Except FrameError Unit × VirtualDestination K) :=
  match d.scope.scaleMode with
  | .fill => return (.ok (), d)
  | .uniform =>
    d.onCanvas fun c => return ((), d, ← d.clipContent c beforeSampling isSampling slrEnabled)

/-- The last frame of a screen is drawn on the live canvas.  Without a mirrored
screen, or without a frame, nothing is drawn. -/
def drawSourceLive (d : VirtualDestination K) (source : Screen K) :
    Checked (Except FrameError Unit × VirtualDestination K) :=
  match d.scope.mirrored, source.buffer with
  | some _, some _ => d.onCanvas fun c => return ((), d, ← d.drawSource c source)
  | _, _ => return (.ok (), d)

def drawCacheImageLive (d : VirtualDestination K) (image : Picture) :
    Checked (Except FrameError Unit × VirtualDestination K) :=
  d.onCanvas fun c => return ((), d, d.drawCacheImage c image)

end VirtualDestination

end ScreenMirror
