import ScreenMirror.Destination.LiveFrame
import ScreenMirror.Main
import ScreenMirror.Proofs.Destination.CopyClip
import ScreenMirror.Proofs.Destination.PanelPicture
import ScreenMirror.Proofs.Destination.SkippedSurface
import ScreenMirror.Proofs.Veil.MutedMirrors
import ScreenMirror.Proofs.Surface.BufferAges
import ScreenMirror.Proofs.Damage.Answers
import ScreenMirror.Proofs.Arith.Equality
import ScreenMirror.Proofs.Damage.RefreshCauses
import ScreenMirror.Proofs.Destination.Relabeled
import ScreenMirror.Proofs.Destination.FrameEffects
import ScreenMirror.Proofs.Compositor.Isolation
import ScreenMirror.Proofs.Compositor.Accounts
import ScreenMirror.Proofs.Compositor.Processors
import ScreenMirror.Proofs.Frame.CancelledDrawings
import ScreenMirror.Proofs.Destination.CancelledFrames
import ScreenMirror.Proofs.Placement.CarriedFit
import ScreenMirror.Proofs.Destination.PanelDamage
import ScreenMirror.Proofs.Destination.RegionDamage
import ScreenMirror.Proofs.Destination.SurfaceChanges
import ScreenMirror.Proofs.Idle.Refreshes
import ScreenMirror.Proofs.Sync.FenceHistory
import ScreenMirror.Proofs.Compositor.FenceGrowth
import ScreenMirror.Proofs.Compositor.QueuedFrames
import ScreenMirror.Proofs.Config.SceneLinks
import ScreenMirror.Proofs.Config.NodeNames
import ScreenMirror.Proofs.Destination.BufferSizes
import ScreenMirror.Proofs.Placement.Letterbox
import ScreenMirror.Proofs.Damage.ExactDamage
import ScreenMirror.Proofs.Metadata.RoiBytes
import ScreenMirror.Proofs.Destination.SampledClip
import ScreenMirror.Proofs.Frame.FrameEnds
import ScreenMirror.Proofs.Placement.ScaleCache
import ScreenMirror.Proofs.Command.Grammar
import ScreenMirror.Proofs.Canvas.SavedStates
import ScreenMirror.Proofs.Canvas.ClippedDrawing
import ScreenMirror.Proofs.Damage.SkipCount
import ScreenMirror.Proofs.Damage.LeftoverDirt
import ScreenMirror.Proofs.Geometry.ImagePixels
