import ScreenMirror.Geometry.Outline
import ScreenMirror.Named
import ScreenMirror.Picture.Basic
import ScreenMirror.Placement.Slr

/-!
# Canvas

A canvas keeps the picture it started from and the drawings made on it, each
with the matrix and the clip in force when it was made.  `Canvas.picture` plays
the drawings back.
-/

namespace ScreenMirror

/-- How pictures are resampled when they are drawn. -/
inductive FilterQuality where
  | nearest
  | bilinear
  | bicubic
  deriving DecidableEq, Repr

instance : Inhabited FilterQuality := ⟨.bilinear⟩

def FilterQuality.name : FilterQuality → String
  | .nearest => "Nearest"
  | .bilinear => "Bilinear"
  | .bicubic => "Bicubic"

instance : Named FilterQuality := ⟨[.nearest, .bilinear, .bicubic], FilterQuality.name⟩

/-- Device pixels that are filled: a block of the pixel grid, or a shape. -/
inductive Area where
  | block (pixels : Rect)
  | shape (pixels : Shape)

def Area.holds : Area → Nat → Nat → Bool
  | .block pixels, x, y => pixels.holds x y
  | .shape pixels, x, y => pixels.holds x y

/-- What a drawing puts down. -/
inductive Ink (K : Type) where
  | clear (color : Rgba)
  /-- A colour in place of what was there. -/
  | store (area : Area) (color : Rgba)
  /-- A colour over what was there. -/
  | fill (area : Area) (color : Rgba)
  /-- A picture under a matrix: its shape, and the map back to it. -/
  | image (source : Picture) (matrix : Affine K) (shape : Shape) (back : Affine K)

/-- One drawing: an ink and the clip that it was put down under. -/
structure Drawing (K : Type) where
  ink : Ink K
  clip : Option Rect
  /-- The device pixels that the drawing may touch, or all. -/
  mask : Option Shape

variable {K : Type} [Scalar K]

def pixelCentre (x y : Nat) : Point K :=
  ⟨Scalar.ofUInt32 (UInt32.ofNat x) + 0.5, Scalar.ofUInt32 (UInt32.ofNat y) + 0.5⟩

/-- The colour of the pixel of a picture that is closest to a point. -/
def Picture.sample (p : Picture) (point : Point K) : Rgba :=
  let nearest (v : K) (size : UInt32) : Nat := min (Scalar.toUInt32 v).toNat (size.toNat - 1)
  p.pixel (nearest point.x p.width) (nearest point.y p.height)

namespace Drawing

def allows (d : Drawing K) (x y : Nat) : Bool :=
  match d.mask with
  | none => true
  | some pixels => pixels.holds x y

/-- The colour of a pixel after the drawing. -/
def pixel (d : Drawing K) (below : Nat → Nat → Rgba) (x y : Nat) : Rgba :=
  if d.allows x y then
    match d.ink with
    | .clear color => color
    | .store area color => if area.holds x y then color else below x y
    | .fill area color => if area.holds x y then color.fillOver (below x y) else below x y
    | .image source _ shape back =>
      if shape.holds x y then (source.sample (back.apply (pixelCentre x y))).imageOver (below x y)
      else below x y
  else below x y

def pixels (start : Nat → Nat → Rgba) : List (Drawing K) → Nat → Nat → Rgba
  | [] => start
  | d :: earlier => d.pixel (pixels start earlier)

end Drawing

structure CanvasState (K : Type) where
  matrix : Affine K
  /-- The device pixels that drawings may touch, or all. -/
  clip : Option Rect
  quality : FilterQuality
  deriving BEq, DecidableEq, Repr

structure Canvas (K : Type) where
  base : Picture
  /-- The drawings made so far, the last one first. -/
  drawings : List (Drawing K)
  state : CanvasState K
  /-- The saved states, the last one first. -/
  saved : List (CanvasState K)

namespace Canvas

def ofPicture (p : Picture) : Canvas K :=
  ⟨p, [], ⟨Affine.identity, none, default⟩, []⟩

def blank? (width height : UInt32) : Option (Canvas K) :=
  (Picture.blank? width height).map ofPicture

def picture (c : Canvas K) : Picture :=
  { c.base with pixel := Drawing.pixels c.base.pixel c.drawings }

def bounds (c : Canvas K) : Rect := c.base.bounds

/-! ### The stack of states -/

def saveCount (c : Canvas K) : Nat := c.saved.length

def save (c : Canvas K) : Canvas K := { c with saved := c.state :: c.saved }

def restore (c : Canvas K) : Canvas K :=
  match c.saved with
  | [] => c
  | state :: saved => { c with state, saved }

def restoreTo (c : Canvas K) (count : Nat) : Canvas K :=
  Nat.repeat restore (c.saveCount - count) c

/-! ### Matrix, quality and clip -/

/-- The canvas with a map applied before its matrix. -/
def concat (c : Canvas K) (m : Affine K) : Canvas K :=
  { c with state := { c.state with matrix := c.state.matrix.comp m } }

def translate (c : Canvas K) (x y : K) : Canvas K := c.concat (Affine.shift x y)

def scale (c : Canvas K) (x y : K) : Canvas K := c.concat (Affine.scaling x y)

def withQuality (c : Canvas K) (quality : FilterQuality) : Canvas K :=
  { c with state := { c.state with quality } }

def clipBounds (c : Canvas K) : Rect := c.state.clip.getD c.bounds

/-- The canvas with its clip cut down to a rectangle of device pixels. -/
def clipPixels (c : Canvas K) (r : Rect) : Checked (Canvas K) := do
  let inside ← r.intersect c.bounds
  let clip ←
    match c.state.clip with
    | some clip => clip.intersect inside
    | none => pure inside
  return { c with state := { c.state with clip := some clip } }

/-- The canvas with its clip cut down to the device pixels of a local box. -/
def clipBox (c : Canvas K) (box : Box K) : Checked (Canvas K) := do
  c.clipPixels (← (box.image c.state.matrix).pixels)

/-! ### Drawing -/

def shape (c : Canvas K) (m : Affine K) (box : Box K) : Shape :=
  Shape.ofQuad (box.corners.image m) c.base.width.toNat c.base.height.toNat

/-- Whether the picture is drawn in one piece. -/
def isOnePiece (c : Canvas K) : Bool :=
  c.base.width.toNat ≤ Patch.maxLength && c.base.height.toNat ≤ Patch.maxLength

/-- The device pixels of a box under a map.  While the grid is not moved and the
picture is drawn in one piece, they are a block. -/
def area? (c : Canvas K) (m : Affine K) (box : Box K) : Option Area :=
  if !box.isOrdered then none
  else if m.isIdentity && c.isOnePiece then box.block?.map .block
  else some (.shape (c.shape m box))

/-- The device pixels inside a rectangle.  Its edges are numbers like others: one
that is not held exactly moves. -/
def maskOf (c : Canvas K) (clip : Rect) : Shape :=
  match Box.ofRect clip with
  | .ok box => c.shape Affine.identity box
  | .error _ => []

/-- The device pixels inside the clip, if there is a clip. -/
def mask (c : Canvas K) : Option Shape := c.state.clip.map c.maskOf

/-- The canvas with one more drawing, under the clip in force. -/
def draw (c : Canvas K) (ink : Ink K) : Canvas K :=
  { c with drawings := ⟨ink, c.state.clip, c.mask⟩ :: c.drawings }

/-- What clears the canvas: without a clip everything, otherwise the box of the
clip, if it has pixels. -/
def clearing (c : Canvas K) (color : Rgba) : Option (Drawing K) :=
  match c.state.clip with
  | none => some ⟨.clear color, none, none⟩
  | some clip =>
    if clip.isEmpty then none
    else
      ((Box.ofRect clip).toOption.bind (c.area? Affine.identity)).map fun area =>
        ⟨.store area color, clip, none⟩

def clear (c : Canvas K) (color : Rgba) : Canvas K :=
  { c with drawings := (c.clearing color).toList ++ c.drawings }

def fillBox (c : Canvas K) (box : Box K) (color : Rgba) : Canvas K :=
  match c.area? c.state.matrix box with
  | some area => c.draw (.fill area color)
  | none => c

def drawImage (c : Canvas K) (source : Picture) : Canvas K :=
  let extent : Box K := ⟨0.0, 0.0, Scalar.ofUInt32 source.width, Scalar.ofUInt32 source.height⟩
  match c.state.matrix.inverse? with
  | some back => c.draw (.image source c.state.matrix (c.shape c.state.matrix extent) back)
  | none => c

/-- The canvas with a part of a picture stretched over a local box.  What the
part lacks because it hangs over the picture is not left out of the box. -/
def drawImagePart (c : Canvas K) (source : Picture) (part : Rect) (box : Box K) :
    Checked (Canvas K) := do
  let inside ← part.intersect source.bounds
  if inside.isEmpty then return c
  match source.crop? inside with
  | none => return c
  | some cropped =>
    let placed := (c.save.translate box.left box.top).scale
      (box.width / Scalar.ofInt32 inside.width) (box.height / Scalar.ofInt32 inside.height)
    return (placed.drawImage cropped).restore

def drawScaled (c : Canvas K) (slr : Slr K) (source : Picture) : Canvas K :=
  (((c.save.withQuality .bicubic).concat slr.matrix).drawImage source).restore

end Canvas

end ScreenMirror
