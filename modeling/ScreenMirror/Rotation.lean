import ScreenMirror.Geometry.Affine
import ScreenMirror.Named

/-!
# Rotations of a screen

Rotations are quarter turns, counted modulo four.  A rotation that was never
set enters the arithmetic as no rotation: `turns_compose` gives the law.
-/

namespace ScreenMirror

/-- Clockwise rotation of a screen or display. -/
inductive Rotation where
  | deg0
  | deg90
  | deg180
  | deg270
  /-- No rotation was set. -/
  | unset
  deriving DecidableEq, Repr, Inhabited

/-- Orientation of the output of a panel: quarter turns, after a flip or not. -/
structure PanelOrientation where
  flipped : Bool
  turns : Fin 4
  deriving DecidableEq, Repr, Inhabited

def PanelOrientation.name (o : PanelOrientation) : String :=
  match o.flipped, o.turns.val with
  | false, 0 => "Normal"
  | false, n => "_" ++ toString (n * 90)
  | true, 0 => "Flipped"
  | true, n => "Flipped" ++ toString (n * 90)

instance : Named PanelOrientation :=
  ⟨[false, true].flatMap fun flipped => [0, 1, 2, 3].map (PanelOrientation.mk flipped),
    PanelOrientation.name⟩

namespace Rotation

/-- The rotation by a number of quarter turns. -/
def ofTurns : Fin 4 → Rotation
  | 0 => deg0
  | 1 => deg90
  | 2 => deg180
  | 3 => deg270

/-- The rotation by an index, counted modulo four. -/
def ofIndex (index : Nat) : Rotation := ofTurns (Fin.ofNat 4 index)

/-- Quarter turns of the rotation; an unset one has none. -/
def turns : Rotation → Fin 4
  | deg0 => 0
  | deg90 => 1
  | deg180 => 2
  | deg270 => 3
  | unset => 0

/-- The rotation by an angle modulo a full turn; off the quarter turns it is unset. -/
def ofDegrees (degrees : Int) : Rotation :=
  let angle := degrees % 360
  if angle % 90 = 0 then ofIndex (angle / 90).toNat else unset

def isSet (r : Rotation) : Bool := r != unset

def degrees? (r : Rotation) : Option Nat := if r.isSet then some (r.turns.val * 90) else none

def swapsAxes : Rotation → Bool
  | deg90 | deg270 => true
  | _ => false

/-- Orientation of a panel that shows the rotation. -/
def orientation (r : Rotation) : PanelOrientation := ⟨false, r.turns⟩

/-- Rotation of a panel; flipped orientations have none. -/
def ofOrientation (o : PanelOrientation) : Rotation := if o.flipped then unset else ofTurns o.turns

def name : Rotation → String
  | deg0 => "Rotation0"
  | deg90 => "Rotation90"
  | deg180 => "Rotation180"
  | deg270 => "Rotation270"
  | unset => "Invalid"

instance : Named Rotation := ⟨[deg0, deg90, deg180, deg270, unset], name⟩

/-- The rotation to draw the source with.  A set rotation of the mirror link
wins.  Otherwise the rotation resolved before is kept, unless there is none or a
rotation flag of the destination asks for the current one. -/
def resolveOrigin (previous : Option Rotation) (mirrorSource : Rotation)
    (canvasRotation autoBufferRotation : Bool) (current : Rotation) : Rotation :=
  if mirrorSource.isSet then mirrorSource
  else
    match previous with
    | some kept => if !canvasRotation && !autoBufferRotation then kept else current
    | none => current

/-- The rotation left after the mounting of the panel is taken off. -/
def compose (origin correction : Rotation) : Rotation :=
  ofIndex (origin.turns.val + 4 - correction.turns.val)

def exchangesSize (first current : Rotation) : Bool :=
  (first.turns.val + 4 - current.turns.val) % 4 % 2 == 1

/-- The map that rotates content onto a buffer of the given size. -/
def onto {K : Type} [Scalar K] (r : Rotation) (width height : K) : Affine K :=
  match r with
  | deg0 | unset => Affine.identity
  | deg180 => Affine.quarterTurnsAt 2 (Scalar.half width) (Scalar.half height)
  | deg90 | deg270 =>
    ((Affine.shift (Scalar.half width) (Scalar.half height)).comp
      (Affine.quarterTurns r.turns)).preTranslate (Scalar.half (-height)) (Scalar.half (-width))

theorem turns_ofTurns (t : Fin 4) : (ofTurns t).turns = t := by
  match t with
  | 0 | 1 | 2 | 3 => rfl

theorem turns_compose (origin correction : Rotation) :
    (compose origin correction).turns = origin.turns - correction.turns := by
  cases origin <;> cases correction <;> rfl

theorem swapsAxes_eq_odd (r : Rotation) : r.swapsAxes = (r.turns.val % 2 == 1) := by
  cases r <;> rfl

theorem exchangesSize_eq_swapsAxes (first current : Rotation) :
    exchangesSize first current = (compose first current).swapsAxes := by
  cases first <;> cases current <;> rfl

end Rotation

end ScreenMirror
