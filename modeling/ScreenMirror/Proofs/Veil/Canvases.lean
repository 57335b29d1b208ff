import ScreenMirror.Proofs.Canvas.Sheet

/-!
# Veiled canvases

A veiled picture keeps its size and loses its colours.  No step on a canvas looks
at colours: the steps go through `recast`, which changes the colours of the first
picture and hides those of the pictures that are drawn, or leaves them.
-/

namespace ScreenMirror
open Checked

namespace Picture

/-- The picture with its colours hidden, or as it is. -/
def hide (hidden : Bool) (p : Picture) : Picture :=
  { p with pixel := fun x y => bif hidden then Rgba.transparent else p.pixel x y }

def veil (p : Picture) : Picture := p.hide true

@[simp]
theorem hide_width (hidden : Bool) (p : Picture) : (p.hide hidden).width = p.width := rfl

@[simp]
theorem hide_height (hidden : Bool) (p : Picture) : (p.hide hidden).height = p.height := rfl

theorem hide_false (p : Picture) : p.hide false = p := rfl

theorem hide_crop (hidden : Bool) (p : Picture) (r : Rect) :
    (p.crop? r).map (hide hidden) = (p.hide hidden).crop? r := by
  unfold crop? ofPixels?
  split <;> rfl

theorem veil_of_blank {p : Picture} {width height : UInt32} (h : blank? width height = some p) :
    p.veil = p := by
  unfold blank? ofPixels? at h
  split at h
  · cases h
    rfl
  · cases h

/-- Pictures that agree but for their colours. -/
theorem recolor_of_veil {p q : Picture} (same : p.veil = q.veil) :
    q = { p with pixel := q.pixel } := by
  obtain ⟨width, height, size, pixel⟩ := p
  obtain ⟨width', height', size', pixel'⟩ := q
  simp only [veil, hide, mk.injEq] at same
  obtain ⟨rfl, rfl, -⟩ := same
  rfl

end Picture

variable {K : Type}

namespace Drawing

def hide (hidden : Bool) : Drawing K → Drawing K
  | ⟨.image source matrix shape back, clip, mask⟩ =>
    ⟨.image (source.hide hidden) matrix shape back, clip, mask⟩
  | ⟨.clear color, clip, mask⟩ => ⟨.clear color, clip, mask⟩
  | ⟨.store area color, clip, mask⟩ => ⟨.store area color, clip, mask⟩
  | ⟨.fill area color, clip, mask⟩ => ⟨.fill area color, clip, mask⟩

theorem hide_false (d : Drawing K) : d.hide false = d := by
  obtain ⟨ink, clip, mask⟩ := d
  cases ink <;> rfl

end Drawing

namespace Canvas

/-- The canvas over other colours, and with the pictures on it hidden or as they are. -/
def recast (below : Nat → Nat → Rgba) (hidden : Bool) (c : Canvas K) : Canvas K :=
  { c with base := { c.base with pixel := below }, drawings := c.drawings.map (Drawing.hide hidden) }

def veil (c : Canvas K) : Canvas K := c.recast (fun _ _ => Rgba.transparent) true

/-- The canvas before anything was drawn, over a veiled picture. -/
def bare (c : Canvas K) : Canvas K := { c with base := c.base.veil, drawings := [] }

variable {below : Nat → Nat → Rgba} {hidden : Bool}

theorem recast_restore (c : Canvas K) :
    c.restore.recast below hidden = (c.recast below hidden).restore := by
  unfold restore
  dsimp only [recast]
  split <;> rfl

theorem recast_restoreTo (c : Canvas K) (count : Nat) :
    (c.restoreTo count).recast below hidden = (c.recast below hidden).restoreTo count := by
  have repeated (n : Nat) : (Nat.repeat restore n c).recast below hidden =
      Nat.repeat restore n (c.recast below hidden) := by
    induction n with
    | zero => rfl
    | succ n ih => exact (recast_restore _).trans (congrArg restore ih)
  exact repeated _

theorem recast_clipPixels (c : Canvas K) (r : Rect) :
    (c.clipPixels r).map (recast below hidden) = (c.recast below hidden).clipPixels r := by
  refine map_bind_same fun inside => ?_
  dsimp only [recast]
  split
  · exact map_bind_same fun clip => rfl
  · rfl

variable [Scalar K]

theorem picture_alike {c c' : Canvas K} (same : c.veil = c'.veil) :
    c.picture.veil = c'.picture.veil :=
  congrArg Canvas.base same

theorem veil_ofPicture (p : Picture) : (ofPicture p : Canvas K).veil = ofPicture p.veil := rfl

theorem recast_clipBox (c : Canvas K) (box : Box K) :
    (c.clipBox box).map (recast below hidden) = (c.recast below hidden).clipBox box :=
  map_bind_same fun pixels => recast_clipPixels c pixels

theorem recast_clear (c : Canvas K) (color : Rgba) :
    (c.clear color).recast below hidden = (c.recast below hidden).clear color := by
  have same : (c.recast below hidden).clearing color = c.clearing color := rfl
  have kept : (c.clearing color).map (Drawing.hide hidden) = c.clearing color := by
    unfold clearing
    split
    case h_1 => rfl
    case h_2 clip _ =>
      split
      · rfl
      · cases (Box.ofRect clip).toOption.bind (c.area? Affine.identity) <;> rfl
  unfold clear
  rw [same]
  dsimp only [recast]
  rw [List.map_append, ← Option.toList_map, kept]

theorem recast_drawImage (c : Canvas K) (source : Picture) :
    (c.drawImage source).recast below hidden =
      (c.recast below hidden).drawImage (source.hide hidden) := by
  unfold drawImage
  dsimp only [recast]
  split <;> rfl

theorem recast_drawScaled (c : Canvas K) (slr : Slr K) (source : Picture) :
    (c.drawScaled slr source).recast below hidden =
      (c.recast below hidden).drawScaled slr (source.hide hidden) := by
  unfold drawScaled
  rw [recast_restore, recast_drawImage]
  rfl

theorem recast_drawImagePart (c : Canvas K) (source : Picture) (part : Rect) (box : Box K) :
    (c.drawImagePart source part box).map (recast below hidden) =
      (c.recast below hidden).drawImagePart (source.hide hidden) part box := by
  refine map_bind_same fun inside => ?_
  dsimp only
  split
  · rfl
  · rw [← Picture.hide_crop]
    cases source.crop? inside with
    | none => rfl
    | some cropped =>
      refine congrArg Except.ok ?_
      rw [recast_restore, recast_drawImage]
      rfl

/-! ### What a cleared canvas shows -/

/-- What the canvas shows is made of its drawings alone. -/
def Cleared (c : Canvas K) : Prop :=
  ∀ start start' : Nat → Nat → Rgba,
    Drawing.pixels start c.drawings = Drawing.pixels start' c.drawings

theorem clear_cleared {c : Canvas K} (unclipped : c.state.clip = none) (color : Rgba) :
    (c.clear color).Cleared := by
  intro start start'
  funext x y
  simp only [clear, clearing, unclipped]
  rfl

theorem draw_cleared {c : Canvas K} (cleared : c.Cleared) (ink : Ink K) : (c.draw ink).Cleared :=
  fun start start' => congrArg (Drawing.pixel ⟨ink, c.state.clip, c.mask⟩) (cleared start start')

theorem drawImage_cleared {c : Canvas K} (cleared : c.Cleared) (source : Picture) :
    (c.drawImage source).Cleared := by
  unfold drawImage
  dsimp only
  split
  · exact draw_cleared cleared _
  · exact cleared

theorem cleared_of_sheet {c other : Canvas K} (cleared : c.Cleared) (same : other.sheet = c.sheet) :
    other.Cleared := by
  unfold Cleared
  rw [show other.drawings = c.drawings from congrArg Prod.snd same]
  exact cleared

theorem drawImagePart_cleared {c drawn : Canvas K} {source : Picture} {part : Rect} {box : Box K}
    (cleared : c.Cleared) (h : c.drawImagePart source part box = .ok drawn) : drawn.Cleared := by
  obtain ⟨inside, -, h⟩ := bind_ok h
  dsimp only at h
  split at h
  · cases pure_ok h
    exact cleared
  · split at h
    · cases pure_ok h
      exact cleared
    · cases pure_ok h
      refine cleared_of_sheet (drawImage_cleared ?_ _) (restore_sheet _)
      exact cleared

theorem picture_recast {c : Canvas K} (cleared : c.Cleared) (below : Nat → Nat → Rgba) :
    (c.recast below false).picture = c.picture := by
  have same : (c.recast below false).drawings = c.drawings := by
    have kept : (Drawing.hide false : Drawing K → Drawing K) = id := funext Drawing.hide_false
    dsimp only [recast]
    rw [kept, List.map_id]
  unfold picture
  rw [same]
  exact congrArg (fun pixel => { c.base with pixel }) (cleared _ _)

end Canvas

end ScreenMirror
