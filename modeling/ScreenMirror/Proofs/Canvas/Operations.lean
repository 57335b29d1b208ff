import ScreenMirror.Proofs.Canvas.Sheet
import ScreenMirror.Proofs.Geometry.RectPixels

/-!
# Operations on a canvas

Everything that can be done to a canvas, in any order (`Runs`).  `perform_moves`
says what one operation does to the stack of states, `perform_draws` what it adds
to the drawings.
-/

namespace ScreenMirror.Canvas
open Checked

variable {K : Type}

/-- The state in force and the saved ones below it. -/
def states (c : Canvas K) : List (CanvasState K) := c.state :: c.saved

theorem length_states (c : Canvas K) : c.states.length = c.saveCount + 1 := rfl

theorem restore_states (c : Canvas K) : c.restore.states = c.states.drop (min 1 c.saveCount) := by
  obtain ⟨base, drawings, state, saved⟩ := c
  cases saved with
  | nil => rfl
  | cons top saved =>
    have one : min 1 (top :: saved).length = 1 := Nat.min_eq_left (Nat.le_add_left 1 saved.length)
    show top :: saved = List.drop (min 1 (top :: saved).length) (state :: top :: saved)
    rw [one]
    rfl

theorem repeat_restore_states {n : Nat} {c : Canvas K} (there : n ≤ c.saveCount) :
    (Nat.repeat restore n c).states = c.states.drop n := by
  induction n with
  | zero => rfl
  | succ n ih =>
    have before := ih (by omega)
    have left : (Nat.repeat restore n c).saveCount = c.saveCount - n := by
      have length := congrArg List.length before
      rw [List.length_drop, length_states, length_states] at length
      omega
    have one : min 1 (c.saveCount - n) = 1 := by omega
    show (restore (Nat.repeat restore n c)).states = _
    rw [restore_states, left, one, before, List.drop_drop]

theorem restoreTo_states (c : Canvas K) (count : Nat) :
    (c.restoreTo count).states = c.states.drop (c.saveCount - count) :=
  repeat_restore_states (Nat.sub_le ..)

/-! ### What can be done -/

inductive Operation (K : Type) where
  | save
  | restore
  | restoreTo (count : Nat)
  | translate (x y : K)
  | scale (x y : K)
  | concat (m : Affine K)
  | withQuality (quality : FilterQuality)
  | clipPixels (r : Rect)
  | clipBox (box : Box K)
  | clear (color : Rgba)
  | fillBox (box : Box K) (color : Rgba)
  | drawImage (source : Picture)
  | drawImagePart (source : Picture) (part : Rect) (box : Box K)
  | drawScaled (slr : Slr K) (source : Picture)

variable [Scalar K]

def perform (c : Canvas K) : Operation K → Checked (Canvas K)
  | .save => return c.save
  | .restore => return c.restore
  | .restoreTo count => return c.restoreTo count
  | .translate x y => return c.translate x y
  | .scale x y => return c.scale x y
  | .concat m => return c.concat m
  | .withQuality quality => return c.withQuality quality
  | .clipPixels r => c.clipPixels r
  | .clipBox box => c.clipBox box
  | .clear color => return c.clear color
  | .fillBox box color => return c.fillBox box color
  | .drawImage source => return c.drawImage source
  | .drawImagePart source part box => c.drawImagePart source part box
  | .drawScaled slr source => return c.drawScaled slr source

/-- One operation after the other, with at least so many saved states all the way. -/
inductive Runs (least : Nat) : Canvas K → List (Operation K) → Canvas K → Prop
  | nil {c : Canvas K} (deep : least ≤ c.saveCount) : Runs least c [] c
  | cons {c next last : Canvas K} {op : Operation K} {rest : List (Operation K)}
    (deep : least ≤ c.saveCount) (done : c.perform op = .ok next)
    (run : Runs least next rest last) : Runs least c (op :: rest) last

variable {c next last : Canvas K} {op : Operation K} {ops : List (Operation K)} {least : Nat}

theorem Runs.deep_first (run : Runs least c ops last) : least ≤ c.saveCount := by
  cases run with
  | nil deep => exact deep
  | cons deep => exact deep

/-! ### The states -/

/-- A clip on a surface is within it, and the one empty rectangle if it has no pixels. -/
structure LiesOn (clip surface : Rect) : Prop where
  within : clip.Within surface
  hollow : clip.isEmpty = true → clip = Rect.empty

/-- A state that may follow the one in force, with the same clip or a narrower one. -/
def Narrows (c : Canvas K) (state : CanvasState K) : Prop :=
  state.clip = c.state.clip ∨
    ∃ clip, state.clip = some clip ∧ clip.Within c.clipBounds ∧ LiesOn clip c.bounds

/-- What an operation may do to the states: put the one in force on top of the saved
ones, go back to a saved one, or change the one in force. -/
inductive Moves (c next : Canvas K) : Prop
  | saves (pushed : next.states = c.state :: c.states)
  | restores (count : Nat) (dropped : next.states = c.states.drop count)
  | changes (kept : next.saved = c.saved) (narrower : c.Narrows next.state)

omit [Scalar K] in
theorem clipPixels_moves {r : Rect} (h : c.clipPixels r = .ok next) : Moves c next := by
  obtain ⟨inside, cut, h⟩ := bind_ok h
  have on_canvas : inside.Within c.bounds := Rect.intersect_within cut
  dsimp only at h
  split at h
  case h_1 clip clipped =>
    obtain ⟨both, meet, h⟩ := bind_ok h
    cases pure_ok h
    have bounds : c.clipBounds = clip := by rw [clipBounds, clipped]; rfl
    exact .changes rfl (Or.inr ⟨both, rfl, bounds ▸ Rect.intersect_within_left meet,
      Rect.within_trans (Rect.intersect_within meet) on_canvas, Rect.intersect_hollow meet⟩)
  case h_2 free =>
    cases pure_ok h
    have bounds : c.clipBounds = c.bounds := by rw [clipBounds, free]; rfl
    exact .changes rfl (Or.inr ⟨inside, rfl, bounds ▸ on_canvas, on_canvas,
      Rect.intersect_hollow cut⟩)

theorem drawImage_states (c : Canvas K) (source : Picture) :
    (c.drawImage source).states = c.states := by
  unfold drawImage
  dsimp only
  split <;> rfl

theorem restore_drawImage_states {placed : Canvas K} (stack : placed.saved = c.states)
    (source : Picture) : (placed.drawImage source).restore.states = c.states := by
  have drawn : (placed.drawImage source).states = placed.state :: c.state :: c.saved := by
    rw [drawImage_states, states, stack, states]
  have deep : (placed.drawImage source).saveCount = c.saved.length + 1 :=
    congrArg (·.tail.length) drawn
  have one : min 1 (c.saved.length + 1) = 1 := by omega
  rw [restore_states, deep, one, drawn]
  rfl

theorem drawImagePart_states {source : Picture} {part : Rect} {box : Box K}
    (h : c.drawImagePart source part box = .ok next) : next.states = c.states := by
  obtain ⟨inside, -, h⟩ := bind_ok h
  dsimp only at h
  split at h
  case isTrue => cases pure_ok h; rfl
  case isFalse =>
    split at h
    case h_1 => cases pure_ok h; rfl
    case h_2 cropped _ =>
      cases pure_ok h
      exact restore_drawImage_states rfl cropped

theorem drawScaled_states (c : Canvas K) (slr : Slr K) (source : Picture) :
    (c.drawScaled slr source).states = c.states :=
  restore_drawImage_states rfl source

omit [Scalar K] in
theorem moves_of_states (same : next.states = c.states) : Moves c next := by
  obtain ⟨state, saved⟩ := List.cons.inj same
  exact .changes saved (Or.inl (congrArg CanvasState.clip state))

theorem perform_moves (h : c.perform op = .ok next) : Moves c next := by
  cases op with
  | save => cases pure_ok h; exact .saves rfl
  | restore => cases pure_ok h; exact .restores _ (restore_states c)
  | restoreTo count => cases pure_ok h; exact .restores _ (restoreTo_states c count)
  | translate => cases pure_ok h; exact .changes rfl (Or.inl rfl)
  | scale => cases pure_ok h; exact .changes rfl (Or.inl rfl)
  | concat => cases pure_ok h; exact .changes rfl (Or.inl rfl)
  | withQuality => cases pure_ok h; exact .changes rfl (Or.inl rfl)
  | clipPixels => exact clipPixels_moves h
  | clipBox =>
    obtain ⟨r, -, h⟩ := bind_ok h
    exact clipPixels_moves h
  | clear => cases pure_ok h; exact moves_of_states rfl
  | fillBox =>
    cases pure_ok h
    refine moves_of_states ?_
    unfold fillBox
    split <;> rfl
  | drawImage source => cases pure_ok h; exact moves_of_states (drawImage_states c source)
  | drawImagePart => exact moves_of_states (drawImagePart_states h)
  | drawScaled slr source => cases pure_ok h; exact moves_of_states (drawScaled_states c slr source)

/-- The states above some saved ones that stay are old ones, or follow the one in force. -/
theorem perform_above {above below : List (CanvasState K)} (h : c.perform op = .ok next)
    (stack : c.saved = above ++ below) (deep : below.length ≤ next.saveCount) :
    ∃ later, next.saved = later ++ below ∧
      ∀ state ∈ next.state :: later, state ∈ c.state :: above ∨ c.Narrows state := by
  have whole : c.states = (c.state :: above) ++ below := congrArg (List.cons c.state) stack
  cases perform_moves h with
  | saves pushed =>
    obtain ⟨state, saved⟩ := List.cons.inj pushed
    refine ⟨c.state :: above, saved.trans whole, ?_⟩
    rw [state]
    exact List.forall_mem_cons.mpr ⟨Or.inl List.mem_cons_self, fun _ => Or.inl⟩
  | restores count dropped =>
    have length := congrArg List.length whole
    have left := congrArg List.length dropped
    rw [List.length_drop, length_states, length_states] at left
    rw [length_states, List.length_append, List.length_cons] at length
    -- `below` stays, so what is dropped comes from the states above it
    have kept : next.states = (c.state :: above).drop count ++ below := by
      rw [dropped, whole, List.drop_append_of_le_length]
      rw [List.length_cons]
      omega
    cases rest : (c.state :: above).drop count with
    | nil =>
      rw [List.drop_eq_nil_iff, List.length_cons] at rest
      omega
    | cons top later =>
      rw [rest] at kept
      obtain ⟨rfl, saved⟩ := List.cons.inj kept
      exact ⟨later, saved, fun state member => Or.inl (List.mem_of_mem_drop (rest ▸ member))⟩
  | changes kept narrower =>
    refine ⟨above, kept.trans stack, ?_⟩
    exact List.forall_mem_cons.mpr
      ⟨Or.inr narrower, fun state member => Or.inl (List.mem_cons_of_mem _ member)⟩

/-! ### The drawings -/

/-- A drawing that may be made on a canvas: the clip is cleared, or masks the ink. -/
def MayDraw (c : Canvas K) (d : Drawing K) : Prop :=
  (∃ color, c.clearing color = some d) ∨ d.mask = c.mask

/-- What an operation may do to the sheet: some drawings are added. -/
structure Draws (c next : Canvas K) : Prop where
  base : next.base = c.base
  drawings : ∃ made, next.drawings = made ++ c.drawings ∧ ∀ d ∈ made, c.MayDraw d

theorem draws_of_sheet (same : next.sheet = c.sheet) : Draws c next := by
  obtain ⟨base, drawings⟩ := Prod.mk.inj same
  exact ⟨base, [], drawings, fun _ member => nomatch member⟩

theorem mask_congr {a b : Canvas K} (base : a.base = b.base) (clip : a.state.clip = b.state.clip) :
    a.mask = b.mask := by
  unfold mask maskOf shape
  rw [base, clip]

theorem draws_one {ink : Ink K} {placed : Canvas K} (sheet : placed.sheet = c.sheet)
    (clip : placed.state.clip = c.state.clip) : Draws c (placed.draw ink) := by
  obtain ⟨base, drawings⟩ := Prod.mk.inj sheet
  exact ⟨base, [_], congrArg (List.cons _) drawings,
    List.forall_mem_singleton.mpr (Or.inr (mask_congr base clip))⟩

theorem drawImage_draws {placed : Canvas K} (sheet : placed.sheet = c.sheet)
    (clip : placed.state.clip = c.state.clip) (source : Picture) :
    Draws c (placed.drawImage source) := by
  unfold drawImage
  dsimp only
  split
  case h_1 => exact draws_one sheet clip
  case h_2 => exact draws_of_sheet sheet

theorem Draws.restore (draws : Draws c next) : Draws c next.restore := by
  obtain ⟨base, drawings⟩ := Prod.mk.inj (restore_sheet next)
  exact ⟨base.trans draws.base, drawings ▸ draws.drawings⟩

theorem drawImagePart_draws {source : Picture} {part : Rect} {box : Box K}
    (h : c.drawImagePart source part box = .ok next) : Draws c next := by
  obtain ⟨inside, -, h⟩ := bind_ok h
  dsimp only at h
  split at h
  case isTrue => cases pure_ok h; exact draws_of_sheet rfl
  case isFalse =>
    split at h
    case h_1 => cases pure_ok h; exact draws_of_sheet rfl
    case h_2 cropped _ =>
      cases pure_ok h
      refine Draws.restore (drawImage_draws ?_ ?_ cropped) <;> rfl

theorem clear_draws (c : Canvas K) (color : Rgba) : Draws c (c.clear color) :=
  ⟨rfl, _, rfl, fun _ member => Or.inl ⟨color, Option.mem_toList.mp member⟩⟩

theorem fillBox_draws (c : Canvas K) (box : Box K) (color : Rgba) :
    Draws c (c.fillBox box color) := by
  unfold fillBox
  split
  case h_1 => exact draws_one rfl rfl
  case h_2 => exact draws_of_sheet rfl

omit [Scalar K] in
theorem clipPixels_sheet {r : Rect} (h : c.clipPixels r = .ok next) : next.sheet = c.sheet := by
  obtain ⟨clip, rfl⟩ := clipPixels_ok h
  rfl

theorem perform_draws (h : c.perform op = .ok next) : Draws c next := by
  cases op with
  | save => cases pure_ok h; exact draws_of_sheet rfl
  | restore => cases pure_ok h; exact draws_of_sheet (restore_sheet c)
  | restoreTo count => cases pure_ok h; exact draws_of_sheet (restoreTo_sheet c count)
  | translate => cases pure_ok h; exact draws_of_sheet rfl
  | scale => cases pure_ok h; exact draws_of_sheet rfl
  | concat => cases pure_ok h; exact draws_of_sheet rfl
  | withQuality => cases pure_ok h; exact draws_of_sheet rfl
  | clipPixels => exact draws_of_sheet (clipPixels_sheet h)
  | clipBox =>
    obtain ⟨r, -, h⟩ := bind_ok h
    exact draws_of_sheet (clipPixels_sheet h)
  | clear color => cases pure_ok h; exact clear_draws c color
  | fillBox box color => cases pure_ok h; exact fillBox_draws c box color
  | drawImage source => cases pure_ok h; exact drawImage_draws rfl rfl source
  | drawImagePart => exact drawImagePart_draws h
  | drawScaled slr source =>
    cases pure_ok h
    refine Draws.restore (drawImage_draws ?_ ?_ source) <;> rfl

theorem Runs.base (run : Runs least c ops last) : last.base = c.base := by
  induction run with
  | nil => rfl
  | cons _ done _ ih => exact ih.trans (perform_draws done).base

/-- What holds of the states above some saved ones that stay holds of those after a run, if it
passes on to every state that may follow. -/
theorem Runs.above {above below : List (CanvasState K)} {P : CanvasState K → Prop}
    (run : Runs below.length c ops last) (stack : c.saved = above ++ below)
    (all : ∀ state ∈ c.state :: above, P state)
    (passes : ∀ d : Canvas K, d.base = c.base → P d.state → ∀ state, d.Narrows state → P state) :
    ∃ later, last.saved = later ++ below ∧ ∀ state ∈ last.state :: later, P state := by
  -- `below` is fixed along the run, what is above it changes with each operation
  induction run generalizing above with
  | nil => exact ⟨above, stack, all⟩
  | cons _ done run ih =>
    obtain ⟨later, stack', narrower⟩ := perform_above done stack run.deep_first
    refine ih stack' (fun state member => ?_)
      (fun d base => passes d (base.trans (perform_draws done).base))
    rcases narrower state member with old | follows
    · exact all state old
    · exact passes _ rfl (all _ List.mem_cons_self) state follows

end ScreenMirror.Canvas
