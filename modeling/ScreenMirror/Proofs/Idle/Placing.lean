import ScreenMirror.Proofs.Destination.MeasuredFrames
import ScreenMirror.Proofs.Idle.Settling

/-!
# Placing once more

A frame leaves its rotations and its scaled resolution for the next one.  The next frame
of the same screen reads them instead of resolving them anew, and places its content
with the same matrix (`locate_again`).
-/

namespace ScreenMirror
open Checked

theorem Rotation.resolveOrigin_again (previous : Option Rotation) (mirrorSource : Rotation)
    (canvasRotation autoBufferRotation : Bool) (current : Rotation) :
    resolveOrigin
        (some (resolveOrigin previous mirrorSource canvasRotation autoBufferRotation current))
        mirrorSource canvasRotation autoBufferRotation current =
      resolveOrigin previous mirrorSource canvasRotation autoBufferRotation current := by
  unfold resolveOrigin
  split
  case isTrue => rfl
  case isFalse =>
    cases previous with
    | none => exact ite_self current
    | some kept =>
      dsimp only
      split <;> rfl

theorem Rotation.exchangesSize_self (r : Rotation) : r.exchangesSize r = false := by
  cases r <;> rfl

/-! ### Scaled resolutions -/

namespace Slr

variable {K : Type} {kept again : Option (Slr K)} {key : SlrKey K}

/-- The scaled resolution without its number. -/
def content (slr : Slr K) : Slr K := { slr with generation := 0 }

variable [Scalar K]

theorem compute_content (key : SlrKey K) (generation : Nat) :
    (compute key generation).content = (compute key 0).content := by
  unfold compute
  split <;> rfl

/-- A kept scaled resolution is found under the key, or another one is computed for it. -/
theorem ensure_cases (kept : Option (Slr K)) (key : SlrKey K) :
    (∃ slr, kept = some slr ∧ (slr.key == key) = true ∧ ensure kept key = slr) ∨
      ((∀ slr, kept = some slr → (slr.key == key) = false) ∧
        (ensure kept key).content = (compute key 0).content) := by
  cases kept with
  | none => exact Or.inr ⟨nofun, compute_content key 1⟩
  | some slr =>
    unfold ensure refresh
    dsimp only
    split
    case isTrue found => exact Or.inl ⟨slr, rfl, found, rfl⟩
    case isFalse other =>
      refine Or.inr ⟨fun same h => ?_, compute_content key _⟩
      exact Option.some.inj h ▸ Bool.eq_false_iff.mpr other

/-- What was ensured for a key is found or computed alike the next time. -/
theorem ensure_again (left : again.map content = some (ensure kept key).content) :
    (ensure again key).content = (ensure kept key).content := by
  obtain ⟨slr, rfl, same⟩ := Option.map_eq_some_iff.mp left
  have keyed : slr.key = (ensure kept key).key := congrArg (·.key) same
  rcases ensure_cases (some slr) key with ⟨found, held, -, result⟩ | ⟨other, computed⟩
  · cases held
    rw [result, same]
  · rcases ensure_cases kept key with ⟨found, -, named, result⟩ | ⟨-, computed'⟩
    -- What is left has the key of the one that was found, so it is found again.
    · rw [result] at keyed
      rw [← keyed, other slr rfl] at named
      cases named
    · exact computed.trans computed'.symm

end Slr

variable {K : Type} [Scalar K]

/-- A second placement of the same content goes on from what the first one left. -/
theorem MirrorInputs.place_again {i : MirrorInputs K} {kept again slr slr' : Option (Slr K)}
    {placement placement' : Option (MirrorPlacement K)}
    (first : i.place kept = .ok (placement, slr))
    (left : again.map Slr.content = slr.map Slr.content)
    (second : i.place again = .ok (placement', slr')) :
    placement' = placement ∧ slr'.map Slr.content = slr.map Slr.content := by
  unfold place at first second
  cases source : i.sourceSize? with
  | none =>
    rw [source] at first second
    cases pure_ok first
    cases pure_ok second
    exact ⟨rfl, left⟩
  | some size =>
    rw [source] at first second
    obtain ⟨matrix, anchored, first⟩ := bind_ok first
    obtain ⟨matrix', anchored', second⟩ := bind_ok second
    cases anchored.symm.trans anchored'
    cases pure_ok first
    cases pure_ok second
    refine ⟨rfl, ?_⟩
    split
    case isFalse inactive =>
      rw [if_neg inactive] at left
      exact left
    case isTrue active =>
      rw [if_pos active] at left
      exact congrArg some (Slr.ensure_again left)

namespace FrameScope

omit [Scalar K] in
theorem exchangesSize_again (scope : FrameScope K) (auto : Bool) (first : Option Rotation) :
    scope.exchangesSize auto (if auto then some (first.getD scope.bufferRotation) else first) =
      scope.exchangesSize auto first := by
  unfold exchangesSize
  cases auto with
  | false => rfl
  | true =>
    cases first with
    | none => exact Rotation.exchangesSize_self _
    | some first => rfl

/-- The rotation of the first buffer is kept, and with it the sizes. -/
theorem sized_again (scope : FrameScope K) (property : ScreenProperty K) (first : Option Rotation) :
    scope.sized property (scope.sized property first).2 = scope.sized property first := by
  unfold sized
  dsimp only
  rw [exchangesSize_again]
  cases property.autoBufferRotation <;> rfl

end FrameScope

namespace VirtualDestination

variable {d e d' e' placed placed' : VirtualDestination K} {c c' c₁ c₁' : Canvas K}
  {screen : Screen K} {link : MirrorLink K} {switches : Switches} {matrix matrix' : Affine K}

/-- A destination that goes on from what a placed one left. -/
structure GoesOn (e placed : VirtualDestination K) : Prop where
  origin : e.originRotation = placed.originRotation
  slr : e.slr.map Slr.content = placed.slr.map Slr.content

theorem place_again (first : d.place c switches = .ok (d', c'))
    (scope : e.scope = d.scope) (origin : e.originRotation = d.originRotation)
    (left : e.slr.map Slr.content = d'.slr.map Slr.content)
    (canvas : c₁.state.matrix = c.state.matrix)
    (second : e.place c₁ switches = .ok (e', c₁')) :
    e'.scope = d'.scope ∧ e'.slr.map Slr.content = d'.slr.map Slr.content ∧
      c₁'.state.matrix = c'.state.matrix := by
  have inputs : e.mirrorInputs switches = d.mirrorInputs switches := by
    unfold mirrorInputs
    rw [scope, origin]
  obtain ⟨⟨placement, slr⟩, placed, first⟩ := bind_ok first
  obtain ⟨⟨placement', slr'⟩, placed', second⟩ := bind_ok second
  rw [inputs] at placed'
  cases placement with
  | none =>
    cases pure_ok first
    obtain ⟨rfl, alike⟩ := MirrorInputs.place_again placed left placed'
    cases pure_ok second
    exact ⟨by rw [scope], alike, canvas⟩
  | some p =>
    cases pure_ok first
    obtain ⟨rfl, alike⟩ := MirrorInputs.place_again placed left placed'
    cases pure_ok second
    refine ⟨by rw [scope], alike, ?_⟩
    cases p.slrActive <;> exact congrArg (Affine.comp · p.matrix) canvas

/-- The origin is resolved as before, and the canvas is turned by it. -/
theorem turn_again (scope : e.scope = d.scope)
    (origin : e.originRotation = (d.turn c).2.1.originRotation)
    (canvas : c₁.state.matrix = c.state.matrix) :
    (e.turn c₁).2.1.scope = (d.turn c).2.1.scope ∧
      (e.turn c₁).2.1.originRotation = (d.turn c).2.1.originRotation ∧
      (e.turn c₁).2.1.slr = e.slr ∧
      (e.turn c₁).2.2.state.matrix = (d.turn c).2.2.state.matrix := by
  have again : Rotation.resolveOrigin e.originRotation e.scope.mirrorSourceRotation
      e.scope.canvasRotation e.scope.autoBufferRotation e.scope.rotation =
      Rotation.resolveOrigin d.originRotation d.scope.mirrorSourceRotation
        d.scope.canvasRotation d.scope.autoBufferRotation d.scope.rotation := by
    rw [origin, scope]
    exact Rotation.resolveOrigin_again _ _ _ _ _
  refine ⟨scope, congrArg some again, rfl, ?_⟩
  show Affine.comp c₁.state.matrix _ = Affine.comp c.state.matrix _
  rw [again, scope, canvas]

omit [Scalar K] in
theorem copyMatrix_eq (d : VirtualDestination K) :
    d.copyMatrix = ((d.activeSlr?.map Slr.content).map (·.matrix)).getD d.scope.canvasMatrix := by
  unfold copyMatrix
  cases d.activeSlr? <;> rfl

omit [Scalar K] in
theorem copyMatrix_again (scope : e.scope = d.scope)
    (left : e.slr.map Slr.content = d.slr.map Slr.content) : e.copyMatrix = d.copyMatrix := by
  have active : e.activeSlr?.map Slr.content = d.activeSlr?.map Slr.content := by
    unfold activeSlr?
    rw [scope]
    split
    · exact left
    · rfl
  rw [copyMatrix_eq, copyMatrix_eq, active, scope]

theorem place_origin (h : d.place c switches = .ok (d', c')) :
    d'.originRotation = d.originRotation := by
  obtain ⟨slr, scope, rfl, -⟩ := place_changes h
  rfl

theorem placeSaved_origin (h : d.placeSaved c switches = .ok (d', c')) :
    d'.originRotation = d.originRotation := by
  obtain ⟨⟨plain, canvas⟩, placed, h⟩ := bind_ok h
  cases pure_ok h
  have kept : plain.originRotation = d.originRotation := place_origin placed
  exact kept

theorem placeSaved_again (first : d.placeSaved c switches = .ok (d', c'))
    (scope : e.scope = d.scope) (left : e.GoesOn d')
    (canvas : c₁.state.matrix = c.state.matrix)
    (second : e.placeSaved c₁ switches = .ok (e', c₁')) :
    e'.copyMatrix = d'.copyMatrix := by
  have kept : e.originRotation = d.originRotation := left.origin.trans (placeSaved_origin first)
  obtain ⟨⟨plain, drawn⟩, placed, first⟩ := bind_ok first
  obtain ⟨⟨plain', drawn'⟩, placed', second⟩ := bind_ok second
  cases pure_ok first
  cases pure_ok second
  have saved : c₁.save.state.matrix = c.save.state.matrix := canvas
  obtain ⟨same, alike, matrix⟩ := place_again placed scope kept left.slr saved placed'
  refine copyMatrix_again ?_ alike
  show { plain'.scope with canvasMatrix := c₁'.state.matrix } = _
  rw [same, matrix]

/-- The destination as the content of a frame is measured, before it is turned. -/
def prepare (d : VirtualDestination K) (screen : Screen K) (link : MirrorLink K)
    (switches : Switches) : VirtualDestination K :=
  { d with scope :=
      { d.scope.withMirror link with drawsCopy := !needsRedraw screen link switches } }

theorem locate_cases (h : d.locate c screen link switches = .ok (placed, matrix)) :
    (needsRedraw screen link switches = false ∧ ∃ canvas,
      ((d.prepare screen link switches).turn c).2.1.placeSaved
        ((d.prepare screen link switches).turn c).2.2 switches = .ok (placed, canvas) ∧
      matrix = placed.copyMatrix) ∨
    (needsRedraw screen link switches = true ∧ ∃ canvas,
      ((d.prepare screen link switches).turn c).2.1.place
        ((d.prepare screen link switches).turn c).2.2.save switches = .ok (placed, canvas) ∧
      matrix = (sampled canvas link.ancestor.property).state.matrix) := by
  unfold locate at h
  dsimp only at h
  split at h
  case isTrue copied =>
    obtain ⟨⟨saved, canvas⟩, hp, h⟩ := bind_ok h
    cases pure_ok h
    exact Or.inl ⟨Bool.not_eq_true' _ |>.mp copied, canvas, hp, rfl⟩
  case isFalse redrawn =>
    obtain ⟨⟨plain, canvas⟩, hp, h⟩ := bind_ok h
    cases pure_ok h
    exact Or.inr ⟨by simpa using redrawn, canvas, hp, rfl⟩

theorem sampled_matrix (same : c₁.state.matrix = c.state.matrix) (property : ScreenProperty K) :
    (sampled c₁ property).state.matrix = (sampled c property).state.matrix := by
  unfold sampled
  split
  · exact congrArg (fun m => (Affine.comp m _).comp _) same
  · exact same

/-- A frame that goes on from what a placed one left is placed with the same matrix. -/
theorem locate_again (first : d.locate c screen link switches = .ok (placed, matrix))
    (scope : e.scope = d.scope) (left : e.GoesOn placed)
    (canvas : c₁.state.matrix = c.state.matrix)
    (second : e.locate c₁ screen link switches = .ok (placed', matrix')) :
    matrix' = matrix := by
  have prepared : (e.prepare screen link switches).scope = (d.prepare screen link switches).scope := by
    unfold prepare
    rw [scope]
  have turned (kept : e.originRotation = ((d.prepare screen link switches).turn c).2.1.originRotation) :=
    turn_again prepared kept canvas
  rcases locate_cases first with ⟨copied, drawn, hp, rfl⟩ | ⟨redrawn, drawn, hp, rfl⟩
  · rcases locate_cases second with ⟨-, drawn', hp', rfl⟩ | ⟨redrawn, -⟩
    · have untouched := placeSaved_origin hp
      obtain ⟨same, origin, kept, matrix⟩ := turned (left.origin.trans untouched)
      exact placeSaved_again hp same
        ⟨origin.trans untouched.symm, (congrArg _ kept).trans left.slr⟩ matrix hp'
    · rw [copied] at redrawn
      cases redrawn
  · rcases locate_cases second with ⟨copied, -⟩ | ⟨-, drawn', hp', rfl⟩
    · rw [copied] at redrawn
      cases redrawn
    · obtain ⟨same, origin, kept, matrix⟩ := turned (left.origin.trans (place_origin hp))
      obtain ⟨-, -, matrix'⟩ :=
        place_again hp same origin ((congrArg _ kept).trans left.slr) (by exact matrix) hp'
      exact sampled_matrix matrix' _

/-! ### Settled screens -/

omit [Scalar K] in
theorem needsRedraw_settle (screen : Screen K) (link : MirrorLink K) (switches : Switches) :
    needsRedraw screen.settle link.settle switches.settle = needsRedraw screen link switches := rfl

omit [Scalar K] in
theorem measures_settle (screen : Screen K) (link : MirrorLink K) (switches : Switches) :
    measures screen.settle link.settle switches.settle = measures screen link switches := rfl

theorem withMirror_settle (scope : FrameScope K) (link : MirrorLink K) :
    scope.withMirror link.settle = scope.withMirror link := rfl

/-- Content is placed by nothing that settles. -/
theorem locate_settle (d : VirtualDestination K) (c : Canvas K) (screen : Screen K)
    (link : MirrorLink K) (switches : Switches) :
    d.locate c screen.settle link.settle switches.settle = d.locate c screen link switches := by
  unfold locate measureMirror
  rw [needsRedraw_settle, withMirror_settle]
  rfl

end VirtualDestination

end ScreenMirror
