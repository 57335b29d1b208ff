import ScreenMirror.Proofs.Arith.Equality
import ScreenMirror.Proofs.Placement.ScaledFit

/-!
# A kept scaled resolution is up to date

Keys that are equal may differ in the signs of their zeros, but then nothing is scaled
for either.  So what is kept for one key is what would be computed for every key that is
equal to it (`data_of_beq`), whatever was asked for before (`kept_like_new`).
-/

namespace ScreenMirror

/-! ### Equal numbers -/

theorem float_le_zero_of_beq {a b : Float32} (same : (a == b) = true) : a ≤ 0.0 ↔ b ≤ 0.0 := by
  have zero : (0 : Float32) ≤ 0.0 := by decide
  have negative : (-0 : Float32) ≤ 0.0 := by decide
  obtain ⟨-, -, rfl | ⟨rfl, rfl⟩ | ⟨rfl, rfl⟩⟩ := Float32.beq_iff_ne_nan_and_eq.mp same
  · rfl
  · exact iff_of_true zero negative
  · exact iff_of_true negative zero

/-- Only zeros are equal and not the same. -/
theorem float_eq_of_beq {a b : Float32} (same : (a == b) = true) (positive : ¬ b ≤ 0.0) : a = b := by
  obtain ⟨-, -, rfl | ⟨rfl, rfl⟩ | ⟨rfl, rfl⟩⟩ := Float32.beq_iff_ne_nan_and_eq.mp same
  · rfl
  · exact absurd (by decide) positive
  · exact absurd (by decide) positive

/-! ### Keys -/

namespace SlrKey

variable {K : Type} [Scalar K] {key other : SlrKey K}

theorem beq_iff : (key == other) = true ↔ (key.targetWidth == other.targetWidth) = true ∧
    (key.targetHeight == other.targetHeight) = true ∧
    (key.sourceWidth == other.sourceWidth) = true ∧
    (key.sourceHeight == other.sourceHeight) = true ∧ key.gamut = other.gamut := by
  show (_ && (_ && (_ && (_ && _)))) = true ↔ _
  simp only [Bool.and_eq_true, beq_iff_eq]

instance partialEquivBEq [PartialEquivBEq K] : PartialEquivBEq (SlrKey K) where
  symm {a b} same := by
    rw [beq_iff] at same ⊢
    obtain ⟨width, height, sourceWidth, sourceHeight, gamut⟩ := same
    exact ⟨BEq.symm width, BEq.symm height, BEq.symm sourceWidth, BEq.symm sourceHeight, gamut.symm⟩
  trans {a b c} ab bc := by
    rw [beq_iff] at ab bc ⊢
    obtain ⟨width, height, sourceWidth, sourceHeight, gamut⟩ := ab
    obtain ⟨width', height', sourceWidth', sourceHeight', gamut'⟩ := bc
    exact ⟨BEq.trans width width', BEq.trans height height', BEq.trans sourceWidth sourceWidth',
      BEq.trans sourceHeight sourceHeight', gamut.trans gamut'⟩

/-- A key with a side that has no extent. -/
def Hollow (key : SlrKey K) : Prop :=
  key.sourceWidth ≤ 0.0 ∨ key.sourceHeight ≤ 0.0 ∨ key.targetWidth ≤ 0.0 ∨ key.targetHeight ≤ 0.0

theorem hollow_of_beq {key other : SlrKey Float32} (same : (key == other) = true) :
    key.Hollow ↔ other.Hollow := by
  obtain ⟨width, height, sourceWidth, sourceHeight, -⟩ := beq_iff.mp same
  unfold Hollow
  rw [float_le_zero_of_beq width, float_le_zero_of_beq height, float_le_zero_of_beq sourceWidth,
    float_le_zero_of_beq sourceHeight]

theorem eq_of_beq {key other : SlrKey Float32} (same : (key == other) = true)
    (solid : ¬ other.Hollow) : key = other := by
  obtain ⟨width, height, sourceWidth, sourceHeight, gamut⟩ := beq_iff.mp same
  unfold Hollow at solid
  push Not at solid
  obtain ⟨w, h, w', h'⟩ := solid
  obtain ⟨_, _, _, _, _⟩ := key
  obtain ⟨_, _, _, _, _⟩ := other
  dsimp only at *
  rw [float_eq_of_beq width w', float_eq_of_beq height h', float_eq_of_beq sourceWidth w,
    float_eq_of_beq sourceHeight h, gamut]

end SlrKey

namespace Slr

/-! ### What a key determines -/

section
variable {K : Type} [Scalar K] {key : SlrKey K} {generation : Nat}

/-- What was computed for the key. -/
def data (slr : Slr K) : K × UInt32 × Affine K × Bool :=
  (slr.scale, slr.kernel, slr.matrix, slr.isCopy)

theorem compute_eq (key : SlrKey K) (generation : Nat) :
    compute key generation = { ofKey key with generation } := by
  unfold ofKey compute
  split <;> rfl

theorem compute_data (key : SlrKey K) (generation : Nat) :
    (compute key generation).data = (ofKey key).data := by
  rw [compute_eq]
  rfl

theorem compute_hollow (hollow : key.Hollow) :
    compute key generation = ⟨key, 1.0, 1, Affine.identity, false, generation⟩ := by
  unfold SlrKey.Hollow at hollow
  unfold compute
  refine if_pos ?_
  simpa only [Bool.or_eq_true, decide_eq_true_eq, or_assoc] using hollow

theorem kernel_bounds (key : SlrKey K) (generation : Nat) :
    1 ≤ (compute key generation).kernel ∧ (compute key generation).kernel ≤ 8 := by
  have one : (1 : UInt32) ≤ maxKernel := by decide
  have clamped (n : UInt32) : 1 ≤ max 1 (min n maxKernel) ∧ max 1 (min n maxKernel) ≤ maxKernel := by
    show 1 ≤ ite (1 ≤ min n maxKernel) _ _ ∧ ite (1 ≤ min n maxKernel) _ _ ≤ maxKernel
    split
    case isTrue positive => exact ⟨positive, Std.min_le_right⟩
    case isFalse => exact ⟨UInt32.le_refl 1, one⟩
  unfold compute
  split
  case isTrue => exact ⟨UInt32.le_refl 1, one⟩
  case isFalse => exact clamped _

end

/-- The same is computed for equal keys. -/
theorem data_of_beq {key other : SlrKey Float32} (same : (key == other) = true) :
    (ofKey key).data = (ofKey other).data := by
  by_cases hollow : other.Hollow
  · unfold ofKey
    rw [compute_hollow hollow, compute_hollow ((SlrKey.hollow_of_beq same).mpr hollow)]
    rfl
  · rw [SlrKey.eq_of_beq same hollow]

/-! ### One key after the other -/

/-- What is kept was computed for the key that was given last, or for one that is equal to it. -/
structure Follows (slr : Slr Float32) (given : SlrKey Float32) : Prop where
  kept : slr.Kept
  key : slr.key = given ∨ (slr.key == given) = true

/-- How often a key differs from the one before it. -/
def changes : SlrKey Float32 → List (SlrKey Float32) → Nat
  | _, [] => 0
  | given, next :: rest => (if given == next then 0 else 1) + changes next rest

variable {slr : Slr Float32} {given : SlrKey Float32} {keys : List (SlrKey Float32)}

theorem follows_ofKey (key : SlrKey Float32) : (ofKey key).Follows key :=
  ⟨compute_kept key 1, Or.inl (compute_key key 1)⟩

theorem Follows.like_new (follows : slr.Follows given) : slr.data = (ofKey given).data := by
  have own : slr.data = (ofKey slr.key).data := (congrArg data follows.kept).trans (compute_data _ _)
  rw [own]
  obtain same | same := follows.key
  · rw [same]
  · exact data_of_beq same

theorem Follows.beq_eq (follows : slr.Follows given) (next : SlrKey Float32) :
    (slr.key == next) = (given == next) := by
  obtain same | same := follows.key
  · rw [same]
  · exact BEq.congr_left same

theorem Follows.kernel_bounds (follows : slr.Follows given) : 1 ≤ slr.kernel ∧ slr.kernel ≤ 8 := by
  rw [follows.kept]
  exact Slr.kernel_bounds _ _

theorem follows_refresh (follows : slr.Follows given) (next : SlrKey Float32) :
    (slr.refresh next).Follows next ∧
      (slr.refresh next).generation = slr.generation + if given == next then 0 else 1 := by
  rw [← follows.beq_eq]
  unfold refresh
  split
  case isTrue same => exact ⟨⟨follows.kept, Or.inr same⟩, rfl⟩
  case isFalse => exact ⟨⟨compute_kept next _, Or.inl (compute_key next _)⟩, compute_generation next _⟩

theorem follows_foldl (follows : slr.Follows given) (keys : List (SlrKey Float32)) :
    (keys.foldl refresh slr).Follows (keys.getLastD given) ∧
      (keys.foldl refresh slr).generation = slr.generation + changes given keys := by
  induction keys generalizing slr given with
  | nil => exact ⟨follows, rfl⟩
  | cons next rest ih =>
    obtain ⟨refreshed, count⟩ := follows_refresh follows next
    obtain ⟨last, total⟩ := ih refreshed
    refine ⟨?_, ?_⟩
    · rw [List.getLastD_cons]
      exact last
    · rw [List.foldl_cons, total, count, Nat.add_assoc]
      rfl

/-! ### One frame after the other -/

/-- A scaled resolution that is used for keys and frames in any order. -/
inductive Shared : Option (Slr Float32) → Prop where
  | none : Shared none
  | new (key : SlrKey Float32) : Shared (some (ofKey key))
  | refreshed {slr : Slr Float32} (earlier : Shared (some slr)) (key : SlrKey Float32) :
      Shared (some (slr.refresh key))
  | placed {kept after : Option (Slr Float32)} {i : MirrorInputs Float32}
      {placement : Option (MirrorPlacement Float32)} (earlier : Shared kept)
      (h : i.place kept = .ok (placement, after)) : Shared after

theorem shared_kept {kept : Option (Slr Float32)} (shared : Shared kept) :
    ∀ slr, kept = some slr → slr.Kept := by
  induction shared with
  | none => exact nofun
  | new key =>
    rintro slr ⟨⟩
    exact compute_kept key 1
  | refreshed earlier key ih =>
    rintro slr ⟨⟩
    exact ensure_kept ih key
  | placed earlier h ih =>
    obtain ⟨rfl, -⟩ | ⟨p, -, -, rfl⟩ := MirrorInputs.place_slr h
    · exact ih
    · rintro slr ⟨⟩
      exact ensure_kept ih _

/-- What is kept for a key with an extent is what would be computed for it. -/
theorem ensure_like_new {kept : Option (Slr Float32)} {key : SlrKey Float32}
    (known : ∀ slr, kept = some slr → slr.Kept) (solid : ¬ key.Hollow) :
    ensure kept key = { ofKey key with generation := (ensure kept key).generation } := by
  have own := ensure_kept known key
  have same : (ensure kept key).key = key := by
    cases kept with
    | none => exact compute_key key 1
    | some slr =>
      unfold ensure refresh
      dsimp only
      split
      case isTrue found => exact SlrKey.eq_of_beq found solid
      case isFalse => exact compute_key key _
  rw [Kept, same, compute_eq] at own
  exact own

end Slr

namespace MirrorInputs

variable {i : MirrorInputs Float32} {kept after : Option (Slr Float32)} {p : MirrorPlacement Float32}

theorem fit_of_uses {fit : Option (Fit Float32)} (uses : i.usesSlr fit = true) :
    ∃ f, fit = some f ∧ i.mode = .uniform ∧ i.visible = none := by
  unfold usesSlr at uses
  cases fit with
  | none => cases uses
  | some f =>
    unfold prefersSlr at uses
    simp only [Bool.and_eq_true, beq_iff_eq, Option.isNone_iff_eq_none] at uses
    exact ⟨f, rfl, uses.1, uses.2.1.1.2⟩

/-- Only a fit of sizes with an extent is carried by a scaled resolution. -/
theorem slrKey_solid (h : i.place kept = .ok (some p, after)) (active : p.slrActive = true) :
    ¬ (i.slrKey p.virtualWidth p.virtualHeight).Hollow := by
  obtain ⟨⟨source, size, fitted⟩, -, carried, target⟩ := place_ok h
  rw [active] at carried
  obtain ⟨fit, found, uniform, whole⟩ := fit_of_uses carried.symm
  have sizes : source = (i.mirroredWidth, i.mirroredHeight) := by
    rw [sourceSize?, whole] at size
    exact (Option.some.inj size).symm
  rw [found, ← target, sizes] at fitted
  intro hollow
  unfold fit? Fit.ofMode? Fit.uniform? at fitted
  rw [uniform] at fitted
  unfold slrKey SlrKey.Hollow at hollow
  simp only [Bool.or_eq_true, decide_eq_true_eq, or_assoc, if_pos hollow, ite_self] at fitted
  cases fitted

/-- A frame that a scaled resolution carries leaves it as a new one would be. -/
theorem active_like_new (known : ∀ slr, kept = some slr → slr.Kept)
    (h : i.place kept = .ok (some p, after)) (active : p.slrActive = true) :
    ∃ slr, after = some slr ∧ slr =
      { Slr.ofKey (i.slrKey p.virtualWidth p.virtualHeight) with generation := slr.generation } := by
  have solid := slrKey_solid h active
  obtain ⟨-, inactive⟩ | ⟨q, same, -, rfl⟩ := place_slr h
  · cases active.symm.trans (inactive p rfl)
  · cases same
    exact ⟨_, rfl, Slr.ensure_like_new known solid⟩

theorem inactive_untouched {placement : Option (MirrorPlacement Float32)}
    (h : i.place kept = .ok (placement, after))
    (inactive : ∀ p, placement = some p → p.slrActive = false) : after = kept := by
  obtain ⟨same, -⟩ | ⟨p, rfl, active, -⟩ := place_slr h
  · exact same
  · cases active.symm.trans (inactive p rfl)

end MirrorInputs

/-- After any keys the scaled resolution is what a new one for the last of them would be, it was
computed anew just for those that differ from the one before, and at most eight pixels enter one.
After any keys and frames a frame that it carries leaves it like a new one for its sizes and its
gamut, and another frame leaves it as it was. -/
theorem Slr.kept_like_new :
    (∀ (first : SlrKey Float32) (keys : List (SlrKey Float32)),
      (keys.foldl refresh (ofKey first)).data = (ofKey (keys.getLastD first)).data ∧
      (∀ next, (keys.foldl refresh (ofKey first)).needsRefresh next =
        !(keys.getLastD first == next)) ∧
      (keys.foldl refresh (ofKey first)).generation = 1 + changes first keys ∧
      1 ≤ (keys.foldl refresh (ofKey first)).kernel ∧
      (keys.foldl refresh (ofKey first)).kernel ≤ 8) ∧
    ∀ kept, Shared kept → ∀ (i : MirrorInputs Float32) placement after,
      i.place kept = .ok (placement, after) →
        (∀ p, placement = some p → p.slrActive = true → ∃ slr, after = some slr ∧ slr =
          { ofKey (i.slrKey p.virtualWidth p.virtualHeight) with generation := slr.generation }) ∧
        ((∀ p, placement = some p → p.slrActive = false) → after = kept) := by
  constructor
  · intro first keys
    obtain ⟨follows, count⟩ := follows_foldl (follows_ofKey first) keys
    refine ⟨follows.like_new, fun next => ?_, ?_, follows.kernel_bounds⟩
    · unfold needsRefresh
      rw [follows.beq_eq]
    · rw [count]
      exact congrArg (· + _) (compute_generation first 1)
  · intro kept shared i placement after h
    refine ⟨?_, MirrorInputs.inactive_untouched h⟩
    rintro p rfl active
    exact MirrorInputs.active_like_new (shared_kept shared) h active

/-! ### A copy of half the size -/

namespace MirrorInputs

def halfCopy : MirrorInputs Float32 where
  mode := .uniform
  correction := .deg0
  rotation := .deg0
  virtualWidth := 50.0
  virtualHeight := 25.0
  mirroredWidth := 100.0
  mirroredHeight := 50.0
  translateX := 0.0
  translateY := 0.0
  visible := none
  drawsCopy := true
  slrEnabled := true
  gamut := .srgb

/-- The source itself in the same place. -/
def halfSource : MirrorInputs Float32 := { halfCopy with drawsCopy := false }

theorem halfCopy_carried : halfCopy.usesSlr halfCopy.wholeFit = true := by decide +kernel

theorem halfSource_plain : halfSource.usesSlr halfSource.wholeFit = false := by decide +kernel

/-- The copy is scaled by a new resolution, which the next frame passes by. -/
theorem half_copy_like_new : ∃ p slr plain, halfCopy.place none = .ok (some p, some slr) ∧
    p.slrActive = true ∧ slr =
      { Slr.ofKey (halfCopy.slrKey p.virtualWidth p.virtualHeight) with
        generation := slr.generation } ∧
    halfSource.place (some slr) = .ok (some plain, some slr) ∧
      plain.slrActive = false := by
  obtain ⟨-, frames⟩ := Slr.kept_like_new
  have placed := place_whole (i := halfCopy) rfl none
  obtain ⟨fresh, -⟩ := frames none .none halfCopy _ _ placed
  obtain ⟨slr, after, new⟩ := fresh _ rfl halfCopy_carried
  rw [after] at placed
  have passed := place_whole (i := halfSource) rfl (some slr)
  obtain ⟨-, untouched⟩ := frames (some slr) (.placed .none placed) halfSource _ _ passed
  rw [untouched (by rintro p ⟨⟩; exact halfSource_plain)] at passed
  exact ⟨_, slr, _, placed, halfCopy_carried, new, passed, halfSource_plain⟩

end MirrorInputs

end ScreenMirror
