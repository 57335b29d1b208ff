import ScreenMirror.Damage.Tracker
import ScreenMirror.Proofs.Geometry.RegionPixels

/-!
# What damage covers

The regions that a calculation builds, as sets of pixels: `since_holds` for what
changed in the source, `damage_holds` for what is redrawn of it.
-/

namespace ScreenMirror
open Checked

namespace DirtyHistory

theorem addClipped_holds {screen : Rect} {region out : Region} {rects : List Rect}
    (h : addClipped screen region rects = .ok out) (x y : Int) :
    Region.Holds out x y ↔ Region.Holds region x y ∨
      (screen.holds x y = true ∧ Region.Holds rects x y) := by
  induction rects generalizing region with
  | nil =>
    obtain rfl := pure_ok h
    simp [Region.not_holds_nil]
  | cons r rest ih =>
    obtain ⟨inside, hi, h⟩ := bind_ok h
    obtain ⟨next, hn, h⟩ := bind_ok h
    rw [ih h, Region.insert_holds hn, Rect.intersect_holds hi, Region.holds_cons, or_assoc,
      and_or_left, and_comm (a := r.holds x y = true)]

theorem addClipped_on {surface : Rect} {region out : Region} {rects : List Rect}
    (on : Region.On surface region) (h : addClipped surface region rects = .ok out) :
    Region.On surface out := by
  induction rects generalizing region with
  | nil =>
    obtain rfl := pure_ok h
    exact on
  | cons r rest ih =>
    obtain ⟨inside, hi, h⟩ := bind_ok h
    obtain ⟨next, hn, h⟩ := bind_ok h
    exact ih (Region.insert_on on (Rect.intersect_within hi) hn) h

theorem addClipped_into_full {surface : Rect} {out : Region} {rects : List Rect}
    (h : addClipped surface (Region.full surface) rects = .ok out) : out = Region.full surface := by
  induction rects with
  | nil => exact (pure_ok h).symm
  | cons r rest ih =>
    obtain ⟨inside, hi, h⟩ := bind_ok h
    obtain ⟨next, hn, h⟩ := bind_ok h
    rw [Region.insert_into_full (Rect.intersect_within hi) hn] at h
    exact ih h

theorem addClipped_frame {surface : Rect} {region out : Region} {rects : List Rect}
    (on : Region.On surface region) (settled : Region.Settled surface region)
    (frame : surface.isEmpty = false → ∃ r ∈ rects, surface.Within r)
    (h : addClipped surface region rects = .ok out) : out = Region.full surface := by
  cases hollow : surface.isEmpty with
  | true => exact Region.eq_full_of_hollow hollow (addClipped_on on h)
  | false =>
    obtain ⟨r, member, around⟩ := frame hollow
    induction rects generalizing region with
    | nil => cases member
    | cons head rest ih =>
      obtain ⟨inside, hi, h⟩ := bind_ok h
      obtain ⟨next, hn, h⟩ := bind_ok h
      have within := Rect.intersect_within hi
      rcases List.mem_cons.mp member with here | later
      · rw [← here] at hi
        rw [Rect.intersect_of_within hollow around hi] at hn
        rw [Region.insert_full on settled hn] at h
        exact addClipped_into_full h
      · exact ih (Region.insert_on on within hn) (Region.insert_settled on settled within hn)
          (fun _ => ⟨r, later, around⟩) h later

theorem solid_append (a b : List Rect) : solid (a ++ b) = solid a ++ solid b :=
  List.filter_append ..

theorem holds_solid (rects : List Rect) (x y : Int) :
    Region.Holds (solid rects) x y ↔ Region.Holds rects x y := by
  constructor
  · rintro ⟨r, member, held⟩
    exact ⟨r, (List.mem_filter.mp member).1, held⟩
  · rintro ⟨r, member, held⟩
    refine ⟨r, List.mem_filter.mpr ⟨member, ?_⟩, held⟩
    cases hollow : r.isEmpty with
    | true => exact absurd held (Rect.not_holds_of_isEmpty hollow x y)
    | false => rfl

theorem extend_frames {source : DirtyHistory} {head : List Rect} {tail added : List (List Rect)}
    (frames : source.frames = head :: tail) :
    (added.foldl extend source).frames = (head ++ solid added.flatten) :: tail := by
  induction added generalizing source head with
  | nil =>
    rw [List.foldl_nil, frames, List.flatten_nil, solid, List.filter_nil, List.append_nil]
  | cons rects rest ih =>
    have extended : (source.extend rects).frames = (head ++ solid rects) :: tail := by
      rw [extend, frames]
    rw [List.foldl_cons, ih extended, List.flatten_cons, solid_append, List.append_assoc]

/-- An age of zero or beyond the record counts all of the screen as changed; any other
counts what is recorded of the last frames. -/
theorem since_holds {source : DirtyHistory} {age : UInt32} {screen : Rect} {out : Region}
    (h : source.since age screen = .ok out) (x y : Int) :
    Region.Holds out x y ↔ screen.holds x y = true ∧
      (age = 0 ∨ source.length < age.toNat ∨
        Region.Holds (source.frames.take age.toNat).flatten x y) := by
  unfold since at h
  split at h
  case isTrue unknown =>
    rw [Region.insert_holds h, ← or_assoc]
    simp [Region.not_holds_nil, unknown]
  case isFalse known =>
    rw [not_or] at known
    rw [addClipped_holds h]
    simp [Region.not_holds_nil, known.1, known.2]

end DirtyHistory

namespace DirtyTracker

variable {K : Type} [Scalar K]

theorem addImages_holds {m : Affine K} {region out : Region} {rects : List Rect}
    (h : addImages m region rects = .ok out) (x y : Int) :
    Region.Holds out x y ↔ Region.Holds region x y ∨
      ∃ r ∈ rects, ∃ image, r.image m = .ok image ∧ image.holds x y = true := by
  induction rects generalizing region with
  | nil =>
    obtain rfl := pure_ok h
    simp
  | cons r rest ih =>
    obtain ⟨image, hi, h⟩ := bind_ok h
    obtain ⟨next, hn, h⟩ := bind_ok h
    rw [ih h, Region.insert_holds hn, or_assoc]
    simp [hi]

theorem addImages_image {m : Affine K} {region out : Region} {rects : List Rect}
    (h : addImages m region rects = .ok out) {r : Rect} (member : r ∈ rects) :
    ∃ image, r.image m = .ok image := by
  induction rects generalizing region with
  | nil => cases member
  | cons head rest ih =>
    obtain ⟨image, hi, h⟩ := bind_ok h
    obtain ⟨next, -, h⟩ := bind_ok h
    rcases List.mem_cons.mp member with rfl | later
    · exact ⟨image, hi⟩
    · exact ih h later

theorem addInside_eq (bounds : Rect) (region : Region) (rects : List Rect) :
    addInside bounds region rects = DirtyHistory.addClipped bounds region rects := by
  induction rects generalizing region with
  | nil => rfl
  | cons r rest ih =>
    unfold addInside DirtyHistory.addClipped
    simp only [ih]

theorem damage_ok {t : DirtyTracker K} {i : DirtyInputs K} {rects : Region} {own : OwnDirt}
    (h : t.damage i = .ok (rects, own)) :
    ∃ age changed images marked all, t.sourceAge i.bufferAge = .ok age ∧
      i.source.since age i.sourceRect = .ok changed ∧
      addImages i.canvasMatrix [] changed = .ok images ∧ markHardware t.own i = .ok marked ∧
      marked.close i.bufferAge = .ok own ∧ images.insert own.region = .ok all ∧
      DirtyHistory.addClipped own.surface [] all = .ok rects := by
  obtain ⟨age, hage, h⟩ := bind_ok h
  obtain ⟨changed, hchanged, h⟩ := bind_ok h
  obtain ⟨images, himages, h⟩ := bind_ok h
  obtain ⟨marked, hmarked, h⟩ := bind_ok h
  obtain ⟨closed, hclosed, h⟩ := bind_ok h
  obtain ⟨all, hall, h⟩ := bind_ok h
  obtain ⟨clipped, hclipped, h⟩ := bind_ok h
  cases pure_ok h
  rw [addInside_eq] at hclipped
  exact ⟨age, changed, images, marked, all, hage, hchanged, himages, hmarked, hclosed, hall, hclipped⟩

/-- On the surface, the damage is made of the images of what changed in the source and of
the region that the destination redraws on its own account. -/
theorem damage_holds {t : DirtyTracker K} {i : DirtyInputs K} {rects : Region} {own : OwnDirt}
    (h : t.damage i = .ok (rects, own)) :
    ∃ age changed, t.sourceAge i.bufferAge = .ok age ∧
      i.source.since age i.sourceRect = .ok changed ∧
      (∀ r ∈ changed, ∃ image, r.image i.canvasMatrix = .ok image) ∧
      ∀ x y, Region.Holds rects x y ↔
        own.surface.holds x y = true ∧ (own.region.holds x y = true ∨
          ∃ r ∈ changed, ∃ image, r.image i.canvasMatrix = .ok image ∧ image.holds x y = true) := by
  obtain ⟨age, changed, images, marked, all, hage, hchanged, himages, -, -, hall, hclipped⟩ :=
    damage_ok h
  refine ⟨age, changed, hage, hchanged, fun _ => addImages_image himages, fun x y => ?_⟩
  rw [DirtyHistory.addClipped_holds hclipped, Region.insert_holds hall, addImages_holds himages,
    or_comm (b := own.region.holds x y = true)]
  simp [Region.not_holds_nil]

end DirtyTracker

end ScreenMirror
