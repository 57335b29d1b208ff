import ScreenMirror.Proofs.Damage.OwnDirt
import ScreenMirror.Proofs.Geometry.RectEdges

/-!
# When damage is found

A calculation answers if what it is given fits the words that it computes with
(`DirtyInputs.Fits`) and the count of skipped frames has not run out
(`calculate_answers`).
-/

namespace ScreenMirror
open Checked

namespace DirtyHistory

theorem addClipped_edged {screen : Rect} {region : Region} {rects : List Rect}
    (hs : screen.Edged) (hr : region.Edged) (edged : Region.Edged rects) :
    ∃ out, addClipped screen region rects = .ok out ∧ out.Edged := by
  induction rects generalizing region with
  | nil => exact ⟨region, rfl, hr⟩
  | cons r rest ih =>
    obtain ⟨first, others⟩ := List.forall_mem_cons.mp edged
    obtain ⟨inside, hi, inside_edged⟩ := first.intersect hs
    obtain ⟨next, hn, next_edged⟩ := Region.insert_edged hr fun _ => inside_edged
    obtain ⟨out, ho, out_edged⟩ := ih next_edged others
    refine ⟨out, ?_, out_edged⟩
    unfold addClipped
    rw [hi]
    dsimp only [bind, Except.bind]
    rw [hn]
    exact ho

theorem since_edged {source : DirtyHistory} {screen : Rect} (age : UInt32) (hs : screen.Edged)
    (frames : ∀ frame ∈ source.frames, Region.Edged frame) :
    ∃ out, source.since age screen = .ok out ∧ out.Edged := by
  unfold since
  split
  case isTrue => exact Region.insert_edged Region.edged_nil fun _ => hs
  case isFalse =>
    refine addClipped_edged hs Region.edged_nil fun r member => ?_
    obtain ⟨frame, recent, inside⟩ := List.mem_flatten.mp member
    exact frames frame (List.mem_of_mem_take recent) r inside

end DirtyHistory

namespace OwnDirt

theorem mark_within_surface {d : OwnDirt} {r : Rect} (surface : d.surface.Edged)
    (current : d.current.Within d.surface) (hr : r.Edged) :
    ∃ marked, d.mark r = .ok marked ∧ marked.current.Within d.surface := by
  obtain ⟨inside, hi, -⟩ := hr.intersect surface
  obtain ⟨joined, hj, within⟩ := Rect.join_within surface current (Rect.intersect_within hi)
  refine ⟨{ d with current := joined }, ?_, within⟩
  unfold mark
  rw [hi]
  dsimp only [bind, Except.bind]
  rw [hj]
  rfl

theorem joinAll_within {surface start : Rect} {rects : List Rect} (edged : surface.Edged)
    (first : start.Within surface) (all : ∀ r ∈ rects, r.Within surface) :
    ∃ out, joinAll start rects = .ok out ∧ out.Within surface := by
  induction rects generalizing start with
  | nil => exact ⟨start, rfl, first⟩
  | cons r rest ih =>
    obtain ⟨here, others⟩ := List.forall_mem_cons.mp all
    obtain ⟨joined, hj, within⟩ := Rect.join_within edged first here
    obtain ⟨out, ho, out_within⟩ := ih within others
    refine ⟨out, ?_, out_within⟩
    unfold joinAll
    rw [hj]
    exact ho

theorem joinAll_within_all {start out : Rect} {rects : List Rect}
    (h : joinAll start rects = .ok out) :
    start.Within out ∧ ∀ r ∈ rects, r.Within out := by
  induction rects generalizing start with
  | nil =>
    obtain rfl := pure_ok h
    exact ⟨Rect.within_refl _, fun r member => nomatch member⟩
  | cons r rest ih =>
    obtain ⟨joined, hj, h⟩ := bind_ok h
    obtain ⟨first, second⟩ := Rect.within_join hj
    obtain ⟨inside, all⟩ := ih h
    refine ⟨Rect.within_trans first inside, List.forall_mem_cons.mpr ⟨?_, all⟩⟩
    exact Rect.within_trans second inside

/-- What a frame that is closed redraws lies on the surface, like the dirt of all frames. -/
theorem close_within {d : OwnDirt} (age : UInt32) (surface : d.surface.Edged)
    (current : d.current.Within d.surface) (history : ∀ r ∈ d.history, r.Within d.surface) :
    ∃ closed, d.close age = .ok closed ∧ closed.region.Within d.surface := by
  unfold close
  dsimp only
  split
  case isTrue => exact ⟨_, rfl, Rect.within_refl _⟩
  case isFalse =>
    have all : ∀ r ∈ ((d.current :: d.history).take historyLength).take age.toNat,
        r.Within d.surface := by
      intro r member
      rcases List.mem_cons.mp (List.mem_of_mem_take (List.mem_of_mem_take member)) with rfl | old
      · exact current
      · exact history r old
    obtain ⟨region, hr, within⟩ :=
      joinAll_within surface (Rect.within_of_isEmpty Rect.empty_isEmpty _) all
    rw [hr]
    exact ⟨_, rfl, within⟩

end OwnDirt

variable {K : Type} [Scalar K]

/-- The rectangles of the source have far edges, and so have the images that are taken of them. -/
structure DirtyInputs.Fits (i : DirtyInputs K) : Prop where
  frames : ∀ frame ∈ i.source.frames, Region.Edged frame
  screen : i.sourceRect.Edged
  images : ∀ age changed, i.source.since age i.sourceRect = .ok changed →
    ∀ r ∈ changed, ∃ image, r.image i.canvasMatrix = .ok image
  hardware : i.hardware.isEmpty = false → ∃ sampled image,
    DirtyTracker.sampledHardware i = .ok sampled ∧ sampled.image i.canvasMatrix = .ok image

namespace DirtyTracker

variable {t : DirtyTracker K} {i : DirtyInputs K}

theorem addImages_edged {m : Affine K} {region : Region} {rects : List Rect} (hr : region.Edged)
    (images : ∀ r ∈ rects, ∃ image, r.image m = .ok image) :
    ∃ out, addImages m region rects = .ok out ∧ out.Edged := by
  induction rects generalizing region with
  | nil => exact ⟨region, rfl, hr⟩
  | cons r rest ih =>
    obtain ⟨⟨image, hi⟩, others⟩ := List.forall_mem_cons.mp images
    obtain ⟨next, hn, next_edged⟩ := Region.insert_edged hr fun _ => Rect.image_edged hi
    obtain ⟨out, ho, out_edged⟩ := ih next_edged others
    refine ⟨out, ?_, out_edged⟩
    unfold addImages
    rw [hi]
    dsimp only [bind, Except.bind]
    rw [hn]
    exact ho

theorem markHardware_answers {own : OwnDirt} (fits : i.Fits) (surface : own.surface.Edged)
    (current : own.current.Within own.surface) :
    ∃ marked, markHardware own i = .ok marked ∧ marked.surface = own.surface ∧
      marked.history = own.history ∧ marked.current.Within own.surface := by
  unfold markHardware
  cases hollow : i.hardware.isEmpty with
  | true => exact ⟨own, rfl, rfl, rfl, current⟩
  | false =>
    obtain ⟨sampled, image, hs, hi⟩ := fits.hardware hollow
    obtain ⟨marked, hm, within⟩ := OwnDirt.mark_within_surface surface current (Rect.image_edged hi)
    obtain ⟨inside, joined, -, -, rfl⟩ := OwnDirt.mark_ok hm
    refine ⟨{ own with current := joined }, ?_, rfl, rfl, within⟩
    rw [if_neg Bool.false_ne_true, hs]
    dsimp only [bind, Except.bind]
    rw [hi]
    exact hm

omit [Scalar K] in
theorem sourceAge_answers (few : t.skipped.toNat + 1 < UInt32.size) (age : UInt32) :
    ∃ a, t.sourceAge age = .ok a := by
  have start : Count.add t.skipped 1 = .ok (t.skipped + 1) := if_pos few
  unfold sourceAge
  dsimp only
  split
  case isTrue => exact ⟨0, rfl⟩
  case isFalse =>
    rw [start]
    exact ⟨_, rfl⟩

/-- The damage of a frame whose buffer is a number of source frames behind. -/
def damageSince (t : DirtyTracker K) (i : DirtyInputs K) (age : UInt32) :
    Checked (Region × OwnDirt) := do
  let changed ← i.source.since age i.sourceRect
  let images ← addImages i.canvasMatrix [] changed
  let own ← (← markHardware t.own i).close i.bufferAge
  let all ← images.insert own.region
  return (← addInside own.surface [] all, own)

/-- Apart from the age of the source, damage is reckoned from rectangles. -/
theorem damage_eq (t : DirtyTracker K) (i : DirtyInputs K) :
    t.damage i = t.sourceAge i.bufferAge >>= t.damageSince i := rfl

theorem damageSince_answers (fits : i.Fits) (surface : t.own.surface.Edged)
    (current : t.own.current.Within t.own.surface)
    (history : ∀ r ∈ t.own.history, r.Within t.own.surface) (age : UInt32) :
    ∃ rects own, t.damageSince i age = .ok (rects, own) := by
  obtain ⟨changed, hchanged, -⟩ := DirtyHistory.since_edged age fits.screen fits.frames
  obtain ⟨images, himages, images_edged⟩ :=
    addImages_edged Region.edged_nil (fits.images age changed hchanged)
  obtain ⟨marked, hmarked, surface_eq, history_eq, within⟩ :=
    markHardware_answers fits surface current
  obtain ⟨own, hclosed, region⟩ := OwnDirt.close_within (d := marked) i.bufferAge
    (surface_eq ▸ surface) (surface_eq ▸ within) (surface_eq ▸ history_eq ▸ history)
  obtain ⟨gathered, own_eq, -⟩ := OwnDirt.close_ok hclosed
  have own_surface : own.surface = t.own.surface := by rw [own_eq, surface_eq]
  obtain ⟨all, hall, all_edged⟩ := Region.insert_edged images_edged
    fun solid => Rect.edged_of_within solid region (surface_eq ▸ surface)
  obtain ⟨rects, hrects, -⟩ :=
    DirtyHistory.addClipped_edged (own_surface ▸ surface) Region.edged_nil all_edged
  refine ⟨rects, own, ?_⟩
  unfold damageSince
  rw [hchanged]
  dsimp only [bind, Except.bind]
  rw [himages]
  dsimp only
  rw [hmarked]
  dsimp only
  rw [hclosed]
  dsimp only
  rw [hall]
  dsimp only
  rw [addInside_eq, hrects]
  rfl

theorem damage_answers (fits : i.Fits) (few : t.skipped.toNat + 1 < UInt32.size)
    (surface : t.own.surface.Edged) (current : t.own.current.Within t.own.surface)
    (history : ∀ r ∈ t.own.history, r.Within t.own.surface) :
    ∃ rects own, t.damage i = .ok (rects, own) := by
  obtain ⟨age, found⟩ := sourceAge_answers few i.bufferAge
  rw [damage_eq, found]
  exact damageSince_answers fits surface current history age

/-- A calculation answers if its inputs fit and the count of skipped frames has not run out. -/
theorem calculate_answers (fits : i.Fits) (few : t.skipped.toNat + 1 < UInt32.size)
    (surface : t.own.surface.Edged) (current : t.own.current.Within t.own.surface)
    (history : ∀ r ∈ t.own.history, r.Within t.own.surface) :
    ∃ r t', t.calculate i = .ok (r, t') := by
  have found : ∃ rects own,
      (t.noteInputs i (t.mustRefresh i)).damage i = .ok (rects, own) := by
    cases refresh : t.mustRefresh i with
    | true => exact damage_answers fits few surface (Rect.within_refl _) history
    | false => exact damage_answers fits few surface current history
  obtain ⟨rects, own, hd⟩ := found
  unfold calculate
  dsimp only
  split
  case isTrue => exact ⟨_, _, rfl⟩
  case isFalse =>
    rw [hd]
    exact ⟨_, _, rfl⟩

end DirtyTracker

end ScreenMirror
