import ScreenMirror.Proofs.Damage.Coverage

/-!
# Dirt on the surface

The dirt of a destination that goes from calculation to calculation: between two
of them there is none for the frame to come, and that of the frames before lies
on the surface.  A refresh therefore redraws the whole surface and nothing else
(`calculate_refresh`).
-/

namespace ScreenMirror
open Checked

namespace OwnDirt

/-- No dirt is waiting, and the dirt of earlier frames is on the surface. -/
def Settled (d : OwnDirt) : Prop :=
  d.current.isEmpty = true ∧ ∀ r ∈ d.history, r.Within d.surface

theorem settled_new : ({} : OwnDirt).Settled := ⟨Rect.empty_isEmpty, fun _ member => nomatch member⟩

theorem resize_settled {d : OwnDirt} (settled : d.Settled) (width height : Int32) :
    (d.resize width height).Settled := by
  unfold resize
  dsimp only
  split
  case isTrue => exact settled
  case isFalse => exact ⟨settled.1, fun _ member => nomatch member⟩

theorem resize_surface (d : OwnDirt) (width height : Int32) :
    (d.resize width height).surface = Rect.ofExtent width height := by
  unfold resize
  dsimp only
  split
  case isTrue same => exact same.symm
  case isFalse => rfl

theorem mark_ok {d marked : OwnDirt} {r : Rect} (h : d.mark r = .ok marked) :
    ∃ inside current, r.intersect d.surface = .ok inside ∧ d.current.join inside = .ok current ∧
      marked = { d with current } := by
  obtain ⟨inside, hi, h⟩ := bind_ok h
  obtain ⟨current, hc, h⟩ := bind_ok h
  exact ⟨inside, current, hi, hc, (pure_ok h).symm⟩

theorem mark_full {d marked : OwnDirt} {r : Rect} (whole : d.current = d.surface)
    (h : d.mark r = .ok marked) : marked = d := by
  obtain ⟨inside, current, hi, hc, rfl⟩ := mark_ok h
  rw [Rect.join_of_within (whole ▸ Rect.intersect_within hi) hc]

theorem mark_within {d marked : OwnDirt} {r : Rect} (bare : d.current.isEmpty = true)
    (h : d.mark r = .ok marked) :
    marked.current.Within marked.surface ∧ marked.surface = d.surface ∧
      marked.history = d.history := by
  obtain ⟨inside, current, hi, hc, rfl⟩ := mark_ok h
  refine ⟨?_, rfl, rfl⟩
  show current.Within d.surface
  rw [Rect.join_of_isEmpty bare hc]
  split
  · exact Rect.within_of_isEmpty bare _
  · exact Rect.intersect_within hi

theorem joinAll_of_within {start out : Rect} {rects : List Rect}
    (inside : ∀ r ∈ rects, r.Within start) (h : joinAll start rects = .ok out) : out = start := by
  induction rects with
  | nil => exact (pure_ok h).symm
  | cons r rest ih =>
    obtain ⟨joined, hj, h⟩ := bind_ok h
    rw [Rect.join_of_within (inside r List.mem_cons_self) hj] at h
    exact ih (fun q member => inside q (List.mem_cons_of_mem r member)) h

theorem close_ok {d closed : OwnDirt} {age : UInt32} (h : d.close age = .ok closed) :
    ∃ region, closed = { d with
        current := Rect.empty, region
        history := (d.current :: d.history).take historyLength } ∧
      (region = d.surface ∨ age ≠ 0 ∧
        joinAll Rect.empty (((d.current :: d.history).take historyLength).take age.toNat) =
          .ok region) := by
  unfold close at h
  dsimp only at h
  split at h
  case isTrue => exact ⟨d.surface, (pure_ok h).symm, Or.inl rfl⟩
  case isFalse known =>
    obtain ⟨region, hr, h⟩ := bind_ok h
    exact ⟨region, (pure_ok h).symm, Or.inr ⟨(not_or.mp known).1, hr⟩⟩

theorem close_settled {d closed : OwnDirt} {age : UInt32} (current : d.current.Within d.surface)
    (history : ∀ r ∈ d.history, r.Within d.surface) (h : d.close age = .ok closed) :
    closed.Settled ∧ closed.surface = d.surface := by
  obtain ⟨region, rfl, -⟩ := close_ok h
  refine ⟨⟨Rect.empty_isEmpty, fun r member => ?_⟩, rfl⟩
  rcases List.mem_cons.mp (List.mem_of_mem_take member) with rfl | old
  · exact current
  · exact history r old

theorem close_full {d closed : OwnDirt} {age : UInt32} (whole : d.current = d.surface)
    (history : ∀ r ∈ d.history, r.Within d.surface) (h : d.close age = .ok closed) :
    d.surface.Within closed.region := by
  obtain ⟨region, rfl, rfl | ⟨some, hr⟩⟩ := close_ok h
  · exact Rect.within_refl _
  show d.surface.Within region
  cases hollow : d.surface.isEmpty with
  | true => exact Rect.within_of_isEmpty hollow region
  | false =>
    obtain ⟨n, hn⟩ : ∃ n, age.toNat = n + 1 :=
      Nat.exists_eq_succ_of_ne_zero fun zero => some (UInt32.toNat_inj.mp zero)
    rw [hn, historyLength, List.take_succ_cons, List.take_succ_cons] at hr
    obtain ⟨joined, hj, hr⟩ := bind_ok hr
    have first := Rect.join_of_isEmpty Rect.empty_isEmpty hj
    rw [whole, if_neg (by rw [hollow]; exact Bool.false_ne_true)] at first
    subst first
    rw [joinAll_of_within (fun r member =>
      history r (List.mem_of_mem_take (List.mem_of_mem_take member))) hr]
    exact Rect.within_refl _

end OwnDirt

namespace DirtyTracker

variable {K : Type} [Scalar K]

/-- What a calculation can do: skip a frame without changes, or find damage. -/
theorem calculate_cases {t t' : DirtyTracker K} {i : DirtyInputs K} {r : Redraw}
    (h : t.calculate i = .ok (r, t')) :
    (r = .skip ∧ (i.source.current.isEmpty = true ∧ i.hardware.isEmpty = true ∧
        t.mustRefresh i = false) ∧
      t' = { t with lastVisible := i.visible, skipped := Count.saturatingAdd t.skipped 1 }) ∨
    (∃ rects own, r = .damage rects ∧
      (t.noteInputs i (t.mustRefresh i)).damage i = .ok (rects, own) ∧
      t' = { t.noteInputs i (t.mustRefresh i) with own }) := by
  unfold calculate at h
  dsimp only at h
  split at h
  case isTrue idle =>
    simp only [Bool.and_eq_true, Bool.not_eq_true'] at idle
    obtain ⟨⟨source, hardware⟩, calm⟩ := idle
    cases pure_ok h
    refine Or.inl ⟨rfl, ⟨source, hardware, calm⟩, ?_⟩
    rw [calm]
    rfl
  case isFalse =>
    obtain ⟨⟨rects, own⟩, hd, h⟩ := bind_ok h
    cases pure_ok h
    exact Or.inr ⟨rects, own, rfl, hd, rfl⟩

theorem mustRefresh_of_pending {t : DirtyTracker K} {i : DirtyInputs K}
    (asked : t.refreshPending = true) : t.mustRefresh i = true := by
  simp [mustRefresh, asked]

theorem mustRefresh_of_visible {t : DirtyTracker K} {i : DirtyInputs K}
    (changed : t.lastVisible ≠ i.visible) : t.mustRefresh i = true := by
  simp [mustRefresh, changed.symm]

theorem bare_of_calm {t : DirtyTracker K} {i : DirtyInputs K} (calm : t.mustRefresh i = false) :
    t.own.current.isEmpty = true := by
  rw [mustRefresh, Bool.or_eq_false_iff, Bool.not_eq_false'] at calm
  exact calm.2

theorem noteInputs_of_refresh {t : DirtyTracker K} {i : DirtyInputs K}
    (refresh : t.mustRefresh i = true) :
    (t.noteInputs i (t.mustRefresh i)).own = t.own.markAll := by
  rw [refresh]
  rfl

theorem noteInputs_of_calm {t : DirtyTracker K} {i : DirtyInputs K}
    (calm : t.mustRefresh i = false) :
    t.noteInputs i (t.mustRefresh i) = { t with lastVisible := i.visible } := by
  rw [calm]
  rfl

omit [Scalar K] in
theorem sourceAge_noteInputs (t : DirtyTracker K) (i : DirtyInputs K) (refresh : Bool)
    (age : UInt32) : (t.noteInputs i refresh).sourceAge age = t.sourceAge age := by
  cases refresh <;> rfl

theorem markHardware_full {own marked : OwnDirt} {i : DirtyInputs K}
    (whole : own.current = own.surface) (h : markHardware own i = .ok marked) : marked = own := by
  unfold markHardware at h
  split at h
  case isTrue => exact (pure_ok h).symm
  case isFalse =>
    obtain ⟨sampled, -, h⟩ := bind_ok h
    obtain ⟨image, -, h⟩ := bind_ok h
    exact OwnDirt.mark_full whole h

theorem markHardware_within {own marked : OwnDirt} {i : DirtyInputs K}
    (bare : own.current.isEmpty = true) (h : markHardware own i = .ok marked) :
    marked.current.Within marked.surface ∧ marked.surface = own.surface ∧
      marked.history = own.history := by
  unfold markHardware at h
  split at h
  case isTrue =>
    obtain rfl := pure_ok h
    exact ⟨Rect.within_of_isEmpty bare _, rfl, rfl⟩
  case isFalse =>
    obtain ⟨sampled, -, h⟩ := bind_ok h
    obtain ⟨image, -, h⟩ := bind_ok h
    exact OwnDirt.mark_within bare h

theorem calculate_settled {t t' : DirtyTracker K} {i : DirtyInputs K} {r : Redraw}
    (settled : t.own.Settled) (h : t.calculate i = .ok (r, t')) :
    t'.own.Settled ∧ t'.own.surface = t.own.surface := by
  rcases calculate_cases h with ⟨-, -, rfl⟩ | ⟨rects, own, -, hd, rfl⟩
  · exact ⟨settled, rfl⟩
  obtain ⟨age, changed, images, marked, all, -, -, -, hmarked, hclosed, -⟩ := damage_ok hd
  show own.Settled ∧ own.surface = t.own.surface
  cases refresh : t.mustRefresh i with
  | true =>
    rw [noteInputs_of_refresh refresh] at hmarked
    obtain rfl := markHardware_full rfl hmarked
    exact OwnDirt.close_settled (d := t.own.markAll) (Rect.within_refl _) settled.2 hclosed
  | false =>
    rw [noteInputs_of_calm refresh] at hmarked
    obtain ⟨within, surface, history⟩ := markHardware_within settled.1 hmarked
    rw [← surface]
    refine OwnDirt.close_settled within (fun r member => ?_) hclosed
    rw [surface]
    exact settled.2 r (history ▸ member)

/-- If the destination redraws all of its surface on its own account, nothing else is redrawn. -/
theorem damage_whole {t : DirtyTracker K} {i : DirtyInputs K} {rects : Region} {own : OwnDirt}
    (h : t.damage i = .ok (rects, own)) (whole : own.surface.Within own.region) :
    rects = Region.full own.surface := by
  obtain ⟨age, changed, images, marked, all, -, -, -, -, -, hall, hclipped⟩ := damage_ok h
  refine DirtyHistory.addClipped_frame (Region.on_nil _) (Or.inr List.not_mem_nil)
    (fun solid => ?_) hclipped
  obtain ⟨q, member, around⟩ := Region.insert_frames (Rect.solid_of_within solid whole) hall
  exact ⟨q, member, Rect.within_trans whole around⟩

theorem damage_refresh {t : DirtyTracker K} {i : DirtyInputs K} {rects : Region} {own : OwnDirt}
    (history : ∀ r ∈ t.own.history, r.Within t.own.surface) (refresh : t.mustRefresh i = true)
    (h : (t.noteInputs i (t.mustRefresh i)).damage i = .ok (rects, own)) :
    rects = Region.full t.own.surface := by
  obtain ⟨age, changed, images, marked, all, -, -, -, hmarked, hclosed, -⟩ := damage_ok h
  rw [noteInputs_of_refresh refresh] at hmarked
  obtain rfl := markHardware_full rfl hmarked
  have whole : t.own.surface.Within own.region :=
    OwnDirt.close_full (d := t.own.markAll) rfl history hclosed
  have surface : own.surface = t.own.surface :=
    (OwnDirt.close_settled (d := t.own.markAll) (Rect.within_refl _) history hclosed).2
  rw [damage_whole h (surface ▸ whole), surface]

/-- A refresh redraws the whole surface and nothing else, whatever the history, the age of
the buffer and the matrices are. -/
theorem calculate_refresh {t t' : DirtyTracker K} {i : DirtyInputs K} {r : Redraw}
    (settled : t.own.Settled) (refresh : t.mustRefresh i = true)
    (h : t.calculate i = .ok (r, t')) : r = .damage (Region.full t.own.surface) := by
  rcases calculate_cases h with ⟨-, ⟨-, -, calm⟩, -⟩ | ⟨rects, own, rfl, hd, -⟩
  · rw [refresh] at calm
    cases calm
  · rw [damage_refresh settled.2 refresh hd]

/-- The damage holds the image of all that the age of the source takes as changed. -/
theorem calculate_covers {t t' : DirtyTracker K} {i : DirtyInputs K} {rects : List Rect}
    (settled : t.own.Settled) (h : t.calculate i = .ok (.damage rects, t')) :
    ∃ age changed, t.sourceAge i.bufferAge = .ok age ∧
      i.source.since age i.sourceRect = .ok changed ∧
        ∀ r ∈ changed, ∃ image, r.image i.canvasMatrix = .ok image ∧ ∀ x y,
          image.holds x y = true → t.own.surface.holds x y = true → Region.Holds rects x y := by
  have surface := (calculate_settled settled h).2
  rcases calculate_cases h with ⟨skipped, -⟩ | ⟨found, own, same, hd, rfl⟩
  · cases skipped
  cases same
  obtain ⟨age, changed, hage, hchanged, images, covered⟩ := damage_holds hd
  rw [sourceAge_noteInputs] at hage
  refine ⟨age, changed, hage, hchanged, fun r member => ?_⟩
  obtain ⟨image, hi⟩ := images r member
  refine ⟨image, hi, fun x y held inside => (covered x y).mpr ⟨?_, Or.inr ⟨r, member, image, hi, held⟩⟩⟩
  show own.surface.holds x y = true
  exact surface ▸ inside

theorem markHardware_surface {own marked : OwnDirt} {i : DirtyInputs K}
    (h : markHardware own i = .ok marked) : marked.surface = own.surface := by
  unfold markHardware at h
  split at h
  case isTrue => exact (pure_ok h) ▸ rfl
  case isFalse =>
    obtain ⟨sampled, -, h⟩ := bind_ok h
    obtain ⟨image, -, h⟩ := bind_ok h
    obtain ⟨inside, current, -, -, rfl⟩ := OwnDirt.mark_ok h
    rfl

theorem damage_surface {t : DirtyTracker K} {i : DirtyInputs K} {rects : Region} {own : OwnDirt}
    (h : t.damage i = .ok (rects, own)) : own.surface = t.own.surface := by
  obtain ⟨age, changed, images, marked, all, -, -, -, hmarked, hclosed, -⟩ := damage_ok h
  obtain ⟨region, rfl, -⟩ := OwnDirt.close_ok hclosed
  have marked_surface := markHardware_surface hmarked
  exact marked_surface

omit [Scalar K] in
theorem noteInputs_surface (t : DirtyTracker K) (i : DirtyInputs K) (refresh : Bool) :
    (t.noteInputs i refresh).own.surface = t.own.surface := by
  cases refresh <;> rfl

/-- Whatever dirt is left of earlier frames, the damage is on the surface. -/
theorem calculate_on {t t' : DirtyTracker K} {i : DirtyInputs K} {rects : List Rect}
    (h : t.calculate i = .ok (.damage rects, t')) : Region.On t.own.surface rects := by
  rcases calculate_cases h with ⟨skipped, -⟩ | ⟨found, own, same, hd, -⟩
  · cases skipped
  cases same
  obtain ⟨age, changed, images, marked, all, -, -, -, -, -, -, hclipped⟩ := damage_ok hd
  rw [← noteInputs_surface t i (t.mustRefresh i), ← damage_surface hd]
  exact DirtyHistory.addClipped_on (Region.on_nil _) hclipped

end DirtyTracker

end ScreenMirror
