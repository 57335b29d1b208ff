import ScreenMirror.Proofs.Destination.FrameTags

/-!
# Sizes of buffers

The first frame that follows the rotation of its source is remembered for good
(`run_first`).  From then on the sides of a buffer are exchanged just while the source
is turned by an odd number of quarter turns against that frame, and whatever a frame
works with has the size of its buffer (`queued_buffer_sized`).
-/

namespace ScreenMirror
open Checked

/-! ### Rotations of the source -/

/-- The rotations are an odd number of quarter turns apart. -/
def Rotation.OddApart (first current : Rotation) : Prop :=
  (first.turns - current.turns).val % 2 = 1

instance (first current : Rotation) : Decidable (first.OddApart current) :=
  inferInstanceAs (Decidable (_ = _))

theorem Rotation.exchangesSize_iff (first current : Rotation) :
    first.exchangesSize current = true ↔ first.OddApart current := by
  cases first <;> cases current <;> decide

section
variable {K : Type} [Scalar K]

/-- The rotation of what is shown, without the correction of its panel. -/
def sourceRotation (link : Option (MirrorLink K)) : Rotation :=
  match link with
  | some link => link.sourceDisplay.rotation.compose link.source.property.correction
  | none => .deg0

theorem FrameScope.bufferRotation_ofScreen (screen : Screen K) (link : Option (MirrorLink K)) :
    (ofScreen screen link).bufferRotation = sourceRotation link := by
  cases link with
  | none => exact (by decide : Rotation.deg0.compose .deg0 = .deg0)
  | some link => rfl

/-- The buffers of a screen follow the rotation of its source, which is turned by an odd number of
quarter turns against the first one. -/
def ExchangesSides (property : ScreenProperty K) (first : Option Rotation)
    (link : Option (MirrorLink K)) : Prop :=
  property.autoBufferRotation = true ∧ ∃ r, first = some r ∧ r.OddApart (sourceRotation link)

theorem FrameScope.exchangesSize_iff (screen : Screen K) (link : Option (MirrorLink K))
    (first : Option Rotation) :
    (ofScreen screen link).exchangesSize screen.property.autoBufferRotation first = true ↔
      ExchangesSides screen.property first link := by
  unfold FrameScope.exchangesSize ExchangesSides
  rw [bufferRotation_ofScreen, Bool.and_eq_true, Option.any_eq_true]
  simp only [Rotation.exchangesSize_iff]

end

namespace FrameRecord

variable {K : Type}

/-- The rotation that the frame sizes its buffer for, if it gets so far and follows its source. -/
def followed? (r : FrameRecord K) : Option Rotation :=
  match r.nodes.mirrorLink r.screen with
  | .error _ => none
  | .ok link =>
    if !r.screen.property.paused && r.screen.property.autoBufferRotation then
      some (sourceRotation link)
    else none

/-- The rotation of the earliest frame that followed its source. -/
def firstFollowed (log : List (FrameRecord K)) : Option Rotation :=
  log.reverse.findSome? followed?

theorem firstFollowed_cons (r : FrameRecord K) (log : List (FrameRecord K)) :
    firstFollowed (r :: log) = (firstFollowed log).or r.followed? := by
  unfold firstFollowed
  rw [List.reverse_cons, List.findSome?_append]
  cases found : r.followed? <;> simp [List.findSome?, found]

end FrameRecord

/-! ### Requests -/

namespace FrameLifecycle

variable {K : Type} {l l' : FrameLifecycle K} {s s' : Services} {r : FrameRequest}

theorem tagged_screen (h : l.Tagged l') : l'.screen = l.screen := by
  obtain ⟨tag, -, rfl⟩ := h
  rfl

variable [Scalar K]

/-- A granted frame has the requested size, whatever surface it comes from. -/
theorem request_pictured (sized : l.Sized) (engine : s.engine.Sized)
    (h : l.request s r = (.ok (), l', s')) :
    (∃ canvas, l'.canvas? = some canvas ∧
      canvas.base.width = r.config.width ∧ canvas.base.height = r.config.height) ∧
      l'.screen = l.screen := by
  have ordered := (cancel_worksOn l s).sized engine
  rw [request_eq] at h
  unfold requestIdle at h
  split at h
  case h_1 buffer after direct =>
    cases h
    unfold Engine.requestDirect at direct
    split at direct
    case isTrue =>
      have granted : (Engine.dequeueFor _ r.config).1 = some buffer := congrArg Prod.fst direct
      have served := VirtualSurface.dequeueFor_pictured
        (Engine.sized_directSurface ordered r.producer) (Prod.ext granted rfl)
      exact ⟨⟨_, rfl, served.1⟩, cancel_screen l s⟩
    case isFalse => cases direct
  case h_2 after indirect =>
    have idle : Sized { (l.cancel s).1 with state := .idle } := sized_cancel sized s
    obtain ⟨⟨frame, surface, serves⟩, screen⟩ := requestKept_serves idle h
    refine ⟨⟨frame.canvas, ?_, serves.size⟩, screen.trans (cancel_screen l s)⟩
    rw [canvas?, serves.live]
    rfl

theorem flush_screen {result : Except FrameError SyncFence}
    (h : l.flush s = .ok (result, l', s')) : l'.screen = l.screen := by
  unfold flush at h
  split at h
  case h_1 =>
    cases pure_ok h
    rfl
  case h_2 frame live =>
    dsimp only at h
    split at h
    case h_1 =>
      cases pure_ok h
      rfl
    case h_2 surface there =>
      obtain ⟨queued, -, h⟩ := bind_ok h
      cases pure_ok h
      cases frame.origin <;> rfl

end FrameLifecycle

theorem DirtyTracker.calculate_surface {K : Type} [Scalar K] {t t' : DirtyTracker K}
    {i : DirtyInputs K} {redraw : Redraw} (h : t.calculate i = .ok (redraw, t')) :
    t'.own.surface = t.own.surface := by
  rcases calculate_cases h with ⟨-, -, rfl⟩ | ⟨rects, own, -, found, rfl⟩
  · rfl
  obtain ⟨age, changed, images, marked, all, -, -, -, hmarked, hclosed, -⟩ := damage_ok found
  obtain ⟨region, rfl, -⟩ := OwnDirt.close_ok hclosed
  refine (markHardware_surface hmarked).trans ?_
  unfold noteInputs
  split <;> rfl

namespace VirtualDestination

variable {K : Type} [Scalar K] {b d d' : VirtualDestination K} {c c' : Canvas K}
  {s s' s₁ : Services} {screen : Screen K} {nodes : Nodes K} {switches : Switches}
  {link : Option (MirrorLink K)} {mirror : MirrorLink K} {drawn : Bool}
  {result : Except FrameError FrameOutcome} {log : List (FrameRecord K)}

/-! ### What drawing keeps -/

theorem placeSaved_first (h : d.placeSaved c switches = .ok (d', c')) :
    d'.firstBufferRotation = d.firstBufferRotation := by
  obtain ⟨⟨plain, canvas⟩, placed, h⟩ := bind_ok h
  obtain ⟨slr, scope, rfl, -⟩ := place_changes placed
  cases pure_ok h
  rfl

theorem drawCopy_first (h : d.drawCopy c screen mirror switches = .ok (drawn, d', c')) :
    d'.firstBufferRotation = d.firstBufferRotation := by
  obtain ⟨⟨placed, canvas⟩, hp, h⟩ := bind_ok h
  obtain ⟨⟨found, damaged⟩, hd, h⟩ := bind_ok h
  obtain ⟨dirty, life, rfl⟩ := findCopyDamage_frame hd
  have kept := placeSaved_first hp
  cases found with
  | false =>
    cases pure_ok h
    exact kept
  | true =>
    obtain ⟨clipped, -, h⟩ := bind_ok h
    obtain ⟨painted, -, h⟩ := bind_ok h
    cases pure_ok h
    exact kept

theorem redraw_first (h : d.redraw c screen mirror switches = .ok (drawn, d', c')) :
    d'.firstBufferRotation = d.firstBufferRotation := by
  unfold redraw at h
  split at h
  case isTrue =>
    obtain ⟨⟨muted, canvas⟩, hm, h⟩ := bind_ok h
    cases pure_ok h
    obtain ⟨cleared, hc, hm⟩ := bind_ok hm
    obtain ⟨masked, -, hm⟩ := bind_ok hm
    obtain ⟨life, rfl⟩ := clearRoi_frame hc
    cases pure_ok hm
    rfl
  case isFalse =>
    obtain ⟨⟨placed, canvas⟩, hp, h⟩ := bind_ok h
    obtain ⟨⟨found, damaged⟩, hd, h⟩ := bind_ok h
    obtain ⟨slr, scope, rfl, -⟩ := place_changes hp
    obtain ⟨dirty, life, rfl⟩ := findRedrawDamage_frame hd
    cases found with
    | false =>
      cases pure_ok h
      rfl
    | true =>
      obtain ⟨clipped, -, h⟩ := bind_ok h
      cases pure_ok h
      rfl

theorem drawMirror_first (h : d.drawMirror c screen mirror switches = .ok (drawn, d', c')) :
    d'.firstBufferRotation = d.firstBufferRotation := by
  unfold drawMirror at h
  dsimp only at h
  split at h
  · have kept := drawCopy_first h
    exact kept
  · have kept := redraw_first h
    exact kept

theorem draw_first (h : d.draw c screen link switches = .ok (drawn, d', c')) :
    d'.firstBufferRotation = d.firstBufferRotation := by
  cases link with
  | none =>
    obtain ⟨life, -, h⟩ := bind_ok h
    cases pure_ok h
    rfl
  | some mirror => exact drawMirror_first h

/-- However a frame is drawn, dirt is tracked on the same surface. -/
theorem draw_surface (visible : d.scope.visible = screen.property.visible)
    (h : d.draw c screen link switches = .ok (drawn, d', c')) :
    d'.dirty.own.surface = d.dirty.own.surface := by
  cases link with
  | none => rw [(drawOwn_frame h).2.2]
  | some mirror =>
    have drew := drawMirror_drawn visible h
    cases measuring : measures screen mirror switches with
    | true =>
      obtain ⟨inputs, redraw, -, calculated, -⟩ := drew.measured measuring
      exact DirtyTracker.calculate_surface calculated
    | false =>
      rw [(drew.plain measuring).2]
      split <;> rfl

theorem finish_keeps {fence : Except FrameError SyncFence}
    (h : d.finish s switches = .ok (fence, d', s')) :
    d'.firstBufferRotation = d.firstBufferRotation ∧ d'.life.screen = d.life.screen ∧
      d'.dirty.own.surface = d.dirty.own.surface := by
  obtain ⟨⟨flushed, life, services⟩, hf, h⟩ := bind_ok h
  have screen := FrameLifecycle.flush_screen hf
  cases flushed with
  | error e =>
    cases pure_ok h
    exact ⟨rfl, screen, rfl⟩
  | ok fence =>
    obtain ⟨dirty, queued, h⟩ := bind_ok h
    cases pure_ok h
    obtain ⟨span, -, queued⟩ := bind_ok queued
    cases pure_ok queued
    exact ⟨rfl, screen, rfl⟩

/-! ### The first buffer -/

theorem nextScope_first (d : VirtualDestination K) (screen : Screen K)
    (link : Option (MirrorLink K)) :
    (d.nextScope screen link).2 = d.firstBufferRotation.or
      (if screen.property.autoBufferRotation then some (sourceRotation link) else none) := by
  unfold nextScope FrameScope.sized
  rw [FrameScope.bufferRotation_ofScreen]
  cases screen.property.autoBufferRotation with
  | false => exact (Option.or_none ..).symm
  | true => cases d.firstBufferRotation <;> rfl

theorem begin_first {begun : Except FrameError Unit}
    (h : d.begin s screen link switches = (begun, b, s₁)) :
    b.firstBufferRotation = d.firstBufferRotation.or
      (if !screen.property.paused && screen.property.autoBufferRotation then
        some (sourceRotation link) else none) := by
  cases paused : screen.property.paused with
  | true =>
    unfold begin at h
    rw [if_pos paused] at h
    cases h
    exact (Option.or_none ..).symm
  | false =>
    rcases begin_memo h with ⟨⟨shown, -⟩, -⟩ | ⟨-, memo⟩
    · rw [paused] at shown
      cases shown
    · exact (congrArg Prod.snd memo).trans (nextScope_first d screen link)

/-- A frame sets the rotation of the first buffer if it follows its source and none did before. -/
theorem render_first (h : d.render s screen nodes switches = .ok (result, d', s')) :
    d'.firstBufferRotation = d.firstBufferRotation.or
      (FrameRecord.followed? ⟨screen, nodes, switches, s.engine, result⟩) := by
  unfold FrameRecord.followed?
  rcases render_cases h with ⟨e, broken, -, rfl, -⟩ | ⟨link, b, s₁, linked, ends⟩
  · rw [broken]
    exact (Option.or_none ..).symm
  rw [linked]
  rcases ends with ⟨e, started, -, rfl, -⟩ | ⟨started, rendered⟩
  · have memo := begin_first started
    exact memo
  · refine Eq.trans ?_ (begin_first started)
    obtain ⟨c, drawn, painted, c', -, ink, -, ends⟩ := renderLinked_begun started rendered
    have drew : painted.firstBufferRotation = b.firstBufferRotation := draw_first ink
    rcases ends with ⟨-, -, fence, finished⟩ | ⟨-, -, cancelled⟩
    · exact (finish_keeps finished).1.trans drew
    · cases cancelled
      exact drew

/-- Over every run, the rotation of the first buffer is that of the first frame that followed its
source. -/
theorem run_first (run : Run log d) : d.firstBufferRotation = FrameRecord.firstFollowed log := by
  induction run with
  | new id => rfl
  | refresh _ ih => exact ih
  | render _ frame ih => rw [render_first frame, ih, FrameRecord.firstFollowed_cons]

theorem run_sized (run : Run log d) (ordered : ∀ r ∈ log, r.engine.Sized) : d.life.Sized := by
  induction run with
  | new id => exact fun _ kept => nomatch kept
  | refresh _ ih => exact ih ordered
  | render _ frame ih =>
    obtain ⟨engine, earlier⟩ := List.forall_mem_cons.mp ordered
    exact (render_sized (ih earlier) engine frame).1

/-! ### Queued buffers -/

/-- The sides of a frame are those of its screen, exchanged as the rotation of the first buffer
says after the frame began. -/
theorem nextScope_size (d : VirtualDestination K) (screen : Screen K)
    (link : Option (MirrorLink K)) :
    let config := (d.nextScope screen link).1.config
    (ExchangesSides screen.property (d.nextScope screen link).2 link →
      config.width = screen.property.height ∧ config.height = screen.property.width) ∧
    (¬ ExchangesSides screen.property (d.nextScope screen link).2 link →
      config.width = screen.property.width ∧ config.height = screen.property.height) := by
  have again : (FrameScope.ofScreen screen link).sized screen.property (d.nextScope screen link).2 =
      d.nextScope screen link := FrameScope.sized_again _ _ _
  rw [← FrameScope.exchangesSize_iff]
  generalize (d.nextScope screen link).2 = first at again ⊢
  rw [← again]
  unfold FrameScope.sized
  dsimp only
  cases exchanged : (FrameScope.ofScreen screen link).exchangesSize
      screen.property.autoBufferRotation first with
  | true => exact ⟨fun _ => ⟨rfl, rfl⟩, fun other => absurd rfl other⟩
  | false => exact ⟨(nomatch ·), fun _ => ⟨rfl, rfl⟩⟩

/-- A frame that begins has a canvas of its size, and that is the size of its surface and of its
screen. -/
theorem begin_sized [HoldsLengths K] (sized : d.life.Sized) (engine : s.engine.Sized)
    (wide : screen.property.width.toNat ≤ 2 ^ 24) (high : screen.property.height.toNat ≤ 2 ^ 24)
    (h : d.begin s screen link switches = (.ok (), b, s₁)) :
    (b.scope, b.firstBufferRotation) = d.nextScope screen link ∧
      ∃ c, b.life.canvas? = some c ∧
        (c.base.width = b.scope.config.width ∧ c.base.height = b.scope.config.height) ∧
        b.life.screen = some c.base.bounds ∧ b.dirty.own.surface = c.base.bounds := by
  rcases begin_memo h with ⟨⟨-, e, failed⟩, -⟩ | ⟨-, memo⟩
  · cases failed
  rcases begin_cases h with ⟨e, failed, -⟩ | ⟨producer, life, -, requested, rest⟩
  · cases failed
  rcases rest with ⟨e, failed, -⟩ | ⟨-, -, resized, tagged⟩
  · cases failed
  have kept : (sizedLife d b).Sized := sized
  obtain ⟨⟨c, canvas, size⟩, shown⟩ := FrameLifecycle.request_pictured kept engine requested
  obtain ⟨-, bounds, screenRect⟩ := scope_bounds wide high (congrArg Prod.fst memo) size
  refine ⟨memo, c, (FrameLifecycle.tagged_canvas tagged).trans canvas, size, ?_, ?_⟩
  · rw [FrameLifecycle.tagged_screen tagged, shown, ← screenRect]
    rfl
  · rw [resized, bounds]
    exact OwnDirt.resize_surface _ _ _

/-- The buffer has the size of the screen, with its sides exchanged or not, and the destination
worked with that very size. -/
structure SizedFor (d : VirtualDestination K) (picture : Picture) (property : ScreenProperty K)
    (link : Option (MirrorLink K)) : Prop where
  aside : ExchangesSides property d.firstBufferRotation link →
    picture.width = property.height ∧ picture.height = property.width
  upright : ¬ ExchangesSides property d.firstBufferRotation link →
    picture.width = property.width ∧ picture.height = property.height
  config : d.scope.config.width = picture.width ∧ d.scope.config.height = picture.height
  surface : d.dirty.own.surface = picture.bounds
  screen : d.life.screen = some picture.bounds

theorem flushed_sizedFor [HoldsLengths K] (sized : d.life.Sized) (engine : s.engine.Sized)
    (wide : screen.property.width.toNat ≤ 2 ^ 24) (high : screen.property.height.toNat ≤ 2 ^ 24)
    (started : d.begin s screen link switches = (.ok (), b, s₁))
    (h : d.renderLinked s screen link switches = .ok (.ok .flushed, d', s')) :
    ∃ producer buffer, s'.delivered = (producer, buffer) :: s.delivered ∧
      d'.SizedFor buffer.picture screen.property link := by
  obtain ⟨memo, c, canvas, size, shown, surface⟩ := begin_sized sized engine wide high started
  obtain ⟨visible, -⟩ := (begin_dirt started).1 rfl
  obtain ⟨c₀, drawn, painted, c', canvas₀, ink, live, ends⟩ := renderLinked_begun started h
  obtain rfl : c = c₀ := Option.some.inj (canvas.symm.trans canvas₀)
  rcases ends with ⟨-, -, fence, finished⟩ | ⟨-, skipped, -⟩
  case inr => cases skipped
  obtain ⟨-, config, -, base⟩ := draw_inks ink
  obtain ⟨first, screenRect, dirt⟩ := finish_keeps finished
  obtain ⟨frame, kept, services, there, origin, -, flushed, passed, -, -, left⟩ :=
    finish_ok live finished
  obtain ⟨-, delivered, -⟩ := FrameLifecycle.flush_ok there origin flushed
  -- The frame that is passed on has the canvas that was drawn on, of the size it began with.
  have picture : frame.canvas.base = c.base := by
    obtain ⟨drew, -, rfl⟩ := Option.map_eq_some_iff.mp there
    exact base
  have same : d'.firstBufferRotation = (d.nextScope screen link).2 :=
    first.trans ((draw_first ink).trans (congrArg Prod.snd memo))
  have sides := nextScope_size d screen link
  dsimp only at sides
  rw [← congrArg Prod.fst memo, ← same] at sides
  rw [← size.1, ← size.2, ← picture] at sides
  have scope : d'.scope.config = b.scope.config := (congrArg (·.config) left).trans config
  refine ⟨kept.producer, FrameLifecycle.finished frame, ?_, sides.1, sides.2, ?_, ?_, ?_⟩
  · rw [passed, delivered, begin_delivered started]
  · rw [scope, ← size.1, ← size.2, ← picture]
    exact ⟨rfl, rfl⟩
  · rw [dirt]
    refine (draw_surface visible ink).trans (surface.trans ?_)
    rw [← picture]
    rfl
  · rw [screenRect]
    refine (FrameLifecycle.tagged_screen (draw_tagged visible ink)).trans (shown.trans ?_)
    rw [← picture]
    rfl

/-- Whatever frames came before, a queued buffer has the size of its screen, with its sides
exchanged just while the source is turned by an odd number of quarter turns against the first frame
that followed it; and the frame works with that very size. -/
theorem queued_buffer_sized [HoldsLengths K] (run : Run log d)
    (ordered : ∀ r ∈ log, r.engine.Sized) (engine : s.engine.Sized)
    (wide : screen.property.width.toNat ≤ 2 ^ 24) (high : screen.property.height.toNat ≤ 2 ^ 24)
    (h : d.render s screen nodes switches = .ok (result, d', s')) :
    d'.firstBufferRotation =
      FrameRecord.firstFollowed (⟨screen, nodes, switches, s.engine, result⟩ :: log) ∧
    (∀ first, d.firstBufferRotation = some first → d'.firstBufferRotation = some first) ∧
    ((result ≠ .ok .flushed ∧ s'.delivered = s.delivered) ∨
      result = .ok .flushed ∧ ∃ link producer buffer, nodes.mirrorLink screen = .ok link ∧
        s'.delivered = (producer, buffer) :: s.delivered ∧
        d'.SizedFor buffer.picture screen.property link) := by
  refine ⟨run_first (run.render h), fun first set => ?_, ?_⟩
  · rw [render_first h, set, Option.some_or]
  rcases render_cases h with ⟨e, -, rfl, -, rfl⟩ | ⟨link, b, s₁, linked, ends⟩
  · exact Or.inl ⟨nofun, rfl⟩
  rcases ends with ⟨e, started, rfl, -, rfl⟩ | ⟨started, rendered⟩
  · exact Or.inl ⟨nofun, begin_delivered started⟩
  obtain ⟨c, drawn, painted, c', -, -, -, ⟨-, rfl, -⟩ | ⟨-, rfl, cancelled⟩⟩ :=
    renderLinked_begun started rendered
  · obtain ⟨producer, buffer, delivered, fits⟩ :=
      flushed_sizedFor (run_sized run ordered) engine wide high started rendered
    exact Or.inr ⟨rfl, link, producer, buffer, linked, delivered, fits⟩
  · have services : ((painted.withCanvas c').life.cancel s₁).2 = s' := congrArg Prod.snd cancelled
    refine Or.inl ⟨nofun, ?_⟩
    rw [← services, FrameLifecycle.cancel_delivered, begin_delivered started]

/-! ### A source that is turned aside -/

def followingMirror : Screen Rat :=
  stillMirror { stillProperty with autoBufferRotation := true }

/-- The scene of a mirror of the still picture, with the display of that turned. -/
def turnedNodes (rotation : Rotation) : Nodes Rat :=
  [.screen stillSource,
    .display { id := 10, ancestor := 1, rotation, fixedWidth := 4, fixedHeight := 2 },
    .screen followingMirror, .display { id := 20, ancestor := 2, mirrorSource := some 10 }].foldl
    Nodes.add {}

def turnedFrame (rotation : Rotation) (start : VirtualDestination Rat × Services) : Rendering Rat :=
  start.1.render start.2 followingMirror (turnedNodes rotation) {}

theorem turned_rendered {rotation : Rotation} {start : VirtualDestination Rat × Services}
    {outcome : FrameOutcome} (h : (turnedFrame rotation start).outcome? = some outcome) :
    start.1.render start.2 followingMirror (turnedNodes rotation) {} =
      .ok (.ok outcome, (turnedFrame rotation start).after.1,
        (turnedFrame rotation start).after.2) := Rendering.eq_of_outcome h

theorem turned_linked (rotation : Rotation) :
    ∃ link, (turnedNodes rotation).mirrorLink followingMirror = .ok (some link) ∧
      sourceRotation (some link) = rotation.compose .deg0 := ⟨_, rfl, rfl⟩

def uprightFrame : Rendering Rat := turnedFrame .deg0 (new 2, {})

def asideFrame : Rendering Rat := turnedFrame .deg90 uprightFrame.after

set_option maxRecDepth 100000 in
theorem upright_flushed : uprightFrame.outcome? = some .flushed := by
  with_unfolding_all rfl

set_option maxRecDepth 100000 in
theorem aside_flushed : asideFrame.outcome? = some .flushed := by
  with_unfolding_all rfl

/-- The second frame, turned aside against the first one, has its sides exchanged. -/
theorem aside_buffer_exchanged : ∃ d s producer buffer,
    asideFrame = .ok (.ok .flushed, d, s) ∧ s.delivered.head? = some (producer, buffer) ∧
      d.firstBufferRotation = some .deg0 ∧
      (buffer.picture.width = 2 ∧ buffer.picture.height = 4) ∧
      d.dirty.own.surface = buffer.picture.bounds := by
  have first := turned_rendered upright_flushed
  have ordered : ({} : Services).engine.Sized := fun entry listed => nomatch listed
  have unused : (new 2 : VirtualDestination Rat).life.Sized := fun surface kept => nomatch kept
  have again := (render_sized unused ordered first).2.sized ordered
  have wide : followingMirror.property.width.toNat ≤ 2 ^ 24 := by decide
  have high : followingMirror.property.height.toNat ≤ 2 ^ 24 := by decide
  obtain ⟨memo, -, fits⟩ := queued_buffer_sized (.render (.new 2) first)
    (List.forall_mem_singleton.mpr ordered) again wide high (turned_rendered aside_flushed)
  have upright : asideFrame.after.1.firstBufferRotation = some .deg0 := memo.trans rfl
  rcases fits with ⟨unflushed, -⟩ | ⟨-, found, producer, buffer, linked, delivered, fits⟩
  · exact absurd rfl unflushed
  obtain ⟨link, linked', rotation⟩ := turned_linked .deg90
  obtain rfl : some link = found := Except.ok.inj (linked'.symm.trans linked)
  have aside : ExchangesSides followingMirror.property asideFrame.after.1.firstBufferRotation
      (some link) := ⟨rfl, .deg0, upright, by rw [rotation]; decide⟩
  exact ⟨_, _, producer, buffer, Rendering.eq_of_outcome aside_flushed,
    congrArg List.head? delivered, upright, fits.aside aside, fits.surface⟩

end VirtualDestination

end ScreenMirror
