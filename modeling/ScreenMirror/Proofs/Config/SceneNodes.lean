import ScreenMirror.Proofs.Compositor.Processors
import ScreenMirror.Proofs.Config.PlainScene

/-!
# Nodes of configured scenes

The names of displays begin where those of screens with small numbers end, so that
no two nodes of a scene have one name.  `scene_holds` says that the scene of such a
configuration has the nodes of its screens, and no others.
-/

namespace ScreenMirror
open Checked

/-! ### Names -/

section
variable {id other : UInt64} {name otherName : NodeId}

theorem screenNode_ok : screenNode id = .ok name ↔ name.toNat = id.toNat + 1 :=
  Sequence.add_eq_ok_iff

theorem displayNode_ok : displayNode id = .ok name ↔ name.toNat = 2 ^ 32 + id.toNat + 1 := by
  have offset : displayOffset.toNat = 2 ^ 32 := rfl
  have one : (1 : UInt64).toNat = 1 := rfl
  constructor
  · intro named
    obtain ⟨start, moved, named⟩ := bind_ok named
    rw [Sequence.add_eq_ok_iff] at moved named
    omega
  · intro sum
    have below := name.toNat_lt
    have moved : Sequence.add displayOffset id = .ok (displayOffset + id) := by
      refine Sequence.add_eq_ok_iff.mpr ?_
      rw [UInt64.toNat_add]
      omega
    have start := Sequence.add_eq_ok_iff.mp moved
    unfold displayNode
    rw [moved]
    refine Sequence.add_eq_ok_iff.mpr ?_
    omega

/-- There are names for both nodes of the screen with a number. -/
def Nameable (id : UInt64) : Prop := 2 ^ 32 + id.toNat + 1 < 2 ^ 64

theorem exists_displayNode : (∃ name, displayNode id = .ok name) ↔ Nameable id := by
  constructor
  · rintro ⟨name, named⟩
    rw [displayNode_ok] at named
    unfold Nameable
    rw [← named]
    exact name.toNat_lt
  · intro nameable
    exact ⟨UInt64.ofNat (2 ^ 32 + id.toNat + 1),
      displayNode_ok.mpr (UInt64.toNat_ofNat_of_lt' nameable)⟩

theorem exists_screenNode (nameable : Nameable id) : ∃ name, screenNode id = .ok name :=
  ⟨UInt64.ofNat (id.toNat + 1), screenNode_ok.mpr (UInt64.toNat_ofNat_of_lt' (by
    have : UInt64.size = 2 ^ 64 := rfl
    unfold Nameable at nameable
    omega))⟩

theorem screenNode_inj (named : screenNode id = .ok name) (same : screenNode other = .ok name) :
    id = other := by
  rw [screenNode_ok] at named same
  exact UInt64.toNat_inj.mp (by omega)

/-- No screen with a small number has the name of a display. -/
theorem screenNode_ne_displayNode (small : id.toNat < 2 ^ 32) (named : screenNode id = .ok name)
    (shown : displayNode other = .ok otherName) : name ≠ otherName := by
  rw [screenNode_ok] at named
  rw [displayNode_ok] at shown
  rintro rfl
  omega

end

theorem mapM_some_ok {nodeOf : UInt64 → Checked NodeId} {source : UInt64} {mirrored : Option NodeId}
    (h : (some source).mapM nodeOf = .ok mirrored) :
    ∃ name, nodeOf source = .ok name ∧ mirrored = some name := by
  obtain ⟨name, named, h⟩ := bind_ok (f := fun name => pure (some name)) h
  exact ⟨name, named, (pure_ok h).symm⟩

variable {K : Type} [Scalar K]

/-! ### Nodes of a screen -/

namespace ScreenConfig

variable {c o : ScreenConfig K} {producerFor : ScreenConfig K → Option ProducerId}
  {producer : Option ProducerId} {s t : Screen K} {d e : Display} {node other : Node K}

/-- The number of a screen, and of the one that it mirrors, leave room for the displays. -/
structure Small (c : ScreenConfig K) : Prop where
  own : c.id.toNat < 2 ^ 32
  source : ∀ source, c.mirrorSource = some source → source.toNat < 2 ^ 32

/-- There are names for the nodes of a screen, and of the one that it mirrors. -/
structure Nameable (c : ScreenConfig K) : Prop where
  own : ScreenMirror.Nameable c.id
  source : ∀ source, c.mirrorSource = some source → ScreenMirror.Nameable source

omit [Scalar K] in
theorem Small.nameable (small : c.Small) : c.Nameable where
  own := by
    have own := small.own
    unfold ScreenMirror.Nameable
    omega
  source source mirrored := by
    have source := small.source source mirrored
    unfold ScreenMirror.Nameable
    omega

theorem screen_ok (h : c.screen producer = .ok s) :
    screenNode c.id = .ok s.id ∧ c.mirrorSource.mapM screenNode = .ok s.mirrorSource ∧
      ∃ name, displayNode c.id = .ok name ∧ s.displays = [name] := by
  obtain ⟨id, named, h⟩ := bind_ok h
  obtain ⟨source, mirrored, h⟩ := bind_ok h
  obtain ⟨name, shown, h⟩ := bind_ok h
  cases pure_ok h
  exact ⟨named, mirrored, name, shown, rfl⟩

omit [Scalar K] in
theorem display_ok (h : c.display = .ok d) :
    displayNode c.id = .ok d.id ∧ screenNode c.id = .ok d.ancestor ∧
      c.mirrorSource.mapM displayNode = .ok d.mirrorSource := by
  obtain ⟨id, named, h⟩ := bind_ok h
  obtain ⟨ancestor, shown, h⟩ := bind_ok h
  obtain ⟨source, mirrored, h⟩ := bind_ok h
  cases pure_ok h
  exact ⟨named, shown, mirrored⟩

omit [Scalar K] in
theorem exists_mirrored {nodeOf : UInt64 → Checked NodeId}
    (named : ∀ {id : UInt64}, ScreenMirror.Nameable id → ∃ name, nodeOf id = .ok name)
    (nameable : c.Nameable) : ∃ source, c.mirrorSource.mapM nodeOf = .ok source := by
  cases tagged : c.mirrorSource with
  | none => exact ⟨none, rfl⟩
  | some source =>
    obtain ⟨name, named⟩ := named (nameable.source source tagged)
    refine ⟨some name, ?_⟩
    show some <$> nodeOf source = _
    rw [named]
    rfl

theorem exists_screen (nameable : c.Nameable) (producer : Option ProducerId) :
    ∃ s, c.screen producer = .ok s := by
  obtain ⟨id, named⟩ := exists_screenNode nameable.own
  obtain ⟨source, mirrored⟩ := exists_mirrored exists_screenNode nameable
  obtain ⟨name, shown⟩ := exists_displayNode.mpr nameable.own
  unfold screen
  rw [named, mirrored, shown]
  exact ⟨_, rfl⟩

omit [Scalar K] in
theorem exists_display : (∃ d, c.display = .ok d) ↔ c.Nameable := by
  constructor
  · rintro ⟨d, made⟩
    obtain ⟨named, -, mirrored⟩ := display_ok made
    refine ⟨exists_displayNode.mp ⟨_, named⟩, fun source tagged => ?_⟩
    rw [tagged] at mirrored
    obtain ⟨name, sourceNamed, -⟩ := mapM_some_ok mirrored
    exact exists_displayNode.mp ⟨name, sourceNamed⟩
  · intro nameable
    obtain ⟨id, named⟩ := exists_displayNode.mpr nameable.own
    obtain ⟨ancestor, shown⟩ := exists_screenNode nameable.own
    obtain ⟨source, mirrored⟩ := exists_mirrored exists_displayNode.mpr nameable
    unfold display
    rw [named, shown, mirrored]
    exact ⟨_, rfl⟩

/-- The nodes that a configured screen has in its scene. -/
inductive Has (producerFor : ScreenConfig K → Option ProducerId) (c : ScreenConfig K) :
    Node K → Prop where
  | screen {producer : Option ProducerId} {s : Screen K}
      (placed : c.place? producerFor = some producer) (made : c.screen producer = .ok s) :
      Has producerFor c (.screen s)
  | display {producer : Option ProducerId} {d : Display}
      (placed : c.place? producerFor = some producer) (made : c.display = .ok d) :
      Has producerFor c (.display d)

theorem screenNode_of_has (has : c.Has producerFor (.screen s)) : screenNode c.id = .ok s.id := by
  cases has with
  | screen _ made => exact (screen_ok made).1

theorem screen_unique (has : c.Has producerFor (.screen s)) (also : c.Has producerFor (.screen t)) :
    s = t := by
  cases has with
  | screen placed made =>
    cases also with
    | screen again remade =>
      cases placed.symm.trans again
      exact Except.ok.inj (made.symm.trans remade)

theorem display_unique (has : c.Has producerFor (.display d)) (also : c.Has producerFor (.display e)) :
    d = e := by
  cases has with
  | display _ made =>
    cases also with
    | display _ remade => exact Except.ok.inj (made.symm.trans remade)

theorem displayNode_of_has (has : c.Has producerFor (.display d)) :
    displayNode c.id = .ok d.id ∧ screenNode c.id = .ok d.ancestor := by
  cases has with
  | display _ made => exact ⟨(display_ok made).1, (display_ok made).2.1⟩

/-- The screen node of `c` has the name of the display node of `o`. -/
def Meets (c o : ScreenConfig K) : Prop := c.id.toNat = o.id.toNat + 2 ^ 32

theorem screens_share_name (has : c.Has producerFor (.screen s))
    (owns : o.Has producerFor (.screen t)) : t.id = s.id ↔ o.id = c.id := by
  have named := screenNode_ok.mp (screenNode_of_has has)
  have called := screenNode_ok.mp (screenNode_of_has owns)
  rw [← UInt64.toNat_inj, ← UInt64.toNat_inj]
  omega

theorem displays_share_name (has : c.Has producerFor (.display d))
    (owns : o.Has producerFor (.display e)) : e.id = d.id ↔ o.id = c.id := by
  have named := displayNode_ok.mp (displayNode_of_has has).1
  have called := displayNode_ok.mp (displayNode_of_has owns).1
  rw [← UInt64.toNat_inj, ← UInt64.toNat_inj]
  omega

theorem meets_iff (has : c.Has producerFor (.screen s)) (owns : o.Has producerFor (.display d)) :
    c.Meets o ↔ s.id = d.id := by
  have named := screenNode_ok.mp (screenNode_of_has has)
  have called := displayNode_ok.mp (displayNode_of_has owns).1
  unfold Meets
  rw [← UInt64.toNat_inj]
  omega

omit [Scalar K] in
theorem not_meets_of_small (small : c.Small) : ¬ c.Meets o := by
  have low := small.own
  unfold Meets
  omega

/-- The name of a node says which screen it belongs to, and which of its nodes it is. -/
theorem has_inj (small : c.Small) (otherSmall : o.Small) (has : c.Has producerFor node)
    (otherHas : o.Has producerFor other) (same : node.id = other.id) :
    c.id = o.id ∧ (c = o → node = other) := by
  cases node with
  | screen s =>
    cases other with
    | screen t =>
      refine ⟨(screens_share_name otherHas has).mp same, ?_⟩
      rintro rfl
      rw [screen_unique has otherHas]
    | display d => exact absurd ((meets_iff has otherHas).mpr same) (not_meets_of_small small)
  | display d =>
    cases other with
    | screen s =>
      exact absurd ((meets_iff otherHas has).mpr same.symm) (not_meets_of_small otherSmall)
    | display e =>
      refine ⟨(displays_share_name otherHas has).mp same, ?_⟩
      rintro rfl
      rw [display_unique has otherHas]

theorem has_iff (placed : c.place? producerFor = some producer) (made : c.screen producer = .ok s)
    (shown : c.display = .ok d) : c.Has producerFor node ↔ node = .screen s ∨ node = .display d := by
  constructor
  · intro has
    cases has with
    | screen again remade =>
      cases placed.symm.trans again
      cases made.symm.trans remade
      exact Or.inl rfl
    | display _ reshown =>
      cases shown.symm.trans reshown
      exact Or.inr rfl
  · rintro (rfl | rfl)
    · exact .screen placed made
    · exact .display placed shown

theorem not_has (unplaced : c.place? producerFor = none) : ¬ c.Has producerFor node := by
  intro has
  cases has with
  | screen placed _ => cases unplaced.symm.trans placed
  | display placed _ => cases unplaced.symm.trans placed

theorem exists_nodes (placed : c.place? producerFor ≠ none) (nameable : c.Nameable) :
    ∃ s d, c.Has producerFor (.screen s) ∧ c.Has producerFor (.display d) := by
  obtain ⟨producer, placed⟩ := Option.ne_none_iff_exists'.mp placed
  obtain ⟨s, made⟩ := exists_screen nameable producer
  obtain ⟨d, shown⟩ := exists_display.mpr nameable
  exact ⟨s, d, .screen placed made, .display placed shown⟩

end ScreenConfig

/-! ### Nodes of a scene -/

namespace Nodes

variable {nodes added last : Nodes K} {producerFor : ScreenConfig K → Option ProducerId}
  {screens : List (ScreenConfig K)} {c : ScreenConfig K} {P Q : Node K → Prop}

omit [Scalar K] in
theorem display_eq_ok {id : NodeId} {d : Display} :
    nodes.display id = .ok d ↔ nodes.find? id = some (.display d) := by
  unfold display
  cases nodes.find? id with
  | none => exact ⟨nofun, nofun⟩
  | some node => cases node <;> simp

/-- The nodes are the given ones, each under its own name. -/
def Holds (nodes : Nodes K) (P : Node K → Prop) : Prop :=
  ∀ id node, nodes.find? id = some node ↔ P node ∧ node.id = id

/-- The nodes of some configured screens. -/
def OfScreens (producerFor : ScreenConfig K → Option ProducerId) (screens : List (ScreenConfig K))
    (node : Node K) : Prop :=
  ∃ c ∈ screens, c.Has producerFor node

/-- Under every name is a new node, or what was there if no new one has the name. -/
def Overlays (added nodes : Nodes K) (P : Node K → Prop) : Prop :=
  ∀ id, (∃ node, P node ∧ node.id = id ∧ added.find? id = some node) ∨
    (∀ node, P node → node.id ≠ id) ∧ added.find? id = nodes.find? id

omit [Scalar K] in
theorem overlays_add (nodes : Nodes K) (node : Node K) : (nodes.add node).Overlays nodes (· = node) := by
  intro id
  by_cases same : id = node.id
  · subst same
    exact Or.inl ⟨node, rfl, rfl, IdTable.find?_insert ..⟩
  · refine Or.inr ⟨?_, IdTable.find?_insert_of_ne _ _ same⟩
    rintro other rfl
    exact Ne.symm same

omit [Scalar K] in
theorem Overlays.trans (first : added.Overlays nodes P) (second : last.Overlays added Q) :
    last.Overlays nodes fun node => P node ∨ Q node := by
  intro id
  obtain ⟨node, new, named, found⟩ | ⟨none, kept⟩ := second id
  · exact Or.inl ⟨node, Or.inr new, named, found⟩
  obtain ⟨node, new, named, found⟩ | ⟨noneBefore, keptBefore⟩ := first id
  · exact Or.inl ⟨node, Or.inl new, named, kept.trans found⟩
  · exact Or.inr ⟨fun node new => new.elim (noneBefore node) (none node), kept.trans keptBefore⟩

theorem addScreen_overlays (h : Config.addScreen producerFor nodes c = .ok added) :
    added.Overlays nodes (c.Has producerFor) := by
  unfold Config.addScreen at h
  split at h
  case h_1 unplaced =>
    cases pure_ok h
    exact fun id => Or.inr ⟨fun node has => absurd has (ScreenConfig.not_has unplaced), rfl⟩
  case h_2 producer placed =>
    obtain ⟨s, made, h⟩ := bind_ok h
    obtain ⟨d, shown, h⟩ := bind_ok h
    cases pure_ok h
    have both : c.Has producerFor = fun node => node = .screen s ∨ node = .display d :=
      funext fun node => propext (ScreenConfig.has_iff placed made shown)
    rw [both]
    exact (overlays_add _ _).trans (overlays_add _ _)

theorem addScreens_overlays (h : screens.foldlM (Config.addScreen producerFor) nodes = .ok added) :
    added.Overlays nodes (OfScreens producerFor screens) := by
  induction screens generalizing nodes with
  | nil =>
    cases pure_ok h
    exact fun id => Or.inr ⟨fun node ⟨_, member, _⟩ => absurd member List.not_mem_nil, rfl⟩
  | cons c rest ih =>
    rw [List.foldlM_cons] at h
    obtain ⟨next, step, h⟩ := bind_ok h
    have either : OfScreens producerFor (c :: rest) =
        fun node => c.Has producerFor node ∨ OfScreens producerFor rest node :=
      funext fun node => propext (by simp [OfScreens])
    rw [either]
    exact (addScreen_overlays step).trans (ih h)

theorem exists_addScreen (nodes : Nodes K) : (∃ added, Config.addScreen producerFor nodes c = .ok added) ↔
    (c.place? producerFor ≠ none → c.Nameable) := by
  unfold Config.addScreen
  cases placed : c.place? producerFor with
  | none => exact ⟨fun _ placed => absurd rfl placed, fun _ => ⟨nodes, rfl⟩⟩
  | some producer =>
    constructor
    · rintro ⟨added, h⟩ -
      obtain ⟨s, -, h⟩ := bind_ok h
      obtain ⟨d, shown, -⟩ := bind_ok h
      exact ScreenConfig.exists_display.mp ⟨d, shown⟩
    · intro nameable
      obtain ⟨s, made⟩ := ScreenConfig.exists_screen (nameable (Option.some_ne_none _)) producer
      obtain ⟨d, shown⟩ := ScreenConfig.exists_display.mpr (nameable (Option.some_ne_none _))
      dsimp only
      rw [made, shown]
      exact ⟨_, rfl⟩

theorem exists_addScreens (nodes : Nodes K) :
    (∃ added, screens.foldlM (Config.addScreen producerFor) nodes = .ok added) ↔
      ∀ c ∈ screens, c.place? producerFor ≠ none → c.Nameable := by
  induction screens generalizing nodes with
  | nil => exact ⟨fun _ c member => absurd member List.not_mem_nil, fun _ => ⟨nodes, rfl⟩⟩
  | cons c rest ih =>
    rw [List.forall_mem_cons, ← exists_addScreen nodes, List.foldlM_cons]
    constructor
    · rintro ⟨added, h⟩
      obtain ⟨next, step, h⟩ := bind_ok h
      exact ⟨⟨next, step⟩, (ih next).mp ⟨added, h⟩⟩
    · rintro ⟨⟨next, step⟩, nameable⟩
      rw [step]
      exact (ih next).mpr nameable

end Nodes

theorem Config.exists_scene {config : Config K} {producerFor : ScreenConfig K → Option ProducerId} :
    (∃ scene, config.scene producerFor = .ok scene) ↔
      ∀ c ∈ config.screens, c.place? producerFor ≠ none → c.Nameable := by
  rw [← Nodes.exists_addScreens {}]
  unfold Config.scene
  constructor
  · rintro ⟨scene, h⟩
    obtain ⟨nodes, built, -⟩ := bind_ok h
    exact ⟨nodes, built⟩
  · rintro ⟨nodes, built⟩
    rw [built]
    exact ⟨_, rfl⟩

/-- The scene of a configuration with small numbers, each of one screen, has the nodes of its
screens. -/
theorem Config.scene_holds {config : Config K} (producerFor : ScreenConfig K → Option ProducerId)
    (small : ∀ c ∈ config.screens, ScreenConfig.Small c)
    (distinct : (config.screens.map (·.id)).Nodup) :
    ∃ scene, config.scene producerFor = .ok scene ∧
      scene.nodes.Holds (Nodes.OfScreens producerFor config.screens) := by
  obtain ⟨scene, h⟩ := exists_scene.mpr fun c member _ => (small c member).nameable
  refine ⟨scene, h, fun id node => ?_⟩
  obtain ⟨nodes, built, h⟩ := bind_ok h
  cases pure_ok h
  obtain ⟨found, ⟨o, member, has⟩, named, there⟩ | ⟨none, kept⟩ := Nodes.addScreens_overlays built id
  · rw [there, Option.some.injEq]
    constructor
    · rintro rfl
      exact ⟨⟨o, member, has⟩, named⟩
    · rintro ⟨⟨c, listed, owns⟩, called⟩
      obtain ⟨number, same⟩ :=
        ScreenConfig.has_inj (small o member) (small c listed) has owns (named.trans called.symm)
      exact same (List.inj_on_of_nodup_map distinct member listed number)
  · rw [kept]
    exact ⟨nofun, fun ⟨owned, called⟩ => absurd called (none node owned)⟩

theorem Config.scene_built {config : Config K} {producerFor : ScreenConfig K → Option ProducerId}
    {scene : Scene K} (h : config.scene producerFor = .ok scene) : scene.nodes.Built := by
  obtain ⟨nodes, built, h⟩ := bind_ok h
  cases pure_ok h
  refine foldlM_ok (fun nodes c added earlier step => ?_) Nodes.Built.empty built
  unfold addScreen at step
  split at step
  · exact pure_ok step ▸ earlier
  · obtain ⟨s, -, step⟩ := bind_ok step
    obtain ⟨d, -, step⟩ := bind_ok step
    exact pure_ok step ▸ (earlier.add _).add _

end ScreenMirror
