import ScreenMirror.Proofs.Config.SceneNodes
import ScreenMirror.Proofs.Config.ValidMirrors

/-!
# Mirrors of validated configurations

In a validated configuration a mirror has an enabled screen as its source.  Its link
leads to the nodes of that screen, unless the screen is virtual and has no producer;
then its node is missing (`scene_links`).
-/

namespace ScreenMirror
open Checked

variable {K : Type}

/-! ### Valid tags -/

theorem ScreenConfig.mirrorSource_eq_some {c : ScreenConfig K} {source : UInt64} :
    c.mirrorSource = some source ↔ c.role = .mirroring source := by
  unfold mirrorSource
  cases c.role <;> simp

theorem ScreenConfig.mirrorSource_eq_none {c : ScreenConfig K} :
    c.mirrorSource = none ↔ ∀ source, c.role ≠ .mirroring source := by
  unfold mirrorSource
  cases c.role <;> simp

namespace Config

variable {config : Config K} {c : ScreenConfig K} {source : UInt64}

theorem validate_ids (config : Config K) :
    config.validate.screens.map (·.id) = config.screens.map (·.id) :=
  List.map_map ..

/-- The source of a screen that is still tagged after the validation is enabled. -/
theorem source_of_tagged (member : c ∈ config.validate.screens) (tagged : c.role = .mirroring source) :
    ∃ o ∈ config.validate.screens, o.id = source ∧ o.role = .enabled := by
  obtain ⟨-, o, found, enabled⟩ := mayMirror_iff.mp (mayMirror_of_tagged member tagged)
  have named : (o.id == source) = true :=
    List.find?_some (p := fun s : ScreenConfig K => s.id == source) found
  exact ⟨o, List.mem_of_find?_eq_some found, beq_iff_eq.mp named, enabled⟩

theorem validate_small (small : ∀ c ∈ config.screens, c.id.toNat < 2 ^ 32) :
    ∀ c ∈ config.validate.screens, ScreenConfig.Small c := by
  have own : ∀ c ∈ config.validate.screens, c.id.toNat < 2 ^ 32 := by
    intro c member
    obtain ⟨before, earlier, rfl⟩ := List.mem_map.mp member
    exact small before earlier
  intro c member
  refine ⟨own c member, fun source mirrored => ?_⟩
  obtain ⟨o, there, rfl, -⟩ :=
    source_of_tagged member (ScreenConfig.mirrorSource_eq_some.mp mirrored)
  exact own o there

end Config

theorem ScreenConfig.eq_of_number {screens : List (ScreenConfig K)} {c o : ScreenConfig K}
    (distinct : (screens.map (·.id)).Nodup) (member : c ∈ screens) (other : o ∈ screens)
    (same : c.id = o.id) : c = o :=
  List.inj_on_of_nodup_map distinct member other same

/-- An enabled screen has its place, or it is virtual and has no producer. -/
theorem ScreenConfig.place?_enabled {c : ScreenConfig K}
    {producerFor : ScreenConfig K → Option ProducerId} (enabled : c.role = .enabled) :
    c.place? producerFor = none ↔ c.kind = .virtual ∧ producerFor c = none := by
  unfold place?
  rw [enabled]
  cases c.kind <;> simp

/-! ### Links -/

/-- A link joins a screen and its display to those of another number. -/
structure MirrorLink.Joins (link : MirrorLink K) (nodes : Nodes K) (own other : UInt64) : Prop where
  source : ∃ name, screenNode other = .ok name ∧ nodes.screen name = .ok link.source
  ancestor : link.ancestor = link.source
  sourceDisplay : ∃ name, displayNode other = .ok name ∧ nodes.display name = .ok link.sourceDisplay
  display : ∃ name, displayNode own = .ok name ∧ nodes.display name = .ok link.display

theorem Nodes.mirrorLink_found {nodes : Nodes K} {s source ancestor : Screen K}
    {display sourceDisplay : Display} {a b k : NodeId} (mirrors : s.mirrorSource = some a)
    (shown : s.displays = [b]) (hs : nodes.screen a = .ok source) (hd : nodes.display b = .ok display)
    (mirrored : display.mirrorSource = some k) (hk : nodes.display k = .ok sourceDisplay)
    (ha : nodes.screen sourceDisplay.ancestor = .ok ancestor) :
    nodes.mirrorLink s = .ok (some ⟨display, sourceDisplay, source, ancestor⟩) := by
  unfold mirrorLink
  rw [mirrors]
  dsimp only
  rw [hs, shown]
  dsimp only [List.head?, bind, Except.bind]
  simp only [hd, mirrored, hk, ha]
  rfl

variable [Scalar K]

namespace ScreenConfig

variable {c o : ScreenConfig K} {screens : List (ScreenConfig K)} {nodes : Nodes K}
  {producerFor : ScreenConfig K → Option ProducerId} {s t : Screen K} {source : UInt64}

theorem mirrorSource_of_has (has : c.Has producerFor (.screen s)) :
    (c.mirrorSource = none → s.mirrorSource = none) ∧ ∀ source, c.mirrorSource = some source →
      ∃ name, screenNode source = .ok name ∧ s.mirrorSource = some name := by
  cases has with
  | screen placed made =>
    obtain ⟨-, mirrored, -⟩ := screen_ok made
    constructor
    · intro untagged
      rw [untagged] at mirrored
      exact (pure_ok mirrored).symm
    · intro source tagged
      rw [tagged] at mirrored
      exact mapM_some_ok mirrored

theorem mirrorLink_untagged (has : c.Has producerFor (.screen s)) (untagged : c.mirrorSource = none) :
    nodes.mirrorLink s = .ok none := by
  unfold Nodes.mirrorLink
  rw [(mirrorSource_of_has has).1 untagged]
  rfl

/-- The first look-up of a link is that of the source. -/
theorem mirrorLink_missing (has : c.Has producerFor (.screen s)) (tagged : c.mirrorSource = some source)
    (gone : ∀ name, screenNode source = .ok name → nodes.find? name = none) :
    ∃ name, screenNode source = .ok name ∧ nodes.mirrorLink s = .error (.missingNode name) := by
  obtain ⟨name, named, mirrors⟩ := (mirrorSource_of_has has).2 source tagged
  refine ⟨name, named, ?_⟩
  unfold Nodes.mirrorLink Nodes.screen
  rw [mirrors]
  dsimp only
  rw [gone name named]
  rfl

/-- The nodes of a screen are linked to those of the screen that it mirrors. -/
theorem mirrorLink_joins (holds : nodes.Holds (Nodes.OfScreens producerFor screens))
    (small : ∀ c ∈ screens, ScreenConfig.Small c) (member : c ∈ screens) (there : o ∈ screens)
    (has : c.Has producerFor (.screen s)) (shows : o.Has producerFor (.screen t))
    (tagged : c.mirrorSource = some o.id) :
    ∃ link, nodes.mirrorLink s = .ok (some link) ∧ link.Joins nodes c.id o.id := by
  have found {node : Node K} {x : ScreenConfig K} (listed : x ∈ screens)
      (owns : x.Has producerFor node) : nodes.find? node.id = some node :=
    (holds _ _).mpr ⟨⟨x, listed, owns⟩, rfl⟩
  have source : nodes.screen t.id = .ok t := Nodes.screen_eq_ok.mpr (found there shows)
  cases has with
  | screen placed made =>
    cases shows with
    | screen otherPlaced otherMade =>
      obtain ⟨d, shown⟩ := exists_display.mpr (small c member).nameable
      obtain ⟨e, otherShown⟩ := exists_display.mpr (small o there).nameable
      obtain ⟨-, mirrored, name, named, displays⟩ := screen_ok made
      obtain ⟨sourceNamed, -⟩ := screen_ok otherMade
      obtain ⟨own, -, mirroredDisplay⟩ := display_ok shown
      obtain ⟨otherOwn, ancestor, -⟩ := display_ok otherShown
      rw [tagged] at mirrored mirroredDisplay
      obtain ⟨first, firstNamed, mirrors⟩ := mapM_some_ok mirrored
      obtain ⟨second, secondNamed, mirrorsDisplay⟩ := mapM_some_ok mirroredDisplay
      obtain rfl : first = t.id := Except.ok.inj (firstNamed.symm.trans sourceNamed)
      obtain rfl : name = d.id := Except.ok.inj (named.symm.trans own)
      obtain rfl : second = e.id := Except.ok.inj (secondNamed.symm.trans otherOwn)
      have onSource : e.ancestor = t.id := Except.ok.inj (ancestor.symm.trans sourceNamed)
      have display : nodes.display d.id = .ok d :=
        Nodes.display_eq_ok.mpr (found member (.display placed shown))
      have sourceDisplay : nodes.display e.id = .ok e :=
        Nodes.display_eq_ok.mpr (found there (.display otherPlaced otherShown))
      refine ⟨⟨d, e, t, t⟩, ?_, ⟨⟨t.id, sourceNamed, source⟩, rfl, ⟨e.id, otherOwn, sourceDisplay⟩,
        ⟨d.id, own, display⟩⟩⟩
      exact Nodes.mirrorLink_found mirrors displays source display mirrorsDisplay sourceDisplay
        (onSource ▸ source)

end ScreenConfig

/-! ### Scenes -/

def Nodes.HasScreen (nodes : Nodes K) (number : UInt64) : Prop :=
  ∃ name s, screenNode number = .ok name ∧ nodes.screen name = .ok s

/-- What the link of a configured screen leads to. -/
structure ScreenConfig.Resolves (c : ScreenConfig K) (config : Config K)
    (producerFor : ScreenConfig K → Option ProducerId) (nodes : Nodes K) (s : Screen K) : Prop where
  untagged : (∀ source, c.role ≠ .mirroring source) → nodes.mirrorLink s = .ok none
  linked : ∀ source, c.role = .mirroring source → nodes.HasScreen source →
    ∃ link, nodes.mirrorLink s = .ok (some link) ∧ link.Joins nodes c.id source
  missing : ∀ source, c.role = .mirroring source → ¬ nodes.HasScreen source →
    ∃ name, screenNode source = .ok name ∧ nodes.mirrorLink s = .error (.missingNode name)
  declined : ∀ source, c.role = .mirroring source → (¬ nodes.HasScreen source ↔
    ∃ o, config.screen? source = some o ∧ o.kind = .virtual ∧ producerFor o = none)

namespace Config

variable {config : Config K} {producerFor : ScreenConfig K → Option ProducerId} {nodes : Nodes K}
  {screens : List (ScreenConfig K)} {c o : ScreenConfig K} {s : Screen K}

theorem hasScreen_iff (holds : nodes.Holds (Nodes.OfScreens producerFor screens))
    (distinct : (screens.map (·.id)).Nodup)
    (member : o ∈ screens) : nodes.HasScreen o.id ↔ ∃ t, o.Has producerFor (.screen t) := by
  constructor
  · rintro ⟨name, t, named, found⟩
    obtain ⟨⟨c, there, has⟩, same⟩ := (holds _ _).mp (Nodes.screen_eq_ok.mp found)
    have called : screenNode c.id = .ok name := same ▸ ScreenConfig.screenNode_of_has has
    obtain rfl := ScreenConfig.eq_of_number distinct there member (screenNode_inj called named)
    exact ⟨t, has⟩
  · rintro ⟨t, has⟩
    have found : nodes.screen t.id = .ok t :=
      Nodes.screen_eq_ok.mpr ((holds _ _).mpr ⟨⟨o, member, has⟩, rfl⟩)
    exact ⟨t.id, t, ScreenConfig.screenNode_of_has has, found⟩

theorem exists_has_iff (small : o.Small) :
    (∃ t, o.Has producerFor (.screen t)) ↔ o.place? producerFor ≠ none := by
  constructor
  · rintro ⟨t, ⟨placed, -⟩⟩
    rw [placed]
    exact Option.some_ne_none _
  · intro placed
    obtain ⟨t, -, has, -⟩ := ScreenConfig.exists_nodes placed small.nameable
    exact ⟨t, has⟩

theorem gone_of_lacking (holds : nodes.Holds (Nodes.OfScreens producerFor screens))
    (small : ∀ c ∈ screens, ScreenConfig.Small c) (member : o ∈ screens)
    (lacking : ¬ nodes.HasScreen o.id) {name : NodeId} (named : screenNode o.id = .ok name) :
    nodes.find? name = none := by
  refine Option.eq_none_iff_forall_ne_some.mpr fun node found => ?_
  cases node with
  | screen t => exact lacking ⟨name, t, named, Nodes.screen_eq_ok.mpr found⟩
  | display d =>
    obtain ⟨⟨c, there, has⟩, same⟩ := (holds _ _).mp found
    cases has with
    | display _ shown =>
      exact screenNode_ne_displayNode (small o member).own named
        (ScreenConfig.display_ok shown).1 same.symm

theorem screen_resolves (holds : nodes.Holds (Nodes.OfScreens producerFor config.validate.screens))
    (small : ∀ c ∈ config.validate.screens, ScreenConfig.Small c)
    (distinct : (config.validate.screens.map (·.id)).Nodup) (member : c ∈ config.validate.screens)
    (has : c.Has producerFor (.screen s)) : c.Resolves config.validate producerFor nodes s where
  untagged free := ScreenConfig.mirrorLink_untagged has (ScreenConfig.mirrorSource_eq_none.mpr free)
  linked source tagged there := by
    obtain ⟨o, other, rfl, -⟩ := source_of_tagged member tagged
    obtain ⟨t, shows⟩ := (hasScreen_iff holds distinct other).mp there
    exact ScreenConfig.mirrorLink_joins holds small member other has shows
      (ScreenConfig.mirrorSource_eq_some.mpr tagged)
  missing source tagged lacking := by
    obtain ⟨o, other, rfl, -⟩ := source_of_tagged member tagged
    exact ScreenConfig.mirrorLink_missing has (ScreenConfig.mirrorSource_eq_some.mpr tagged)
      fun _ => gone_of_lacking holds small other lacking
  declined source tagged := by
    obtain ⟨o, other, rfl, enabled⟩ := source_of_tagged member tagged
    have first : config.validate.screen? o.id = some o := by
      obtain ⟨x, found⟩ : ∃ x, config.validate.screen? o.id = some x :=
        Option.isSome_iff_exists.mp (List.find?_isSome.mpr ⟨o, other, beq_self_eq_true o.id⟩)
      rw [found, ScreenConfig.eq_of_number distinct (List.mem_of_find?_eq_some found) other
        (beq_iff_eq.mp (List.find?_some found :))]
    rw [hasScreen_iff holds distinct other, exists_has_iff (small o other), not_not,
      ScreenConfig.place?_enabled enabled, first]
    simp only [Option.some.injEq, exists_eq_left']

omit [Scalar K] in
theorem mem_screens_iff {P : Node K → Prop} (keyed : nodes.Keyed) (holds : nodes.Holds P) :
    s ∈ nodes.screens ↔ P (.screen s) := by
  have named : nodes.screen s.id = .ok s ↔ s ∈ nodes.screens ∧ s.id = s.id :=
    Nodes.screen_iff_mem keyed
  rw [Nodes.screen_eq_ok, holds] at named
  exact ⟨fun there => (named.mpr ⟨there, rfl⟩).1, fun has => (named.mp ⟨has, rfl⟩).1⟩

theorem source_untagged {t : Screen K} (distinct : (config.validate.screens.map (·.id)).Nodup)
    (member : c ∈ config.validate.screens) (has : c.Has producerFor (.screen s))
    (other : o ∈ config.validate.screens) (shows : o.Has producerFor (.screen t))
    (mirrors : s.mirrorSource = some t.id) : t.mirrorSource = none := by
  cases tagged : c.mirrorSource with
  | none => cases ((ScreenConfig.mirrorSource_of_has has).1 tagged).symm.trans mirrors
  | some source =>
    obtain ⟨name, named, same⟩ := (ScreenConfig.mirrorSource_of_has has).2 source tagged
    cases same.symm.trans mirrors
    obtain ⟨x, valid, rfl, enabled⟩ :=
      source_of_tagged member (ScreenConfig.mirrorSource_eq_some.mp tagged)
    have called : screenNode o.id = .ok t.id := ScreenConfig.screenNode_of_has shows
    obtain rfl := ScreenConfig.eq_of_number distinct other valid (screenNode_inj called named)
    refine (ScreenConfig.mirrorSource_of_has shows).1 (ScreenConfig.mirrorSource_eq_none.mpr ?_)
    rw [enabled]
    nofun

/-- In the scene of a validated configuration every mirror is linked to its source, or the source is
a virtual screen without a producer and its node is missing; and no source is a mirror itself. -/
theorem scene_links (producerFor : ScreenConfig K → Option ProducerId)
    (small : ∀ c ∈ config.screens, c.id.toNat < 2 ^ 32)
    (distinct : (config.screens.map (·.id)).Nodup) :
    ∃ scene, config.validate.scene producerFor = .ok scene ∧
      (∀ s, s ∈ scene.nodes.screens ↔
        ∃ c ∈ config.validate.screens, c.Has producerFor (.screen s)) ∧
      (∀ c ∈ config.validate.screens, ∀ s, c.Has producerFor (.screen s) →
        c.Resolves config.validate producerFor scene.nodes s) ∧
      ∀ s ∈ scene.nodes.screens, ∀ t ∈ scene.nodes.screens, s.mirrorSource = some t.id →
        t.mirrorSource = none := by
  have smaller := validate_small small
  have apart : (config.validate.screens.map (·.id)).Nodup := by rwa [validate_ids]
  obtain ⟨scene, built, holds⟩ := scene_holds producerFor smaller apart
  have shown (s : Screen K) := mem_screens_iff (s := s) (Nodes.built_keyed (scene_built built)) holds
  refine ⟨scene, built, shown, fun c member s has => screen_resolves holds smaller apart member has, ?_⟩
  intro s there t other mirrors
  obtain ⟨c, member, has⟩ := (shown s).mp there
  obtain ⟨o, listed, shows⟩ := (shown t).mp other
  exact source_untagged apart member has listed shows mirrors

/-! ### A chain of tags -/

/-- Screen 1 mirrors screen 0.  Screen 2 should mirror that mirror, and screen 4 a virtual screen
without a producer. -/
def chained : Config Rat where
  screens :=
    [{ id := 0, width := 4, height := 2 },
      { id := 1, kind := .virtual, width := 4, height := 2, role := .mirroring 0 },
      { id := 2, width := 4, height := 2, role := .mirroring 1 },
      { id := 3, kind := .virtual, width := 4, height := 2 },
      { id := 4, width := 4, height := 2, role := .mirroring 3 }]

def onlyFirst (c : ScreenConfig Rat) : Option ProducerId := if c.id = 1 then some 7 else none

/-- Screen 1 is linked to screen 0, screen 2 mirrors nothing, and the source of screen 4 is missing. -/
theorem chained_links : ∃ scene link, chained.validate.scene onlyFirst = .ok scene ∧
    (∃ s ∈ scene.nodes.screens, scene.nodes.mirrorLink s = .ok (some link) ∧
      link.Joins scene.nodes 1 0) ∧
    (∃ s ∈ scene.nodes.screens, s.id = 3 ∧ scene.nodes.mirrorLink s = .ok none) ∧
    ∃ s ∈ scene.nodes.screens, scene.nodes.mirrorLink s = .error (.missingNode 4) := by
  have small : ∀ c ∈ chained.screens, c.id.toNat < 2 ^ 32 := by decide
  obtain ⟨scene, built, shown, resolves, -⟩ := scene_links onlyFirst small (by decide)
  have placed {c : ScreenConfig Rat} (member : c ∈ chained.validate.screens)
      (place : c.place? onlyFirst ≠ none) : ∃ s ∈ scene.nodes.screens,
        c.Resolves chained.validate onlyFirst scene.nodes s ∧ screenNode c.id = .ok s.id := by
    obtain ⟨s, has⟩ := (exists_has_iff (validate_small small c member)).mpr place
    exact ⟨s, (shown s).mpr ⟨c, member, has⟩, resolves c member s has,
      ScreenConfig.screenNode_of_has has⟩
  obtain ⟨s, there, linked, -⟩ := placed (c := chained.validate.screens[1]) (List.getElem_mem _) nofun
  obtain ⟨t, other, untagged, named⟩ :=
    placed (c := chained.validate.screens[2]) (List.getElem_mem _) nofun
  obtain ⟨u, third, missing, -⟩ :=
    placed (c := chained.validate.screens[4]) (List.getElem_mem _) nofun
  have source : scene.nodes.HasScreen 0 := by
    by_contra lacking
    obtain ⟨o, found, kind, -⟩ := (linked.declined 0 rfl).mp lacking
    cases found
    cases kind
  have declined : ¬ scene.nodes.HasScreen 3 :=
    (missing.declined 3 rfl).mpr ⟨chained.validate.screens[3], rfl, rfl, rfl⟩
  obtain ⟨link, resolved, joins⟩ := linked.linked 0 rfl source
  obtain ⟨name, called, gone⟩ := missing.missing 3 rfl declined
  cases called
  exact ⟨scene, link, built, ⟨s, there, resolved, joins⟩,
    ⟨t, other, (Except.ok.inj named).symm, untagged.untagged nofun⟩, u, third, gone⟩

end Config

end ScreenMirror
