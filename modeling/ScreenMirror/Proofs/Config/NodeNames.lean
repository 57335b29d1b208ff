import ScreenMirror.Proofs.Config.SceneNodes

/-!
# Nodes that share a name

Every number has a name for a screen and one for a display.  The names of screens
with large numbers are those of displays again.  Of two nodes with one name a scene
has the one that was added later, and not the other (`nodes_kept_iff`).
-/

namespace ScreenMirror
open Checked

variable {K : Type} [Scalar K]

namespace ScreenConfig

variable {c o : ScreenConfig K} {producerFor : ScreenConfig K → Option ProducerId}
  {later : List (ScreenConfig K)} {nodes : Nodes K} {node : Node K} {s t : Screen K} {d e : Display}

/-- The scene has the screen node of a configured screen. -/
def KeepsScreen (c : ScreenConfig K) (producerFor : ScreenConfig K → Option ProducerId)
    (nodes : Nodes K) : Prop :=
  ∃ name s, screenNode c.id = .ok name ∧ nodes.screen name = .ok s ∧ c.Has producerFor (.screen s)

/-- The scene has its display node, and this lies on its screen node. -/
def KeepsDisplay (c : ScreenConfig K) (producerFor : ScreenConfig K → Option ProducerId)
    (nodes : Nodes K) : Prop :=
  ∃ name d, displayNode c.id = .ok name ∧ nodes.display name = .ok d ∧
    c.Has producerFor (.display d) ∧ screenNode c.id = .ok d.ancestor

omit [Scalar K] in
theorem place?_ne_none (produced : c.kind = .virtual → (producerFor c).isSome) :
    c.place? producerFor ≠ none ↔ c.role ≠ .disabled := by
  unfold place?
  cases role : c.role <;> cases kind : c.kind <;> simp_all [Option.isSome_iff_ne_none]

theorem enabled_of_has (has : c.Has producerFor node) : c.role ≠ .disabled := by
  intro disabled
  refine not_has ?_ has
  unfold place?
  rw [disabled]

theorem keepsScreen_iff (has : c.Has producerFor (.screen s)) :
    c.KeepsScreen producerFor nodes ↔ nodes.find? s.id = some (.screen s) := by
  have named := screenNode_of_has has
  rw [← Nodes.screen_eq_ok]
  constructor
  · rintro ⟨name, t, called, found, also⟩
    cases screen_unique has also
    cases named.symm.trans called
    exact found
  · intro found
    exact ⟨s.id, s, named, found, has⟩

theorem keepsDisplay_iff (has : c.Has producerFor (.display d)) :
    c.KeepsDisplay producerFor nodes ↔ nodes.find? d.id = some (.display d) := by
  obtain ⟨named, ancestor⟩ := displayNode_of_has has
  rw [← Nodes.display_eq_ok]
  constructor
  · rintro ⟨name, e, called, found, also, -⟩
    cases display_unique has also
    cases named.symm.trans called
    exact found
  · intro found
    exact ⟨d.id, d, named, found, has, ancestor⟩

/-! ### What is added later -/

theorem not_ofScreens (has : c.Has producerFor node) (apart : ∀ o ∈ later, o.id ≠ c.id) :
    ¬ Nodes.OfScreens producerFor later node := by
  rintro ⟨o, member, other⟩
  refine apart o member ?_
  cases node with
  | screen s => exact (screens_share_name has other).mp rfl
  | display d => exact (displays_share_name has other).mp rfl

/-- Of the nodes of later screens only a display can have the name of a screen. -/
theorem screen_spared_iff (has : c.Has producerFor (.screen s)) (apart : ∀ o ∈ later, o.id ≠ c.id)
    (made : ∀ o ∈ later, o.role ≠ .disabled → ∃ d, Has producerFor o (.display d)) :
    (∀ node, Nodes.OfScreens producerFor later node → node.id ≠ s.id) ↔
      ∀ o ∈ later, o.role ≠ .disabled → ¬ c.Meets o := by
  constructor
  · intro spared o member enabled meets
    obtain ⟨d, shown⟩ := made o member enabled
    exact spared (.display d) ⟨o, member, shown⟩ ((meets_iff has shown).mp meets).symm
  · rintro clear node ⟨o, member, other⟩ same
    cases node with
    | screen t => exact apart o member ((screens_share_name has other).mp same)
    | display d =>
      exact clear o member (enabled_of_has other) ((meets_iff has other).mpr same.symm)

theorem display_spared_iff (has : c.Has producerFor (.display d)) (apart : ∀ o ∈ later, o.id ≠ c.id)
    (made : ∀ o ∈ later, o.role ≠ .disabled → ∃ s, Has producerFor o (.screen s)) :
    (∀ node, Nodes.OfScreens producerFor later node → node.id ≠ d.id) ↔
      ∀ o ∈ later, o.role ≠ .disabled → ¬ o.Meets c := by
  constructor
  · intro spared o member enabled meets
    obtain ⟨s, shown⟩ := made o member enabled
    exact spared (.screen s) ⟨o, member, shown⟩ ((meets_iff shown has).mp meets)
  · rintro clear node ⟨o, member, other⟩ same
    cases node with
    | screen s => exact clear o member (enabled_of_has other) ((meets_iff other has).mpr same)
    | display e => exact apart o member ((displays_share_name has other).mp same)

omit [Scalar K] in
/-- The two nodes of a screen never share a name. -/
theorem not_meets_self (c : ScreenConfig K) : ¬ c.Meets c := by
  unfold Meets
  omega

theorem own_screen (has : c.Has producerFor (.screen s)) (other : c.Has producerFor node)
    (same : node.id = s.id) : node = .screen s := by
  cases node with
  | screen t => rw [screen_unique has other]
  | display d => exact absurd ((meets_iff has other).mpr same.symm) (not_meets_self c)

theorem own_display (has : c.Has producerFor (.display d)) (other : c.Has producerFor node)
    (same : node.id = d.id) : node = .display d := by
  cases node with
  | screen s => exact absurd ((meets_iff other has).mpr same) (not_meets_self c)
  | display e => rw [display_unique has other]

end ScreenConfig

namespace Nodes.Overlays

variable {nodes added : Nodes K} {P : Node K → Prop}

omit [Scalar K] in
theorem find?_new (node : Node K) (overlays : added.Overlays nodes P) (new : P node)
    (alone : ∀ other, P other → other.id = node.id → other = node) :
    added.find? node.id = some node := by
  obtain ⟨other, latest, named, there⟩ | ⟨none, -⟩ := overlays node.id
  · rwa [alone other latest named] at there
  · exact absurd rfl (none node new)

omit [Scalar K] in
theorem find?_iff (node : Node K) (overlays : added.Overlays nodes P)
    (found : nodes.find? node.id = some node) (old : ¬ P node) :
    added.find? node.id = some node ↔ ∀ other, P other → other.id ≠ node.id := by
  obtain ⟨other, latest, named, there⟩ | ⟨none, kept⟩ := overlays node.id
  · refine iff_of_false (fun same => ?_) fun spared => spared other latest named
    cases there.symm.trans same
    exact old latest
  · exact iff_of_true (kept.trans found) none

end Nodes.Overlays

namespace Config

variable {config : Config K} {producerFor : ScreenConfig K → Option ProducerId} {scene : Scene K}
  {c : ScreenConfig K} {earlier later : List (ScreenConfig K)}

theorem scene_overlays (built : config.scene producerFor = .ok scene)
    (place : config.screens = earlier ++ c :: later) : ∃ before after : Nodes K,
      after.Overlays before (c.Has producerFor) ∧
      scene.nodes.Overlays after (Nodes.OfScreens producerFor later) := by
  obtain ⟨nodes, folded, h⟩ := bind_ok built
  cases pure_ok h
  rw [place, List.foldlM_append] at folded
  obtain ⟨before, -, folded⟩ := bind_ok folded
  rw [List.foldlM_cons] at folded
  obtain ⟨after, step, folded⟩ := bind_ok folded
  exact ⟨before, after, Nodes.addScreen_overlays step, Nodes.addScreens_overlays folded⟩

omit [Scalar K] in
theorem later_apart (distinct : (config.screens.map (·.id)).Nodup)
    (place : config.screens = earlier ++ c :: later) : ∀ o ∈ later, o.id ≠ c.id := by
  rw [place, List.map_append, List.map_cons] at distinct
  have own := (List.nodup_cons.mp (List.Nodup.of_append_right distinct)).1
  intro o member same
  exact own (List.mem_map.mpr ⟨o, member, same⟩)

theorem exists_nodes_of_scene
    (produced : ∀ c ∈ config.screens, c.kind = .virtual → (producerFor c).isSome)
    (built : config.scene producerFor = .ok scene) (listed : c ∈ config.screens)
    (enabled : c.role ≠ .disabled) :
    ∃ s d, c.Has producerFor (.screen s) ∧ c.Has producerFor (.display d) := by
  have placed := (ScreenConfig.place?_ne_none (produced c listed)).mpr enabled
  exact ScreenConfig.exists_nodes placed (exists_scene.mp ⟨scene, built⟩ c listed placed)

/-- The nodes of a screen are kept unless a later screen has a node of their name. -/
theorem kept_iff (distinct : (config.screens.map (·.id)).Nodup)
    (produced : ∀ c ∈ config.screens, c.kind = .virtual → (producerFor c).isSome)
    (built : config.scene producerFor = .ok scene) (place : config.screens = earlier ++ c :: later)
    (enabled : c.role ≠ .disabled) :
    (c.KeepsScreen producerFor scene.nodes ↔ ∀ o ∈ later, o.role ≠ .disabled → ¬ c.Meets o) ∧
      (c.KeepsDisplay producerFor scene.nodes ↔ ∀ o ∈ later, o.role ≠ .disabled → ¬ o.Meets c) := by
  have apart := later_apart distinct place
  have listed : c ∈ config.screens := place ▸ List.mem_append_right _ List.mem_cons_self
  have made : ∀ o ∈ later, o.role ≠ .disabled →
      ∃ s d, o.Has producerFor (.screen s) ∧ o.Has producerFor (.display d) := by
    intro o member
    refine exists_nodes_of_scene produced built ?_
    exact place ▸ List.mem_append_right _ (List.mem_cons_of_mem _ member)
  obtain ⟨s, d, screen, display⟩ := exists_nodes_of_scene produced built listed enabled
  obtain ⟨before, own, added, overlaid⟩ := scene_overlays built place
  have first := added.find?_new (.screen s) screen fun _ => ScreenConfig.own_screen screen
  have second := added.find?_new (.display d) display fun _ => ScreenConfig.own_display display
  constructor
  · refine (ScreenConfig.keepsScreen_iff screen).trans
      ((overlaid.find?_iff _ first (ScreenConfig.not_ofScreens screen apart)).trans ?_)
    refine ScreenConfig.screen_spared_iff screen apart fun o member enabled => ?_
    obtain ⟨-, e, -, shown⟩ := made o member enabled
    exact ⟨e, shown⟩
  · refine (ScreenConfig.keepsDisplay_iff display).trans
      ((overlaid.find?_iff _ second (ScreenConfig.not_ofScreens display apart)).trans ?_)
    refine ScreenConfig.display_spared_iff display apart fun o member enabled => ?_
    obtain ⟨t, -, shown, -⟩ := made o member enabled
    exact ⟨t, shown⟩

omit [Scalar K] in
/-- Of two screens whose nodes meet one stands before the other. -/
theorem exists_later {o : ScreenConfig K} (listed : c ∈ config.screens) (other : o ∈ config.screens)
    (meets : c.Meets o) : (∃ earlier later, config.screens = earlier ++ c :: later ∧ o ∈ later) ∨
      ∃ earlier later, config.screens = earlier ++ o :: later ∧ c ∈ later := by
  obtain ⟨earlier, later, place⟩ := List.append_of_mem listed
  rw [place, List.mem_append, List.mem_cons] at other
  obtain before | rfl | after := other
  · obtain ⟨start, between, rfl⟩ := List.append_of_mem before
    refine Or.inr ⟨start, between ++ c :: later, ?_, List.mem_append_right _ List.mem_cons_self⟩
    rw [place, List.append_assoc, List.cons_append]
  · exact absurd meets (ScreenConfig.not_meets_self _)
  · exact Or.inl ⟨earlier, later, place, after⟩

/-- A scene is built if all its nodes can be named.  It lacks a node of a screen just if a later one
has a node of that name, and no node if no two numbers are apart by the offset of the displays. -/
theorem nodes_kept_iff (distinct : (config.screens.map (·.id)).Nodup)
    (produced : ∀ c ∈ config.screens, c.kind = .virtual → (producerFor c).isSome) :
    ((∃ scene, config.scene producerFor = .ok scene) ↔
      ∀ c ∈ config.screens, c.role ≠ .disabled → c.Nameable) ∧
    ∀ scene, config.scene producerFor = .ok scene →
      (∀ earlier c later, config.screens = earlier ++ c :: later → c.role ≠ .disabled →
        (c.KeepsScreen producerFor scene.nodes ↔ ∀ o ∈ later, o.role ≠ .disabled → ¬ c.Meets o) ∧
        (c.KeepsDisplay producerFor scene.nodes ↔ ∀ o ∈ later, o.role ≠ .disabled → ¬ o.Meets c)) ∧
      ((∀ c ∈ config.screens, c.role ≠ .disabled →
          c.KeepsScreen producerFor scene.nodes ∧ c.KeepsDisplay producerFor scene.nodes) ↔
        ∀ c ∈ config.screens, ∀ o ∈ config.screens, c.role ≠ .disabled → o.role ≠ .disabled →
          ¬ c.Meets o) := by
  refine ⟨?_, fun scene built => ⟨fun earlier c later place =>
    kept_iff distinct produced built place, ?_⟩⟩
  · rw [exists_scene]
    refine forall₂_congr fun c member => ?_
    rw [ScreenConfig.place?_ne_none (produced c member)]
  · constructor
    · intro kept c listed o other enabled otherEnabled meets
      obtain ⟨earlier, later, place, after⟩ | ⟨earlier, later, place, after⟩ :=
        exists_later listed other meets
      · have spared := (kept_iff distinct produced built place enabled).1
        exact spared.mp (kept c listed enabled).1 o after otherEnabled meets
      · have spared := (kept_iff distinct produced built place otherEnabled).2
        exact spared.mp (kept o other otherEnabled).2 c after enabled meets
    · intro clear c listed enabled
      obtain ⟨earlier, later, place⟩ := List.append_of_mem listed
      have after : ∀ o ∈ later, o ∈ config.screens := fun o member =>
        place ▸ List.mem_append_right _ (List.mem_cons_of_mem _ member)
      obtain ⟨screen, display⟩ := kept_iff distinct produced built place enabled
      exact ⟨screen.mpr fun o member otherEnabled =>
          clear c listed o (after o member) enabled otherEnabled,
        display.mpr fun o member otherEnabled =>
          clear o (after o member) c listed otherEnabled enabled⟩

/-- A wired screen with the first number. -/
def lowest : ScreenConfig Rat := { id := 0, width := 4, height := 2 }

/-- A virtual screen whose node has the name of the display of `lowest`. -/
def shadowing : ScreenConfig Rat := { id := 4294967296, kind := .virtual, width := 4, height := 2 }

def highest : ScreenConfig Rat := { id := 18446744073709551615, width := 4, height := 2 }

def sevenFor (_ : ScreenConfig Rat) : Option ProducerId := some 7

/-- The display of the first screen is missing, and there is no scene of the last number. -/
theorem lowest_lacks_display :
    (∃ scene, { screens := [lowest, shadowing] : Config Rat }.scene sevenFor = .ok scene ∧
      lowest.KeepsScreen sevenFor scene.nodes ∧ ¬ lowest.KeepsDisplay sevenFor scene.nodes ∧
      shadowing.KeepsScreen sevenFor scene.nodes ∧ shadowing.KeepsDisplay sevenFor scene.nodes) ∧
    ¬ ∃ scene, { screens := [highest] : Config Rat }.scene sevenFor = .ok scene := by
  have produced (config : Config Rat) :
      ∀ c ∈ config.screens, c.kind = .virtual → (sevenFor c).isSome := fun _ _ _ => rfl
  have meets : shadowing.Meets lowest := rfl
  have clear : ¬ lowest.Meets shadowing := by
    unfold ScreenConfig.Meets at meets ⊢
    omega
  constructor
  · obtain ⟨buildable, kept⟩ := nodes_kept_iff
      (show (List.map (·.id) [lowest, shadowing]).Nodup by decide) (produced { screens := _ })
    have nameable : ∀ c ∈ [lowest, shadowing], c.role ≠ .disabled → c.Nameable := by
      refine List.forall_mem_cons.mpr ⟨fun _ => ⟨?_, nofun⟩, List.forall_mem_singleton.mpr
        fun _ => ⟨?_, nofun⟩⟩
      · exact (by decide : 2 ^ 32 + 0 + 1 < 2 ^ 64)
      · exact (by decide : 2 ^ 32 + 4294967296 + 1 < 2 ^ 64)
    obtain ⟨scene, built⟩ := buildable.mpr nameable
    obtain ⟨firstScreen, firstDisplay⟩ := (kept scene built).1 [] lowest [shadowing] rfl nofun
    obtain ⟨secondScreen, secondDisplay⟩ := (kept scene built).1 [lowest] shadowing [] rfl nofun
    refine ⟨scene, built, firstScreen.mpr ?_, fun spared => ?_, secondScreen.mpr ?_,
      secondDisplay.mpr ?_⟩
    · exact List.forall_mem_singleton.mpr fun _ => clear
    · exact firstDisplay.mp spared shadowing List.mem_cons_self nofun meets
    · exact fun _ member => absurd member List.not_mem_nil
    · exact fun _ member => absurd member List.not_mem_nil
  · intro built
    obtain ⟨buildable, -⟩ := nodes_kept_iff
      (show (List.map (·.id) [highest]).Nodup by decide) (produced { screens := _ })
    have room := (buildable.mp built highest List.mem_cons_self nofun).own
    exact absurd room (by decide : ¬ 2 ^ 32 + 18446744073709551615 + 1 < 2 ^ 64)

end Config

end ScreenMirror
