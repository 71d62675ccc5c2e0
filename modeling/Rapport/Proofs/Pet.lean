import Rapport.Proofs.Control
import Rapport.Proofs.Reaction
import Rapport.Proofs.World.Run

/-!
# Pets in place of their owners

Whom a unit regards how, and whom it belongs with, depends on little of the unit itself: who is in
control of it, which template it bears, and how persuasion concerns it.  Two units that agree in
this (`View.Alike`) give the same answers and are given the same answers by all others.

A unit that a player controls and that bears the player's template therefore stands in for the
player (`View.StandsInFor`).  Between the two of them, and toward either of them, the rule for one
player on both sides gives the answers; toward everyone else they are alike.
-/

namespace Rapport

/-- Every entity is stored under its own number. -/
def World.StoresUnderOwnIds (w : World) : Prop :=
  ∀ id e, w.get? id = some e → e.id = id

theorem World.Orderly.storesUnderOwnIds {w : World} (hw : w.Orderly) : w.StoresUnderOwnIds :=
  fun _ _ he => hw.own_id he

/-- Every entity counts as the kind of thing that it is. -/
def World.KindsMatch (w : World) : Prop :=
  ∀ id e, w.get? id = some e → e.kind = e.body.kind

theorem World.Orderly.kindsMatch {w : World} (hw : w.Orderly) : w.KindsMatch :=
  fun _ _ he => hw.own_kind he

namespace View

variable {v : View} {x y t : LiveUnit} {p : LivePlayer} {i j k : EntityId}

theorem id_of_unit? (hown : v.world.StoresUnderOwnIds) (hx : v.unit? i = some x) : x.id = i := by
  obtain ⟨e, he, hunit⟩ := Option.bind_eq_some_iff.1 hx
  have hid : x.id = e.id := by
    unfold Entity.unit? at hunit
    split at hunit
    · cases hunit
      rfl
    · contradiction
  rw [hid, hown i e he]

theorem unit_eq_of_id_eq (hown : v.world.StoresUnderOwnIds) (hx : v.unit? i = some x)
    (hy : v.unit? j = some y) (hid : x.id = y.id) : x = y := by
  rw [id_of_unit? hown hx, id_of_unit? hown hy] at hid
  rw [hid, hy] at hx
  exact (Option.some.inj hx).symm

/-! ### Units that are alike -/

/-- Two units agree in all that the rules of reaction and membership read of a unit, except for the
number. -/
structure Alike (v : View) (x y : LiveUnit) : Prop where
  controlled : x.isPlayerControlled = y.isPlayerControlled
  controller : v.controller? x false = v.controller? y false
  template : x.state.factionTemplate = y.state.factionTemplate
  persuades : x.state.persuaded = y.state.persuaded
  persuaded : x.state.flags.has .persuaded = y.state.flags.has .persuaded

namespace Alike

theorem templateOf? (h : v.Alike x y) : v.templateOf? x = v.templateOf? y :=
  congrArg v.template? h.template

theorem reactionByTemplate_left (h : v.Alike x y) (t : LiveUnit) :
    v.reactionByTemplate x t = v.reactionByTemplate y t := by
  have hpersuaded : v.isPersuaded x t = v.isPersuaded y t := by
    rw [isPersuaded, isPersuaded, h.persuades]
  simp only [reactionByTemplate, afterPersuasion, h.templateOf?, hpersuaded]

theorem templateReactionToUnit (h : v.Alike x y) (template : Option FactionTemplate) :
    v.templateReactionToUnit template x = v.templateReactionToUnit template y := by
  have hreputation (t : FactionTemplate) :
      v.reputationReaction? t x = v.reputationReaction? t y := by
    rw [reputationReaction?, reputationReaction?, h.controlled, h.controller]
  simp only [View.templateReactionToUnit, h.templateOf?, hreputation]

/-- Whoever persuades neither of two units that are alike regards them alike. -/
theorem reactionByTemplate_right (h : v.Alike x y) (hx : t.state.persuaded ≠ some x.id)
    (hy : t.state.persuaded ≠ some y.id) : v.reactionByTemplate t x = v.reactionByTemplate t y := by
  have hpersuaded : v.isPersuaded t x = v.isPersuaded t y := by
    rw [isPersuaded, isPersuaded, h.persuaded, h.templateOf?, beq_false_of_ne hx,
      beq_false_of_ne hy]
  rw [reactionByTemplate, reactionByTemplate, h.templateReactionToUnit, afterPersuasion,
    afterPersuasion, hpersuaded]

theorem reaction_left (h : v.Alike x y) (hx : x.id ≠ t.id) (hy : y.id ≠ t.id) :
    v.reaction x t = v.reaction y t := by
  rw [reaction, reaction, if_neg hx, if_neg hy]
  simp only [controlledReaction?, controllerStance?, h.controlled, h.controller,
    h.reactionByTemplate_left]

theorem reaction_right (h : v.Alike x y) (hx : x.id ≠ t.id) (hy : y.id ≠ t.id)
    (hxlink : t.state.persuaded ≠ some x.id) (hylink : t.state.persuaded ≠ some y.id) :
    v.reaction t x = v.reaction t y := by
  rw [reaction, reaction, if_neg hx.symm, if_neg hy.symm]
  simp only [controlledReaction?, controllerStance?, h.controlled, h.controller, h.templateOf?,
    h.reactionByTemplate_right hxlink hylink]

theorem belongTogether_left (h : v.Alike x y) (hx : x.id ≠ t.id) (hy : y.id ≠ t.id)
    (related : LivePlayer → LivePlayer → Bool) :
    v.belongTogether related x t false = v.belongTogether related y t false := by
  rw [belongTogether, belongTogether, beq_false_of_ne hx, beq_false_of_ne hy]
  simp only [controllers?, h.controlled, h.controller]

theorem belongTogether_right (h : v.Alike x y) (hx : x.id ≠ t.id) (hy : y.id ≠ t.id)
    (related : LivePlayer → LivePlayer → Bool) :
    v.belongTogether related t x false = v.belongTogether related t y false := by
  rw [belongTogether, belongTogether, beq_false_of_ne hx.symm, beq_false_of_ne hy.symm]
  simp only [controllers?, h.controlled, h.controller]

end Alike

/-! ### Units that stand in for a player -/

/-- A unit that a player answers for. -/
structure UnderPlayer (v : View) (x : LiveUnit) (p : LivePlayer) : Prop where
  controlled : x.isPlayerControlled = true
  controller : v.controller? x false = some p

/-- A unit under a player who is their own master, alike with the player in template and
persuasion. -/
structure StandsInFor (v : View) (x : LiveUnit) (p : LivePlayer) : Prop
    extends v.UnderPlayer x p where
  ownMaster : p.IsOwnMaster
  template : x.state.factionTemplate = p.unitState.factionTemplate
  persuades : x.state.persuaded = p.unitState.persuaded
  persuaded : x.state.flags.has .persuaded = p.unitState.flags.has .persuaded

namespace UnderPlayer

theorem controllers? (hx : v.UnderPlayer x p) (hy : v.UnderPlayer y p) :
    v.controllers? x y false = some (p, p) :=
  controllers?_eq_some_iff.2 ⟨⟨hx.controlled, hy.controlled⟩, hx.controller, hy.controller⟩

theorem reaction (hx : v.UnderPlayer x p) (hy : v.UnderPlayer y p) :
    v.reaction x y = .friendly :=
  reaction_of_one_controller (hx.controllers? hy) rfl

theorem belongTogether (hx : v.UnderPlayer x p) (hy : v.UnderPlayer y p)
    (related : LivePlayer → LivePlayer → Bool) : v.belongTogether related x y false = true :=
  belongTogether_iff.2 (Or.inr ⟨p, p, hx.controllers? hy, Or.inl rfl⟩)

end UnderPlayer

namespace StandsInFor

theorem underPlayer_self (h : v.StandsInFor x p) : v.UnderPlayer p.toUnit p :=
  ⟨h.ownMaster.controlled, controller?_of_isOwnMaster h.ownMaster⟩

theorem alike (h : v.StandsInFor x p) : v.Alike x p.toUnit where
  controlled := h.controlled.trans h.ownMaster.controlled.symm
  controller := h.controller.trans (controller?_of_isOwnMaster h.ownMaster).symm
  template := h.template
  persuades := h.persuades
  persuaded := h.persuaded

section

variable (hown : v.world.StoresUnderOwnIds) (hx : v.unit? i = some x) (hp : v.player? j = some p)
  (h : v.StandsInFor x p) (ht : v.unit? k = some t)

include hown hx hp h ht

/-- Any unit is under the same player, or it is neither the player nor the one standing in. -/
theorem underPlayer_or_ne :
    v.UnderPlayer t p ∨ (x.id ≠ t.id ∧ p.id ≠ t.id) := by
  by_cases hxt : x.id = t.id
  · rw [← unit_eq_of_id_eq hown hx ht hxt]
    exact Or.inl h.toUnderPlayer
  by_cases hpt : p.id = t.id
  · rw [← unit_eq_of_id_eq hown (player?_eq_some_iff.1 hp) ht hpt]
    exact Or.inl h.underPlayer_self
  exact Or.inr ⟨hxt, hpt⟩

theorem reaction_agrees :
    v.reaction x t = v.reaction p.toUnit t ∧
      (t.state.persuaded ≠ some x.id → t.state.persuaded ≠ some p.id →
        v.reaction t x = v.reaction t p.toUnit) := by
  rcases h.underPlayer_or_ne hown hx hp ht with hunder | ⟨hxt, hpt⟩
  · rw [h.toUnderPlayer.reaction hunder, h.underPlayer_self.reaction hunder,
      hunder.reaction h.toUnderPlayer, hunder.reaction h.underPlayer_self]
    exact ⟨rfl, fun _ _ => rfl⟩
  · exact ⟨h.alike.reaction_left hxt hpt, h.alike.reaction_right hxt hpt⟩

theorem belongTogether_agrees (related : LivePlayer → LivePlayer → Bool) :
    v.belongTogether related x t false = v.belongTogether related p.toUnit t false ∧
      v.belongTogether related t x false = v.belongTogether related t p.toUnit false := by
  rcases h.underPlayer_or_ne hown hx hp ht with hunder | ⟨hxt, hpt⟩
  · rw [h.toUnderPlayer.belongTogether hunder, h.underPlayer_self.belongTogether hunder,
      hunder.belongTogether h.toUnderPlayer, hunder.belongTogether h.underPlayer_self]
    exact ⟨rfl, rfl⟩
  · exact ⟨h.alike.belongTogether_left hxt hpt related,
      h.alike.belongTogether_right hxt hpt related⟩

theorem isInGroup_agrees (party : Bool) :
    v.isInGroup x t party false = v.isInGroup p.toUnit t party false ∧
      v.isInGroup t x party false = v.isInGroup t p.toUnit party false := by
  have hx' := h.controlled
  have hp' := h.ownMaster.controlled
  rw [isInGroup_of_isPlayerControlled (Or.inl hx'), isInGroup_of_isPlayerControlled (Or.inl hp'),
    isInGroup_of_isPlayerControlled (Or.inr hx'), isInGroup_of_isPlayerControlled (Or.inr hp')]
  exact h.belongTogether_agrees hown hx hp ht _

end

end StandsInFor

/-- A unit that stands in for a player regards everyone as the player does, is regarded as the
player is by all who persuade neither of the two, and belongs in every way with those with whom the
player belongs. -/
theorem answers_of_stand_in (hown : v.world.StoresUnderOwnIds) (hx : v.unit? i = some x)
    (hp : v.player? j = some p) (h : v.StandsInFor x p) (ht : v.unit? k = some t) :
    (v.reaction x t = v.reaction p.toUnit t ∧
      (t.state.persuaded ≠ some x.id → t.state.persuaded ≠ some p.id →
        v.reaction t x = v.reaction t p.toUnit)) ∧
      (∀ party, v.isInGroup x t party false = v.isInGroup p.toUnit t party false ∧
        v.isInGroup t x party false = v.isInGroup t p.toUnit party false) ∧
      (v.isInTeam x t false = v.isInTeam p.toUnit t false ∧
        v.isInTeam t x false = v.isInTeam t p.toUnit false) ∧
      (v.isInGuild x t false = v.isInGuild p.toUnit t false ∧
        v.isInGuild t x false = v.isInGuild t p.toUnit false) := by
  -- sides and guilds are nothing but relations between the players in control
  have hrelated := h.belongTogether_agrees hown hx hp ht
  refine ⟨h.reaction_agrees hown hx hp ht, h.isInGroup_agrees hown hx hp ht, ?_, ?_⟩
  · exact hrelated fun r s => r.state.team == s.state.team
  · exact hrelated fun r s => r.state.guild.isSome && r.state.guild == s.state.guild

end View

/-- A player who has earned a standing with faction 21. -/
def tamer : LivePlayer :=
  ⟨⟨0⟩, .player, { factionTemplate := 1, flags := .only .playerControlled },
    { reputation := Reputation.setEarned {} 21 9000 }⟩

/-- A creature that the player has charmed away from an owner who is gone. -/
def lynx : LiveUnit :=
  ⟨⟨1⟩, .creature,
    { factionTemplate := 1, flags := .only .playerControlled, owner := some ⟨7⟩,
      charmer := some tamer.id },
    .creature {}⟩

/-- A creature of faction 21. -/
def monk : LiveUnit := ⟨⟨2⟩, .creature, { factionTemplate := 120 }, .creature {}⟩

/-- The player, the charmed creature and the other one. -/
def abbey : View := .ofUnits frontierData [tamer.toUnit, lynx, monk]

/-- The standing that the player has earned is given to the charmed creature too. -/
theorem answers_of_stand_in_abbey :
    abbey.world.StoresUnderOwnIds ∧ abbey.unit? lynx.id = some lynx ∧
      abbey.player? tamer.id = some tamer ∧ abbey.unit? monk.id = some monk ∧
      abbey.StandsInFor lynx tamer ∧ abbey.reaction monk lynx = .honored ∧
      abbey.reaction lynx monk = abbey.reaction tamer.toUnit monk ∧
      abbey.isInTeam monk lynx false = abbey.isInTeam monk tamer.toUnit false := by
  have horderly : abbey.world.Orderly := World.orderly_ofBodies (by decide)
  have hown : abbey.world.StoresUnderOwnIds := horderly.storesUnderOwnIds
  have hlynx : abbey.unit? lynx.id = some lynx := rfl
  have htamer : abbey.player? tamer.id = some tamer := rfl
  have hmonk : abbey.unit? monk.id = some monk := rfl
  have hstand : abbey.StandsInFor lynx tamer := ⟨⟨rfl, rfl⟩, ⟨rfl, rfl, rfl⟩, rfl, rfl, rfl⟩
  obtain ⟨⟨hfrom, hto⟩, -, ⟨-, hteam⟩, -⟩ := View.answers_of_stand_in hown hlynx htamer hstand hmonk
  have hregard : abbey.reaction monk lynx = .honored := by
    rw [hto (by decide) (by decide)]
    rfl
  exact ⟨hown, hlynx, htamer, hmonk, hstand, hregard, hfrom, hteam⟩

end Rapport
