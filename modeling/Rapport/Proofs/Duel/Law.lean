import Rapport.Proofs.Attack.Players
import Rapport.Proofs.Attack.Veto

/-!
# The law of duels

A duel comes before everything else that two players have to do with each other: groups, free for
all, forced ranks, wars, templates and persuasion.  Between the units of two players who duel each
other there is hostility in both directions and no help, and nothing but the vetoes stands in the
way of an attack.

Nor does a duel admit help from outside.  A unit of a player is helped only on behalf of a player
who fights the same duel on the same side, or who fights none if the other fights none either.

`View.duel_law` states the two together.
-/

namespace Rapport

namespace View

variable {v : View} {a b u target : LiveUnit} {p q : LivePlayer}

/-! ### Opponents -/

theorem reaction_of_duels (hctrl : v.controllers? a b false = some (p, q)) (hid : a.id ≠ b.id)
    (hne : p.id ≠ q.id) (hduel : p.Duels q) : v.reaction a b = .hostile :=
  reaction_of_betweenPlayers hctrl hid (betweenPlayers?_of_duels hne hduel)

theorem canAssist_of_reaction_lt (h : v.reaction u target < .friendly) :
    v.canAssist u target = false := by
  have hrank : decide (Rank.friendly ≤ v.reaction u target) = false :=
    decide_eq_false (Nat.not_le.2 h)
  rw [canAssist, hrank, Bool.and_false, Bool.false_and]

/-- Whoever duels has a reason to fight, and no friend on the other side. -/
theorem canAttackWaiving_of_duels (hctrl : v.controllers? a b false = some (p, q))
    (hid : a.id ≠ b.id) (hne : p.id ≠ q.id) (hduel : p.Duels q) (w : Waiver) :
    v.canAttackWaiving w a b = !a.attackVeto w b := by
  have hfriend : v.isFriend a b = false := by
    rw [isFriend, reaction_of_duels hctrl hid hne hduel]
    rfl
  have hreason : p.hasReasonToFight q = true := by
    rw [LivePlayer.hasReasonToFight, (LivePlayer.duels_iff.1 hduel).1]
    rfl
  rw [canAttackWaiving_eq_of_controllers hctrl, hfriend, hreason]
  exact Bool.and_true _

/-! ### Outsiders -/

theorem canAssist_of_activeDuel_ne (htarget : target.isPlayerControlled = true)
    (hp : v.controller? u false = some p) (hq : v.controller? target false = some q)
    (hne : p.state.activeDuel ≠ q.state.activeDuel) : v.canAssist u target = false := by
  have hhelp : p.mayHelp q = false := by
    rw [LivePlayer.mayHelp, beq_false_of_ne hne, Bool.false_and]
  rw [canAssist, if_pos htarget, hp, hq]
  simp only [hhelp, Bool.and_false]

/-- On open land nobody takes part in a fight for a unit that they may not help. -/
theorem canAssistInCombatAgainst_of_not_canAssist (hopen : v.world.map.instanceable = false)
    (hassist : v.canAssist u target = false) (enemy : LiveUnit) :
    v.canAssistInCombatAgainst u target enemy = false := by
  rw [canAssistInCombatAgainst, hopen, if_neg Bool.false_ne_true, hassist, Bool.and_false,
    Bool.false_and]

/-! ### The law -/

/-- Units of two players in a duel with each other are hostile to each other, do not help each
other, and may attack each other as far as no veto forbids it.  Units of players who do not fight
one duel on one side do not help each other, be it with a spell, through a game object, or in a
fight on open land. -/
theorem duel_law (v : View) :
    (∀ {a b p q}, v.controllers? a b false = some (p, q) → a.id ≠ b.id →
      p.isInDuelWith q = true →
        (v.reaction a b = .hostile ∧ v.reaction b a = .hostile) ∧
        (v.canAssist a b = false ∧ v.canAssist b a = false) ∧
        ∀ w, v.canAttackWaiving w a b = true ↔
          ¬ a.OutOfReach b ∧ (w.target = false → b.isImmuneTo a = false) ∧
            (w.attacker = false → a.isImmuneTo b = false)) ∧
    (∀ {u target p q}, target.isPlayerControlled = true → v.controller? u false = some p →
      v.controller? target false = some q → p.state.activeDuel ≠ q.state.activeDuel →
        v.canAssist u target = false ∧
        (∀ spell, v.canAssistSpell u target spell = false) ∧
        (∀ o, v.holder? o.toLiveThing = some u →
          ∀ spell, v.gameObjectCanAssistSpell o target spell = false) ∧
        (v.world.map.instanceable = false →
          ∀ enemy, v.canAssistInCombatAgainst u target enemy = false)) := by
  constructor
  · intro a b p q hctrl hid hduel
    obtain ⟨hne, hduel⟩ := LivePlayer.isInDuelWith_iff.1 hduel
    have hab : v.reaction a b = .hostile := reaction_of_duels hctrl hid hne hduel
    have hba : v.reaction b a = .hostile :=
      reaction_of_duels (controllers?_swap hctrl) hid.symm hne.symm hduel.symm
    have hlt : Rank.hostile < Rank.friendly := by decide
    refine ⟨⟨hab, hba⟩, ⟨?_, ?_⟩, ?_⟩
    · exact canAssist_of_reaction_lt (hab ▸ hlt)
    · exact canAssist_of_reaction_lt (hba ▸ hlt)
    · intro w
      rw [canAttackWaiving_of_duels hctrl hid hne hduel, Bool.not_eq_true',
        LiveUnit.attackVeto_eq_false_iff]
  · intro u target p q htarget hp hq hne
    have hassist : v.canAssist u target = false := canAssist_of_activeDuel_ne htarget hp hq hne
    refine ⟨hassist, fun _ => hassist, ?_, ?_⟩
    · intro o hholder spell
      rw [gameObjectCanAssistSpell, hholder]
      exact hassist
    · intro hopen enemy
      exact canAssistInCombatAgainst_of_not_canAssist hopen hassist enemy

end View

/-- Another pet of the challenger, of a faction that players earn a standing with. -/
def boar : LiveUnit :=
  ⟨⟨3⟩, .creature,
    { factionTemplate := 120, flags := .only .playerControlled, owner := some challenger.id },
    .creature {}⟩

/-- A player who looks on at the duel, and is on good terms with the faction of the pet. -/
def onlooker : LivePlayer :=
  ⟨⟨4⟩, .player, { factionTemplate := 1, flags := .only .playerControlled }, {}⟩

/-- A game object of the onlooker. -/
def banner : LiveGameObject := ⟨⟨⟨5⟩, { holder := some onlooker.id }⟩⟩

/-- The duel with both pets of the challenger, in view of the onlooker and the game object. -/
def tiltyard : View :=
  (View.ofUnits frontierData
    [challenger.toUnit, rival.toUnit, wolf, boar, onlooker.toUnit]).withSpawned
      (.gameObject banner.state)

/-- A pet in the duel may attack the rival, and the onlooker does not help the other pet, friends
though they are, be it in person or through the game object. -/
theorem duel_law_tiltyard :
    tiltyard.controllers? wolf rival.toUnit false = some (challenger, rival) ∧
      challenger.isInDuelWith rival = true ∧
      tiltyard.reaction rival.toUnit wolf = .hostile ∧
      tiltyard.canAttackWaiving {} wolf rival.toUnit = true ∧
      onlooker.state.activeDuel ≠ challenger.state.activeDuel ∧
      tiltyard.reaction onlooker.toUnit boar = .friendly ∧
      tiltyard.canAssist onlooker.toUnit boar = false ∧
      tiltyard.gameObject? banner.id = some banner ∧
      tiltyard.gameObjectCanAssistSpell banner boar none = false ∧
      tiltyard.canAssistInCombatAgainst onlooker.toUnit boar rival.toUnit = false := by
  obtain ⟨hopponents, houtsiders⟩ := View.duel_law tiltyard
  have hctrl : tiltyard.controllers? wolf rival.toUnit false = some (challenger, rival) := rfl
  have hduel : challenger.isInDuelWith rival = true := rfl
  obtain ⟨⟨-, hhostile⟩, -, hattack⟩ := hopponents hctrl (by decide) hduel
  have hfree : wolf.attackVeto {} rival.toUnit = false := rfl
  have hallowed := (hattack {}).2 (LiveUnit.attackVeto_eq_false_iff.1 hfree)
  have hne : onlooker.state.activeDuel ≠ challenger.state.activeDuel := by decide
  obtain ⟨hassist, -, hobject, hfight⟩ :=
    @houtsiders onlooker.toUnit boar onlooker challenger rfl rfl rfl hne
  exact ⟨hctrl, hduel, hhostile, hallowed, hne, rfl, hassist, rfl,
    hobject banner rfl none, hfight rfl rival.toUnit⟩

end Rapport
