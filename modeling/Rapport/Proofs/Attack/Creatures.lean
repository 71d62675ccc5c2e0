import Rapport.Proofs.Attack.Veto

/-!
# Attacks of creatures on units of players

With the faction of a creature, if it is one that players earn a standing with, every player is at
peace or at war.  Three rules decide together which units of a player the creature's spells may hit.
Friends are spared, friends under a player at war are not, and those who are neither friends nor
enemies are spared as well, again unless the player is at war.

Together they come to one law (`View.canAttackSpell_of_confronts`): a spell may hit enemies and the
units of players at war, and nobody else.  Where a veto forbids the attack, only friends at war are
left (`View.Confronts.canAttackSpell_iff`).
-/

namespace Rapport

namespace View

variable {v : View} {u target : LiveUnit} {f : Faction} {q : LivePlayer} {w : Waiver}

/-- A unit that no player controls, of a faction that players earn a standing with, before a unit of
a player. -/
structure Confronts (v : View) (u target : LiveUnit) (f : Faction) (q : LivePlayer) : Prop where
  wild : u.isPlayerControlled = false
  faction : (v.templateOf? u).bind v.data.reputationFactionOf? = some f
  controlled : target.isPlayerControlled = true
  player : v.controller? target false = some q

namespace Confronts

theorem isAtWarWith?_eq (h : v.Confronts u target f q) :
    v.isAtWarWith? u target = some (q.state.reputation.isAtWar f) := by
  rw [isAtWarWith?, h.player, h.faction]

/-- In a fight friends are spared, but for the war of their player. -/
theorem canAttackInCombat_iff (h : v.Confronts u target f q) :
    v.canAttackInCombat w u target = true ↔
      (u.attackVeto w target = false ∧ v.isFriend u target = false) ∨
        (v.isFriend u target = true ∧ q.state.reputation.isAtWar f = true) := by
  rw [canAttackInCombat, canAttackWaiving, h.wild, h.controlled, h.isAtWarWith?_eq]
  simp

/-- Spells also spare those who are neither friends nor enemies, but for the war of their player. -/
theorem spellMayHit_iff (h : v.Confronts u target f q) {isArea : Bool} :
    v.spellMayHitPlayerControlled u target isArea = true ↔
      v.isEnemy u target = true ∨ q.state.reputation.isAtWar f = true := by
  rw [spellMayHitPlayerControlled, h.wild, h.isAtWarWith?_eq]
  simp

/-- A spell hits enemies whom no veto protects, and units of players at war, of whom a veto protects
only those who are no friends. -/
theorem canAttackSpell_iff (h : v.Confronts u target f q) {spell : Option Spell} {isArea : Bool} :
    v.canAttackSpell u target spell isArea = true ↔
      (target.state.alive = true ∨ ∀ s, spell = some s → s.allowsDeadTarget = true) ∧
        ((u.attackVeto (.both (spell.any Spell.ignoresRestrictions)) target = false ∧
            v.isEnemy u target = true) ∨
          (q.state.reputation.isAtWar f = true ∧
            (u.attackVeto (.both (spell.any Spell.ignoresRestrictions)) target = false ∨
              v.isFriend u target = true))) := by
  rw [canAttackSpell, Bool.and_eq_true, Bool.and_eq_true, alive_or_allowsDeadTarget_iff,
    h.canAttackInCombat_iff, h.controlled, Bool.not_true, Bool.false_or, h.spellMayHit_iff,
    and_assoc]
  -- the rule of the fight and that of the spell are crossed, case by case
  refine and_congr_right fun _ => ?_
  constructor
  · rintro ⟨⟨hveto, hfriend⟩ | ⟨hfriend, hwar⟩, henemy | hwar'⟩
    · exact Or.inl ⟨hveto, henemy⟩
    · exact Or.inr ⟨hwar', Or.inl hveto⟩
    · exact Or.inr ⟨hwar, Or.inr hfriend⟩
    · exact Or.inr ⟨hwar, Or.inr hfriend⟩
  · rintro (⟨hveto, henemy⟩ | ⟨hwar, hspared⟩)
    · exact ⟨Or.inl ⟨hveto, isFriend_of_isEnemy henemy⟩, Or.inl henemy⟩
    · refine ⟨?_, Or.inr hwar⟩
      cases hfriend : v.isFriend u target with
      | true => exact Or.inr ⟨rfl, hwar⟩
      | false => exact Or.inl ⟨hspared.resolve_right (by simp [hfriend]), rfl⟩

end Confronts

/-- A creature's spell, with or without an area, hits a unit of a player that no veto protects if
the unit is an enemy or the player is at war with the creature's faction, and otherwise not. -/
theorem canAttackSpell_of_confronts (h : v.Confronts u target f q) {spell : Option Spell}
    (hdead : target.state.alive = true ∨ ∀ s, spell = some s → s.allowsDeadTarget = true)
    (hreach : ¬ u.OutOfReach target)
    (himmune : (∀ s, spell = some s → s.ignoresRestrictions = false) →
      target.isImmuneTo u = false ∧ u.isImmuneTo target = false) (isArea : Bool) :
    v.canAttackSpell u target spell isArea = true ↔
      v.isEnemy u target = true ∨ q.state.reputation.isAtWar f = true := by
  have hveto : u.attackVeto (.both (spell.any Spell.ignoresRestrictions)) target = false := by
    have hwaived : spell.any Spell.ignoresRestrictions = false →
        target.isImmuneTo u = false ∧ u.isImmuneTo target = false := by
      intro hnone
      exact himmune (by simpa [Option.any_eq_false] using hnone)
    rw [LiveUnit.attackVeto_eq_false_iff]
    exact ⟨hreach, fun hnone => (hwaived hnone).1, fun hnone => (hwaived hnone).2⟩
  rw [h.canAttackSpell_iff, hveto]
  simp [hdead]

end View

/-- A player on the best of terms with faction 21 who has gone to war with it all the same, and whom
creatures cannot attack. -/
def renegade : LivePlayer :=
  ⟨⟨0⟩, .player,
    { factionTemplate := 1, flags := .union (.only .playerControlled) (.only .immuneToNpc) },
    { reputation := (Reputation.setEarned {} 21 42000).setAtWar 21 true }⟩

/-- A player whom faction 21 has no opinion of. -/
def peddler : LivePlayer :=
  ⟨⟨2⟩, .player, { factionTemplate := 1, flags := .only .playerControlled }, {}⟩

/-- A creature of faction 21 between the two players. -/
def tollgate : View := .ofUnits frontierData [renegade.toUnit, trader, peddler.toUnit]

/-- A spell that disregards immunities. -/
def piercing : Spell := { attributes := .only .ignoreCasterAndTargetRestrictions }

/-- The player at war is hit, exalted and immune though the player is, and the one at peace is
spared. -/
theorem canAttackSpell_of_confronts_tollgate :
    tollgate.Confronts trader renegade.toUnit { id := 21, reputationIndex := some 21 } renegade ∧
      tollgate.Confronts trader peddler.toUnit { id := 21, reputationIndex := some 21 } peddler ∧
      renegade.toUnit.isImmuneTo trader = true ∧
      tollgate.reaction trader renegade.toUnit = .exalted ∧
      tollgate.canAttackSpell trader renegade.toUnit (some piercing) true = true ∧
      tollgate.reaction trader peddler.toUnit = .neutral ∧
      tollgate.canAttackSpell trader peddler.toUnit none false = false := by
  have hwar : tollgate.Confronts trader renegade.toUnit { id := 21, reputationIndex := some 21 }
      renegade := ⟨rfl, rfl, rfl, rfl⟩
  have hpeace : tollgate.Confronts trader peddler.toUnit { id := 21, reputationIndex := some 21 }
      peddler := ⟨rfl, rfl, rfl, rfl⟩
  have hhit : tollgate.canAttackSpell trader renegade.toUnit (some piercing) true = true := by
    have hveto : trader.attackVeto (.both true) renegade.toUnit = false := rfl
    refine (View.canAttackSpell_of_confronts hwar (Or.inl rfl)
      (LiveUnit.attackVeto_eq_false_iff.1 hveto).1 (fun hheeded => ?_) true).2 (Or.inr rfl)
    exact absurd (hheeded piercing rfl) (by decide)
  have hspared : tollgate.canAttackSpell trader peddler.toUnit none false = false := by
    have hveto : trader.attackVeto {} peddler.toUnit = false := rfl
    obtain ⟨hreach, htarget, hattacker⟩ := LiveUnit.attackVeto_eq_false_iff.1 hveto
    rw [← Bool.not_eq_true, View.canAttackSpell_of_confronts hpeace (Or.inl rfl) hreach
      (fun _ => ⟨htarget rfl, hattacker rfl⟩)]
    rintro (henemy | hwar)
    · exact absurd henemy (by decide)
    · exact absurd hwar (by decide)
  exact ⟨hwar, hpeace, rfl, rfl, hhit, rfl, hspared⟩

end Rapport
