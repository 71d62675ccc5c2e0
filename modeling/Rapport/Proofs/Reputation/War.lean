import Rapport.Proofs.Attack.Veto
import Rapport.Proofs.Reputation.Peace

/-!
# Declaring war

A player who declares war on a faction makes nobody safer (`View.declareWar_antitone`).

For the plain rules that is so because reactions only get worse.  A fight and spells are different:
they attack friends of the player's units who are at war, and whoever stops being a friend drops out
of that exception.  Units that no player controls do not go by the wars of others, so their friends
stay friends, and of what they may attack in a fight or with spells nothing is lost either.
-/

namespace Rapport

namespace Reputation

variable {r : Reputation} {faction : FactionId}

theorem contains_atWar_setAtWar (f : FactionId) :
    (r.setAtWar faction true).atWar.contains f = (decide (faction = f) || r.atWar.contains f) := by
  have hget : (r.setAtWar faction true).atWar.get? f =
      if faction = f then some () else r.atWar.get? f := Keyed.get?_insert _ _ _ _
  rw [Keyed.contains, hget]
  by_cases h : faction = f
  · rw [if_pos h, decide_eq_true h]
    rfl
  · rw [if_neg h, decide_eq_false h]
    rfl

/-- A war that is declared is the one thing that gets worse. -/
theorem setAtWar_noBetter (r : Reputation) (faction : FactionId) :
    (r.setAtWar faction true).NoBetter r where
  toNoHigher := ⟨rfl, fun _ => Int32.le_refl _⟩
  war f h := by
    rw [isAtWar, contains_atWar_setAtWar, Bool.or_eq_true]
    exact Or.inr h

theorem noHigher_setAtWar (r : Reputation) (faction : FactionId) :
    r.NoHigher (r.setAtWar faction true) := ⟨rfl, fun _ => Int32.le_refl _⟩

end Reputation

namespace View

variable {v v' : View} {a a' b b' : LiveUnit}

/-- Units that no player controls regard others by ranks alone, not by wars. -/
theorem reaction_le_of_noHigher (hv : UpToReputation Reputation.NoHigher v v')
    (ha : a.UpToReputation Reputation.NoHigher a') (hb : b.UpToReputation Reputation.NoHigher b')
    (hwild : a.isPlayerControlled = false) : v.reaction a b ≤ v'.reaction a' b' := by
  rw [reaction_of_not_isPlayerControlled v b hwild,
    reaction_of_not_isPlayerControlled v' b' (ha.isPlayerControlled_eq.trans hwild),
    uncontrolledReaction, uncontrolledReaction, ha.id_eq, hb.id_eq]
  split
  · exact Rank.le_refl _
  · exact reactionByTemplate_mono hv id ha hb

/-! ### Friends at war -/

section

variable (hv : UpToReputation Reputation.NoBetter v v')
  (ha : a.UpToReputation Reputation.NoBetter a') (hb : b.UpToReputation Reputation.NoBetter b')

include hv ha hb

theorem isAtWarWith?_rel :
    Option.Rel (fun war war' : Bool => war' = true → war = true) (v.isAtWarWith? a b)
      (v'.isAtWarWith? a' b') := by
  unfold isAtWarWith?
  rw [templateOf?_congr hv.toSameSetting ha.resembles, hv.data]
  rcases (hv.controller? hb).none_or_some with ⟨hq, hq'⟩ | ⟨q, q', hq, hq', hqq⟩
  · rw [hq, hq']
    exact .none
  · rw [hq, hq']
    have hr : q.state.reputation.NoBetter q'.state.reputation := hqq.reputation
    cases (v.templateOf? a).bind v.data.reputationFactionOf? with
    | none => exact .none
    | some f => exact .some (hr.war f)

variable (hfriend : v'.isFriend a' b' = true → v.isFriend a b = true)

include hfriend

/-- Whoever is a friend still is attacked for the same wars. -/
theorem canAttackInCombat_of_noBetter {w : Waiver} (h : v'.canAttackInCombat w a' b' = true) :
    v.canAttackInCombat w a b = true := by
  have hwar : (v'.isAtWarWith? a' b' == some true) = true →
      (v.isAtWarWith? a b == some true) = true := by
    rw [beq_iff_eq, beq_iff_eq]
    intro hwar'
    rcases (isAtWarWith?_rel hv ha hb).none_or_some with ⟨-, hnone⟩ | ⟨war, war', hw, hw', hww⟩
    · rw [hnone] at hwar'
      contradiction
    · rw [hw', Option.some.injEq] at hwar'
      rw [hw, hww hwar']
  unfold canAttackInCombat at h ⊢
  rw [hb.isPlayerControlled_eq, Bool.or_eq_true] at h
  rw [Bool.or_eq_true]
  refine h.imp ?_ (and_mono (and_mono id hfriend) hwar)
  exact canAttackWaiving_of_noBetter hv ha hb

theorem canAttackSpell_of_noBetter {spell : Option Spell} {isArea : Bool}
    (hwild : a.isPlayerControlled = false) (h : v'.canAttackSpell a' b' spell isArea = true) :
    v.canAttackSpell a b spell isArea = true := by
  have hwar : (v'.isAtWarWith? a' b').getD true = true → (v.isAtWarWith? a b).getD true = true := by
    rcases (isAtWarWith?_rel hv ha hb).none_or_some with ⟨hw, -⟩ | ⟨war, war', hw, hw', hww⟩
    · rw [hw]
      exact fun _ => rfl
    · rw [hw, hw']
      exact hww
  have hspared : v'.spellMayHitPlayerControlled a' b' isArea = true →
      v.spellMayHitPlayerControlled a b isArea = true := by
    unfold spellMayHitPlayerControlled
    rw [ha.isPlayerControlled_eq, hwild, if_neg Bool.false_ne_true, if_neg Bool.false_ne_true,
      Bool.or_eq_true, Bool.or_eq_true]
    exact Or.imp (isEnemy_of_noBetter hv ha hb) hwar
  have hreach : (b'.state.alive || spell.all Spell.allowsDeadTarget) = true →
      (b.state.alive || spell.all Spell.allowsDeadTarget) = true := by
    rw [hb.state_eq]
    exact id
  refine and_mono (and_mono hreach (canAttackInCombat_of_noBetter hv ha hb hfriend)) ?_ h
  rw [hb.isPlayerControlled_eq, Bool.or_eq_true, Bool.or_eq_true]
  exact Or.imp id hspared

end

/-! ### A war declared -/

/-- The view in which a player has declared war on a faction. -/
def declareWar (v : View) (id : EntityId) (faction : FactionId) : View :=
  v.withReputation id (·.setAtWar faction true)

theorem upToReputation_declareWar {id : EntityId} {faction : FactionId} :
    UpToReputation Reputation.NoBetter (v.declareWar id faction) v := by
  have hviews : UpToReputation Reputation.NoBetter (v.declareWar id faction)
      (v.withReputation id fun r => r) :=
    upToReputation_withReputation Reputation.noBetter_refl
      fun r => Reputation.setAtWar_noBetter r faction
  rwa [withReputation_self] at hviews

theorem upToReputation_of_declareWar {id : EntityId} {faction : FactionId} :
    UpToReputation Reputation.NoHigher v (v.declareWar id faction) := by
  have hviews : UpToReputation Reputation.NoHigher (v.withReputation id fun r => r)
      (v.declareWar id faction) :=
    upToReputation_withReputation (fun r => (Reputation.noBetter_refl r).toNoHigher)
      fun r => Reputation.noHigher_setAtWar r faction
  rwa [withReputation_self] at hviews

/-- Declaring war makes nobody safer: no unit treats another better than before the war, and what a
unit that no player controls could attack in a fight or hit with a spell, it still can. -/
theorem declareWar_antitone {warring : View} {id : EntityId} {faction : FactionId}
    (hwarring : warring = v.declareWar id faction) :
    (∀ k, (warring.unit? k).isSome = (v.unit? k).isSome) ∧
    ∀ {a a' b b'}, warring.Counterparts v a' a → warring.Counterparts v b' b →
      warring.TreatsNoBetter v a' b' a b ∧
      (a.isPlayerControlled = false →
        (∀ w, v.canAttackInCombat w a b = true → warring.canAttackInCombat w a' b' = true) ∧
        ∀ spell isArea, v.canAttackSpell a b spell isArea = true →
          warring.canAttackSpell a' b' spell isArea = true) := by
  have hworse : UpToReputation Reputation.NoBetter warring v := by
    rw [hwarring]
    exact upToReputation_declareWar
  have hranks : UpToReputation Reputation.NoHigher v warring := by
    rw [hwarring]
    exact upToReputation_of_declareWar
  refine ⟨fun k => ?_, ?_⟩
  · rw [hwarring]
    exact isSome_unit?_withReputation
  · intro a a' b b' ha hb
    have haa : a'.UpToReputation Reputation.NoBetter a := ha.rel hworse.units
    have hbb : b'.UpToReputation Reputation.NoBetter b := hb.rel hworse.units
    refine ⟨treatsNoBetter_of_noBetter hworse haa hbb, fun hwild => ?_⟩
    have hwild' : a'.isPlayerControlled = false := haa.isPlayerControlled_eq.symm.trans hwild
    have hfriend : v.isFriend a b = true → warring.isFriend a' b' = true :=
      Rank.isFriend_of_le (reaction_le_of_noHigher hranks (ha.swap.rel hranks.units)
        (hb.swap.rel hranks.units) hwild)
    exact ⟨fun _ => canAttackInCombat_of_noBetter hworse haa hbb hfriend,
      fun _ _ => canAttackSpell_of_noBetter hworse haa hbb hfriend hwild'⟩

end View

/-- A player whom faction 21 hates, and who is at war with the faction or not. -/
def outlaw (war : Bool) : LivePlayer :=
  ⟨⟨0⟩, .player, { factionTemplate := 1, flags := .only .playerControlled },
    { reputation := (Reputation.setEarned {} 21 (-9000)).setAtWar 21 war }⟩

/-- The player and a creature of the faction, before the player declares war. -/
def borderland : View := .ofUnits frontierData [(outlaw false).toUnit, trader]

/-- The player turns on the creature, and the creature fights the player as it did before. -/
theorem declareWar_antitone_borderland :
    (borderland.declareWar ⟨0⟩ 21).Counterparts borderland (outlaw true).toUnit
        (outlaw false).toUnit ∧
      (borderland.declareWar ⟨0⟩ 21).Counterparts borderland trader trader ∧
      borderland.reaction (outlaw false).toUnit trader = .friendly ∧
      (borderland.declareWar ⟨0⟩ 21).reaction (outlaw true).toUnit trader = .hostile ∧
      (borderland.declareWar ⟨0⟩ 21).TreatsNoBetter borderland (outlaw true).toUnit trader
        (outlaw false).toUnit trader ∧
      borderland.canAttackSpell trader (outlaw false).toUnit none true = true ∧
      (borderland.declareWar ⟨0⟩ 21).canAttackSpell trader (outlaw true).toUnit none true =
        true := by
  have houtlaw : (borderland.declareWar ⟨0⟩ 21).Counterparts borderland (outlaw true).toUnit
      (outlaw false).toUnit := ⟨⟨0⟩, rfl, rfl⟩
  have htrader : (borderland.declareWar ⟨0⟩ 21).Counterparts borderland trader trader :=
    ⟨⟨1⟩, rfl, rfl⟩
  obtain ⟨-, htreats⟩ := View.declareWar_antitone (Eq.refl (borderland.declareWar ⟨0⟩ 21))
  have hhit : borderland.canAttackSpell trader (outlaw false).toUnit none true = true := rfl
  obtain ⟨-, hspell⟩ := (htreats htrader houtlaw).2 rfl
  exact ⟨houtlaw, htrader, rfl, rfl, (htreats houtlaw htrader).1, hhit, hspell none true hhit⟩

end Rapport
