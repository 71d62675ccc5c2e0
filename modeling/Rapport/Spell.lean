import Rapport.Combat

/-!
# Spells

Whether a unit may hit another with a spell.  A harmful spell follows the rules of an attack with
some changes:

* the dead are hit only by spells that allow it;
* a spell may waive the immunities of both sides;
* a friend under a player's control may be hit after all, if that player is at war with the caster's
  faction;
* a spell with an area does not draw players into fights that they take no part in;
* units that no player controls spare players whom they do not regard as enemies, unless the player
  is at war with their faction.

A helpful spell follows the rules of assistance.
-/

namespace Rapport

/-- What a spell disregards. -/
inductive SpellFlag
  /-- It may hit the dead. -/
  | allowDeadTarget
  /-- It disregards the immunities of caster and target. -/
  | ignoreCasterAndTargetRestrictions
  deriving DecidableEq

instance : Flag SpellFlag where
  all := [.allowDeadTarget, .ignoreCasterAndTargetRestrictions]
  name
    | .allowDeadTarget => "ALLOW_DEAD_TARGET"
    | .ignoreCasterAndTargetRestrictions => "IGNORE_CASTER_AND_TARGET_RESTRICTIONS"
  bit
    | .allowDeadTarget => 0x1
    | .ignoreCasterAndTargetRestrictions => 0x2

instance : LawfulNamed SpellFlag := ⟨fun a => by cases a <;> rfl⟩

/-- What matters here about a spell. -/
structure Spell where
  id : UInt32 := 0
  attributes : FlagSet SpellFlag := ∅
  deriving DecidableEq

namespace Spell

/-- Whether the spell may hit the dead. -/
def allowsDeadTarget (s : Spell) : Bool := s.attributes.has .allowDeadTarget

/-- Whether the spell waives the immunities of both sides. -/
def ignoresRestrictions (s : Spell) : Bool :=
  s.attributes.has .ignoreCasterAndTargetRestrictions

/-- A spell in JSON.  Without attributes it disregards nothing. -/
def record : Json.Record Spell where
  start := {}
  partly := true
  fields := [
    .of "id" (·.id) fun s v => { s with id := v },
    .of "attributes" (·.attributes) fun s v => { s with attributes := v }]

instance : Codec Spell := record.codec

end Spell

/-- Whether a spell with an area may hit one player's unit on behalf of another player. -/
def LivePlayer.areaMayHit (p q : LivePlayer) : Bool :=
  p.isInDuelWith q || p.isPvp == q.isPvp || (p.isFreeForAll && q.isFreeForAll)

namespace View

/-- Whether the player in control of a target is at war with a unit's faction.  There is no answer
without such a player, or without a faction that keeps a standing. -/
def isAtWarWith? (v : View) (u target : LiveUnit) : Option Bool :=
  match v.controller? target false, (v.templateOf? u).bind v.data.reputationFactionOf? with
  | some q, some faction => some (q.state.reputation.isAtWar faction)
  | _, _ => none

/-- Whether a unit may attack another in the course of a fight.  A friend under the control of a
player who is at war with the attacker's faction may then be attacked too. -/
def canAttackInCombat (v : View) (w : Waiver) (u target : LiveUnit) : Bool :=
  v.canAttackWaiving w u target ||
    (target.isPlayerControlled && v.isFriend u target && v.isAtWarWith? u target == some true)

/-- Whether a unit in a fight may hit a target that a player controls with a spell. -/
def spellMayHitPlayerControlled (v : View) (u target : LiveUnit) (isArea : Bool) : Bool :=
  if u.isPlayerControlled then
    match v.controller? u false, v.controller? target false with
    | some p, some q => !isArea || p.areaMayHit q
    | _, _ => true
  else v.isEnemy u target || (v.isAtWarWith? u target).getD true

/-- Whether a unit may hit another with a harmful spell, or harm it without any particular spell. -/
def canAttackSpell (v : View) (u target : LiveUnit) (spell : Option Spell) (isArea : Bool) :
    Bool :=
  -- without a particular spell nothing protects the dead
  (target.state.alive || spell.all Spell.allowsDeadTarget) &&
    v.canAttackInCombat (.both (spell.any Spell.ignoresRestrictions)) u target &&
    (!target.isPlayerControlled || v.spellMayHitPlayerControlled u target isArea)

/-- Whether a unit may hit another with a helpful spell, whatever the spell. -/
def canAssistSpell (v : View) (u target : LiveUnit) (_spell : Option Spell) : Bool :=
  v.canAssist u target

end View

end Rapport
