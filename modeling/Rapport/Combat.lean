import Rapport.Attack

/-!
# Help, and joining a fight

Whether a unit may help another unit, or do something for a corpse.  Only friends are helped.  A
target under a player's control is helped from the same side of the same duel only, and one who is
free for all only by one who is too.  Any other target is helped by a unit under a player's control
only if it shows that it takes part in fights between players.

Whether a unit that is not in a fight yet takes part in one.  On open land a unit helps an ally that
it may assist against an enemy that it would attack on sight.  In an instance everyone who is able
to fight does.
-/

namespace Rapport

/-! ### Help -/

/-- Whether a player may help another as far as duels and free-for-all zones go: both fight the same
duel on the same side, or none, and one who is free for all is helped by such only. -/
def LivePlayer.mayHelp (p q : LivePlayer) : Bool :=
  p.state.activeDuel == q.state.activeDuel && (!q.isFreeForAll || p.isFreeForAll)

namespace View

/-- Whether a unit shows that it takes part in fights between players.  One with a master shows what
the master does, unless it is immune to players. -/
def showsPvp (v : View) (u : LiveUnit) : Bool :=
  match v.master? u with
  | some master => !u.state.flags.has .immuneToPlayer && master.isPvp
  | none => u.isPvp

/-- Whether a unit may help another.  Where the target is under a player's control and the player on
either side is missing, it is enough that the target is a friend. -/
def canAssist (v : View) (u target : LiveUnit) : Bool :=
  !target.state.flags.has .uninteractible && .friendly ≤ v.reaction u target &&
    if target.isPlayerControlled then
      match v.controller? u false, v.controller? target false with
      | some p, some q => p.mayHelp q
      | _, _ => true
    else !u.isPlayerControlled || v.showsPvp target

/-- Whether a unit may do something for a corpse. -/
def canAssistCorpse (v : View) (u : LiveUnit) (c : LiveCorpse) : Bool :=
  v.reactionToCorpse u c > .neutral

end View

/-! ### Joining a fight -/

/-- The flags of a unit that keep it from starting an attack. -/
def attackPreventingFlags : List UnitFlag := [.stunned, .fleeing, .confused, .pacified]

namespace LiveUnit

/-- Whether the unit may enter a fight at all. -/
def canEnterCombat (u : LiveUnit) : Bool :=
  u.state.alive && !u.state.status.hasAny [.evadingHome, .combatDisabled]

/-- Whether the unit is able to start an attack.  Passive creatures never are. -/
def canInitiateAttack (u : LiveUnit) : Bool :=
  !u.state.flags.hasAny attackPreventingFlags && !u.creature?.any (·.reactState = .passive)

/-- Whether the unit is a pet that has been told to do nothing. -/
def isDisabledPet (u : LiveUnit) : Bool :=
  u.creature?.any fun c => c.petMode.any (·.has .disableActions)

end LiveUnit

namespace View

/-- Whether a unit attacks another as soon as it sees it. -/
def canAttackOnSight (v : View) (u target : LiveUnit) : Bool :=
  !target.isEvadingHome && (u.ignoresFeignDeath || !target.isFeigningDeath) &&
    !target.isDisabledPet && v.canAttack u target && v.isEnemy u target

/-- Whether a unit is able to attack an enemy with whom others fight already: it may enter a fight
and start an attack, does not play dead, and may attack the enemy. -/
def canJoinInAttacking (v : View) (u enemy : LiveUnit) : Bool :=
  u.canEnterCombat && u.canInitiateAttack && !u.isFeigningDeath &&
    !u.state.status.has .unattackableAura && v.canAttack u enemy

/-- Whether a unit helps `who` against an enemy. -/
def canAssistInCombatAgainst (v : View) (u who enemy : LiveUnit) : Bool :=
  if v.world.map.instanceable then v.canJoinInAttacking u enemy
  else !u.isInCombat && v.canAssist u who && v.canAttackOnSight u enemy

end View

end Rapport
