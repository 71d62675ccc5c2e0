import Rapport.Reaction

/-!
# Attacks

Whether a unit may attack another one.  Vetoes come first, and nothing later takes a veto back:

* creatures do not attack the ghosts of players, unless they can see them;
* some flags of the target forbid any attack on it;
* immunity forbids attacks between a unit and the kind of unit that it is immune to, in both
  directions.

What passes is decided by how the two regard each other: between two units under players' control
there also has to be a reason to fight, one such unit and another that it does not regard as a
friend may fight, and two other units fight when either regards the other as an enemy.

A `Waiver` lifts immunities; it lifts nothing else.
-/

namespace Rapport

/-- Which immunities do not count. -/
structure Waiver where
  /-- Whether the attacker's immunity to units like the target does not count. -/
  attacker : Bool := false
  /-- Whether the target's immunity to units like the attacker does not count. -/
  target : Bool := false
  deriving DecidableEq

/-- The waiver of both immunities, or of none. -/
def Waiver.both (waived : Bool) : Waiver := ⟨waived, waived⟩

/-- The flags of a target that forbid any attack on it. -/
def unattackableFlags : List UnitFlag :=
  [.spawning, .notAttackable, .untargetable, .taxiFlight, .uninteractible]

namespace LiveUnit

/-- The flag of a unit that is immune to units like this one. -/
def immunityFlag (u : LiveUnit) : UnitFlag :=
  if u.isPlayerControlled then .immuneToPlayer else .immuneToNpc

/-- Whether the unit is immune to units like the other one. -/
def isImmuneTo (u other : LiveUnit) : Bool := u.state.flags.has other.immunityFlag

/-- Whether a target is out of a unit's reach as a ghost. -/
def ghostVeto (u target : LiveUnit) : Bool :=
  u.isCreature && target.isGhost && !u.isVisibleToGhosts

/-- Whether an attack is forbidden whatever the two units think of each other. -/
def attackVeto (w : Waiver) (u target : LiveUnit) : Bool :=
  u.ghostVeto target || target.state.flags.hasAny unattackableFlags ||
    (!w.target && target.isImmuneTo u) || (!w.attacker && u.isImmuneTo target)

end LiveUnit

/-- Whether a player has a reason to fight another: a common duel, a target who takes part in fights
between players, or both free for all. -/
def LivePlayer.hasReasonToFight (p q : LivePlayer) : Bool :=
  p.sharesDuelArbiter q || q.isPvp || (p.isFreeForAll && q.isFreeForAll)

namespace View

/-- Whether a unit may attack another when both are under players' control.  Friends do not fight,
and where a player in control is missing, no reason is asked for. -/
def canAttackPlayerControlled (v : View) (u target : LiveUnit) : Bool :=
  !v.isFriend u target &&
    match v.controller? u false, v.controller? target false with
    | some p, some q => p.hasReasonToFight q
    | _, _ => true

/-- Whether a unit may attack another, with some immunities waived. -/
def canAttackWaiving (v : View) (w : Waiver) (u target : LiveUnit) : Bool :=
  !LiveUnit.attackVeto w u target &&
    match u.isPlayerControlled, target.isPlayerControlled with
    | true, true => v.canAttackPlayerControlled u target
    | false, false => v.isEnemy u target || v.isEnemy target u
    | _, _ => !v.isFriend u target

/-- Whether a unit may attack another, with no immunity waived. -/
def canAttack (v : View) (u target : LiveUnit) : Bool := v.canAttackWaiving {} u target

/-- Whether a unit may attack another at this moment: both have to be alive, and the attacker on
foot. -/
def canAttackNow (v : View) (u target : LiveUnit) : Bool :=
  u.state.alive && !u.isMounted && target.state.alive && v.canAttack u target

end View

end Rapport
