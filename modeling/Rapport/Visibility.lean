import Rapport.Subject

/-!
# Visibility and interaction

What one unit sees of another: whether it sees through stealth, and whether it sees exact health and
attributes.  Players who oversee the game see everything; for the others the configuration selects
the policy.

What it has to do with another short of a fight: whether the two can cooperate, whether a unit can
use a game object, and whether it can talk to a unit that has something to offer.
-/

namespace Rapport

/-- Whether a unit may be talked to as far as being alive goes.  The dead are talked to by creatures
only, and only if their kind allows it. -/
def LiveUnit.isAliveEnoughFor (target u : LiveUnit) : Bool :=
  target.state.alive ||
    (u.creature?.isSome && target.creature?.any (·.typeFlags.has .interactWhileDead))

namespace View

/-- Whether two units can cooperate: two units of the same groups, neither of them charmed, the
first of which may not attack the second. -/
def canCooperate (v : View) (u other : LiveUnit) : Bool :=
  u.id != other.id && !u.isCharmed && !other.isCharmed &&
    match v.templateOf? u, v.templateOf? other with
    | some s, some t => s.factionGroup = t.factionGroup && !v.canAttack u other
    | _, _ => false

/-! ### Visibility -/

/-- Whether `viewer` sees through the stealth of a unit. -/
def isStealthVisible (v : View) (u viewer : LiveUnit) : Bool :=
  viewer.isGameMaster ||
    match v.config.fogOfWar.stealthPolicy with
    | .group => v.isInGroup u viewer false false
    | .cooperate => v.canCooperate u viewer

/-- Whether `viewer` sees the exact health of a unit. -/
def isHealthVisible (v : View) (u viewer : LiveUnit) : Bool :=
  viewer.isGameMaster ||
    match v.config.fogOfWar.healthPolicy with
    | .group => v.isInGroup u viewer false true
    | .team => v.isInTeam u viewer false
    | .everyone => true

/-- Whether `viewer` sees the exact attributes of a unit. -/
def areStatsVisible (v : View) (u viewer : LiveUnit) : Bool :=
  viewer.isGameMaster ||
    match v.config.fogOfWar.statsPolicy with
    | .selfOrSummoner => u.id == viewer.id || u.state.summoner == some viewer.id
    | .team => v.isInTeam u viewer false
    | .everyone => true

/-! ### Interaction -/

/-- Whether a unit can use a game object.  Ghosts cannot, and the object has to be better disposed
than unfriendly. -/
def canInteractObject (v : View) (u : LiveUnit) (o : LiveGameObject) : Bool :=
  !u.isGhost && v.gameObjectReaction o u > .unfriendly

/-- Whether a unit can talk to another at all.  The other has to offer something, ghosts talk only
to those who can see them, and the two have to be better disposed to each other than unfriendly. -/
def canInteract (v : View) (u target : LiveUnit) : Bool :=
  !target.state.flags.has .uninteractible && !target.state.npcFlags.isEmpty &&
    (!u.isGhost || target.isVisibleToGhosts) &&
    v.reaction u target > .unfriendly && v.reaction target u > .unfriendly

/-- Whether the shape of a unit keeps it from talking to others.  An unknown shape does not. -/
def isFormMute (v : View) (u : LiveUnit) : Bool :=
  (u.state.shapeshiftForm.bind v.data.form?).any fun form => !form.canNpcInteract

/-- Whether a unit can talk to another at this moment. -/
def canInteractNow (v : View) (u target : LiveUnit) : Bool :=
  !u.state.flags.has .taxiFlight && !u.isCharmed && (u.state.alive || u.isGhost) &&
    !v.isFormMute u && target.isAliveEnoughFor u && !target.isCharmed &&
    !target.state.flags.has .petInCombat && target.state.victim.isNone && v.canInteract u target

end View

end Rapport
