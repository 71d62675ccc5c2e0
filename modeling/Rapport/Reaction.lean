import Rapport.Membership

/-!
# Reactions

How a unit regards another unit, or a corpse.  The first of these that applies decides:

1. every unit is friendly to itself;
2. between two units under players' control, the two players decide: one player in control of both
   is friendly, a common duel is hostile across its sides, a common group is friendly, and two who
   are free for all are hostile; without one of the players the answer is neutral;
3. the player in control of a unit has a stance toward the target's faction: a forced rank,
   hostility to guards that the player is contested with, and otherwise war or peace;
4. the unit's template regards the target (`View.reactionByTemplate`).

For a unit that no player controls only the first and the last apply
(`View.reaction_of_not_isPlayerControlled`).
-/

namespace Rapport

/-- The generic template of a side, which stands for the side where corpses are concerned. -/
def Team.genericTemplate : Team → TemplateId
  | .alliance => 1054
  | .horde => 1495

namespace View

/-- How the players in control of two units regard each other, if that is decided by nothing but
the two of them. -/
def betweenPlayers? (v : View) (p q : LivePlayer) : Option Rank :=
  if p.id = q.id then some .friendly
  else if p.sharesDuelArbiter q then
    -- a duel settles the matter on either side, so groups do not count here
    some (if p.sameDuelSide q then .friendly else .hostile)
  else if v.isInGroup p.toUnit q.toUnit false false then some .friendly
  else if p.isFreeForAll && q.isFreeForAll then some .hostile
  else none

/-- How a player regards the bearers of a template, if the player has a stance toward their
faction. -/
def playerStance? (v : View) (p : LivePlayer) (t : FactionTemplate) : Option Rank :=
  -- a forced rank stands even where players cannot earn a standing with the faction
  (p.state.reputation.forcedRank? t).or <|
    (v.data.reputationFactionOf? t).map fun faction =>
      if p.isContested && t.isContestedGuard then .hostile
      else if p.state.reputation.isAtWar faction then .hostile
      else .friendly

/-- What decides between two units under players' control, before factions come into it. -/
def controlledReaction? (v : View) (a b : LiveUnit) : Option Rank :=
  match v.controller? a false, v.controller? b false with
  | some p, some q => v.betweenPlayers? p q
  -- without one of the players the matter is decided too
  | _, _ => some .neutral

/-- How the player in control of a unit regards another unit, if that player has a stance toward its
faction. -/
def controllerStance? (v : View) (a b : LiveUnit) : Option Rank :=
  match v.controller? a false, v.templateOf? b with
  | some p, some t => v.playerStance? p t
  | _, _ => none

/-- How a unit regards another, by the first rule that applies. -/
def reaction (v : View) (a b : LiveUnit) : Rank :=
  if a.id = b.id then .friendly
  else if a.isPlayerControlled then
    ((if b.isPlayerControlled then v.controlledReaction? a b else none).or
      (v.controllerStance? a b)).getD (v.reactionByTemplate a b)
  else v.reactionByTemplate a b

/-- A unit that no player controls regards others through its template alone. -/
theorem reaction_of_not_isPlayerControlled (v : View) {a : LiveUnit} (b : LiveUnit)
    (h : a.isPlayerControlled = false) : v.reaction a b = v.uncontrolledReaction a b := by
  simp [reaction, uncontrolledReaction, h]

/-- Whether a unit regards another as an enemy. -/
def isEnemy (v : View) (a b : LiveUnit) : Bool := (v.reaction a b).isEnemy

/-- Whether a unit regards another as a friend. -/
def isFriend (v : View) (a b : LiveUnit) : Bool := (v.reaction a b).isFriend

/-- Whether a unit is a player of the other side than the player a corpse is left of, in one group
with that player. -/
def isGroupedAcrossSides (v : View) (u : LiveUnit) (c : LiveCorpse) : Bool :=
  match u.player?, v.corpseOwner? c with
  | some p, some owner =>
    p.id != owner.id && p.state.team != owner.state.team &&
      v.isInGroup u owner.toUnit false false
  | _, _ => false

/-- How a unit regards a corpse: as its template regards that of the corpse.  If the configuration
lets sides mix in groups, a player regards the corpse of a group member of the other side like
something of the player's own side. -/
def reactionToCorpse (v : View) (u : LiveUnit) (c : LiveCorpse) : Rank :=
  let seenAs :=
    match u.player? with
    | some p =>
      if v.config.allowTwoSideInteractionGroup && v.isGroupedAcrossSides u c then
        v.template? p.state.team.genericTemplate
      else v.thingTemplate? c.toLiveThing
    | none => v.thingTemplate? c.toLiveThing
  FactionTemplate.reactionOrNeutral (v.templateOf? u) seenAs

end View

end Rapport
