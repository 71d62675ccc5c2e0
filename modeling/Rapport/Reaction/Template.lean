import Rapport.View

/-!
# How a template regards a unit

Where no player's own view of a faction decides, a unit regards another one as its faction template
does.  Toward a unit under a player's control that is mostly a matter of the player's reputation:
with contested guards, with forced ranks and with factions that keep a standing.  Otherwise the two
templates decide between themselves.

A unit that has been persuaded is regarded one rank friendlier, as long as that has nothing to do
with hostility (`View.afterPersuasion`).

`View.uncontrolledReaction` is the whole reaction of a unit that no player controls.  It asks
nothing about groups, which is what lets groups be defined from it.
-/

namespace Rapport.View

/-- What the reputation of the player in control of a unit makes of a template, if anything. -/
def reputationReaction? (v : View) (t : FactionTemplate) (target : LiveUnit) : Option Rank :=
  if target.isPlayerControlled then
    (v.controller? target false).bind fun player =>
      if player.isContested && t.isContestedGuard then some .hostile
      else (player.state.reputation.forcedRank? t).or
        ((v.data.reputationFactionOf? t).map player.state.reputation.rank)
  else none

/-- How a template regards a unit; without a template on both sides the answer is neutral. -/
def templateReactionToUnit (v : View) (t : Option FactionTemplate) (target : LiveUnit) : Rank :=
  match t, v.templateOf? target with
  | some t, some targetTemplate =>
    (v.reputationReaction? t target).getD (t.reactionTo targetTemplate)
  | _, _ => .neutral

/-- Whether a unit is persuaded in the eyes of another, and has a faction for which that counts. -/
def isPersuaded (v : View) (u target : LiveUnit) : Bool :=
  (target.state.flags.has .persuaded || u.state.persuaded == some target.id) &&
    ((v.templateOf? target).bind v.data.reputationFactionOf?).isSome

/-- A rank strictly between hostile and honored is raised by one for a persuaded unit. -/
def afterPersuasion (v : View) (u target : LiveUnit) (rank : Rank) : Rank :=
  if .hostile < rank ∧ rank < .honored ∧ v.isPersuaded u target then rank.friendlier else rank

/-- How a unit regards another through its template. -/
def reactionByTemplate (v : View) (u target : LiveUnit) : Rank :=
  v.afterPersuasion u target (v.templateReactionToUnit (v.templateOf? u) target)

/-- How a unit that no player controls regards another unit.  Every unit is friendly to itself. -/
def uncontrolledReaction (v : View) (u target : LiveUnit) : Rank :=
  if u.id = target.id then .friendly else v.reactionByTemplate u target

end Rapport.View
