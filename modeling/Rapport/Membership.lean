import Rapport.Reaction.Template

/-!
# Groups, sides and guilds

Two units belong together when the players in control of them do, so a pet is in the group of its
owner, and a charmed unit in that of its charmer unless charms are to be ignored.  A unit belongs
together with itself in every way.

Creatures that no player controls form groups of their own: two of them are in one group when the
first regards the second as a friend.
-/

namespace Rapport.View

/-- Whether two players are members of the group that both name, and of one subgroup of it if
`party` is set.  The group has to be there and to list them both. -/
def shareGroup (v : View) (p q : LivePlayer) (party : Bool) : Bool :=
  p.state.group.isSome && q.state.group == p.state.group &&
    (v.groupOf? p).any fun g =>
      g.isMember p.id && g.isMember q.id && (!party || g.sameSubgroup p.id q.id)

/-- The players in control of two units, if both units are under a player's control. -/
def controllers? (v : View) (a b : LiveUnit) (ignoreCharms : Bool) :
    Option (LivePlayer × LivePlayer) :=
  if a.isPlayerControlled && b.isPlayerControlled then
    match v.controller? a ignoreCharms, v.controller? b ignoreCharms with
    | some p, some q => some (p, q)
    | _, _ => none
  else none

/-- Whether two units are the same, or the players in control of them are the same or related. -/
def belongTogether (v : View) (related : LivePlayer → LivePlayer → Bool) (a b : LiveUnit)
    (ignoreCharms : Bool) : Bool :=
  a.id == b.id ||
    (v.controllers? a b ignoreCharms).any fun (p, q) => p.id == q.id || related p q

/-- Whether two units are in one group, or in one subgroup if `party` is set.

Two rules come before the common one.  With charms ignored, what counts as a player is asked for its
own group and not for that of its owner.  And a creature that no player controls goes by friendship
toward another unit that no player controls. -/
def isInGroup (v : View) (a b : LiveUnit) (party ignoreCharms : Bool) : Bool :=
  match a.kind, a.player?, b.player? with
  | .player, some p, some q =>
    -- a unit and itself are together by the common rule
    if ignoreCharms && a.id != b.id then v.shareGroup p q party
    else v.belongTogether (v.shareGroup · · party) a b ignoreCharms
  | .creature, _, _ =>
    if !a.isPlayerControlled && !b.isPlayerControlled then (v.uncontrolledReaction a b).isFriend
    else v.belongTogether (v.shareGroup · · party) a b ignoreCharms
  | _, _, _ => v.belongTogether (v.shareGroup · · party) a b ignoreCharms

/-- Whether two units are on one side. -/
def isInTeam (v : View) (a b : LiveUnit) (ignoreCharms : Bool) : Bool :=
  v.belongTogether (fun p q => p.state.team == q.state.team) a b ignoreCharms

/-- Whether two units are in one guild.  Players without a guild share it with nobody. -/
def isInGuild (v : View) (a b : LiveUnit) (ignoreCharms : Bool) : Bool :=
  v.belongTogether (fun p q => p.state.guild.isSome && p.state.guild == q.state.guild) a b
    ignoreCharms

end Rapport.View
