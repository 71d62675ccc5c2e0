import Rapport.Faction

/-!
# Reputation

What a player has with the factions: the standing earned on top of what everyone starts with, ranks
that are forced whatever the standing, and the factions that the player is at war with.
-/

namespace Rapport

/-- A player's relations with the factions. -/
structure Reputation where
  /-- The standing earned with a faction. -/
  earned : Keyed FactionId Standing := ∅
  /-- The rank forced for a faction. -/
  forcedRanks : Keyed FactionId Rank := ∅
  atWar : KeySet FactionId := ∅
  deriving DecidableEq

namespace Reputation

/-- Replaces the standing earned with a faction. -/
def setEarned (r : Reputation) (faction : FactionId) (earned : Standing) : Reputation :=
  { r with earned := r.earned.insert faction earned }

/-- Forces a rank for a faction, or no longer forces one. -/
def setForcedRank (r : Reputation) (faction : FactionId) : Option Rank → Reputation
  | some rank => { r with forcedRanks := r.forcedRanks.insert faction rank }
  | none => { r with forcedRanks := r.forcedRanks.erase faction }

/-- Declares war on a faction, or ends it. -/
def setAtWar (r : Reputation) (faction : FactionId) (war : Bool) : Reputation :=
  { r with atWar := if war then r.atWar.insert faction () else r.atWar.erase faction }

/-- The rank forced for the faction of a template. -/
def forcedRank? (r : Reputation) (t : FactionTemplate) : Option Rank :=
  r.forcedRanks.get? t.faction

/-- The standing with a faction: what everyone starts with and what has been earned. -/
def standing (r : Reputation) (f : Faction) : Standing :=
  f.baseStanding.add ((r.earned.get? f.id).getD 0)

/-- The rank that the standing with a faction gives. -/
def rank (r : Reputation) (f : Faction) : Rank := .ofStanding (r.standing f)

/-- Whether the player is at war with a faction. -/
def isAtWar (r : Reputation) (f : Faction) : Bool := r.atWar.contains f.id

/-- A reputation in JSON.  What is left out is empty. -/
def record : Json.Record Reputation where
  start := {}
  partly := true
  fields := [
    .of "earned" (·.earned) fun r v => { r with earned := v },
    .of "forced_ranks" (·.forcedRanks) fun r v => { r with forcedRanks := v },
    .of "at_war" (·.atWar) fun r v => { r with atWar := v }]

instance : Codec Reputation := record.codec

end Reputation

end Rapport
