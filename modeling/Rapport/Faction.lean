import Rapport.Json.Record
import Rapport.Rank

/-!
# Factions

A faction template is the unit of hostility: it says which groups its bearer belongs to, which
groups it likes and hates, and lists up to four factions of either kind by number.  A template
belongs to a faction, and the faction says whether players can earn a standing with it.  Faction 0
and template 0 stand for none.

`FactionTemplate.reactionTo` is lexical: hostility is asked about first, and the first rule that
applies decides.
-/

namespace Rapport

/-- Number of a faction; 0 is no faction. -/
abbrev FactionId := UInt32

/-- Number of a faction template; 0 is no template. -/
abbrev TemplateId := UInt32

/-- Number of a shapeshift form. -/
abbrev FormId := UInt32

/-! ### Flags -/

/-- The broad groups of factions. -/
inductive FactionGroup
  | player
  | alliance
  | horde
  | monster
  deriving DecidableEq

instance : Flag FactionGroup where
  all := [.player, .alliance, .horde, .monster]
  name
    | .player => "PLAYER"
    | .alliance => "ALLIANCE"
    | .horde => "HORDE"
    | .monster => "MONSTER"
  bit
    | .player => 0x1
    | .alliance => 0x2
    | .horde => 0x4
    | .monster => 0x8

instance : LawfulNamed FactionGroup := ⟨fun a => by cases a <;> rfl⟩

/-- What a template does beyond its groups and lists. -/
inductive TemplateFlag
  /-- Its bearers are hostile to players who have made themselves contested. -/
  | contestedGuard
  deriving DecidableEq

instance : Flag TemplateFlag where
  all := [.contestedGuard]
  name | .contestedGuard => "CONTESTED_GUARD"
  bit | .contestedGuard => 0x1000

instance : LawfulNamed TemplateFlag := ⟨fun a => by cases a; rfl⟩

/-- What a unit in a shapeshift form can still do. -/
inductive FormFlag
  /-- Talk to creatures that have something to offer. -/
  | canNpcInteract
  deriving DecidableEq

instance : Flag FormFlag where
  all := [.canNpcInteract]
  name | .canNpcInteract => "CAN_NPC_INTERACT"
  bit | .canNpcInteract => 0x20

instance : LawfulNamed FormFlag := ⟨fun a => by cases a; rfl⟩

/-! ### Templates -/

/-- Hostility of the units that bear the template. -/
structure FactionTemplate where
  id : TemplateId := 0
  /-- The faction that the template belongs to. -/
  faction : FactionId := 0
  flags : FlagSet TemplateFlag := ∅
  factionGroup : FlagSet FactionGroup := ∅
  /-- The groups that bearers like. -/
  friendGroup : FlagSet FactionGroup := ∅
  /-- The groups that bearers hate. -/
  enemyGroup : FlagSet FactionGroup := ∅
  /-- Factions that bearers hate; the list counts only if its first place is taken. -/
  enemyFactions : Vector FactionId 4 := .replicate 4 0
  /-- Factions that bearers like; the list counts only if its first place is taken. -/
  friendFactions : Vector FactionId 4 := .replicate 4 0
  deriving DecidableEq

/-- Whether a list names a faction.  A list with an empty first place names none, and no list names
faction 0. -/
def listsFaction (list : Vector FactionId 4) (faction : FactionId) : Bool :=
  list[0] != 0 && faction != 0 && list.contains faction

namespace FactionTemplate

/-- Whether bearers of the template are hostile to contested players. -/
def isContestedGuard (t : FactionTemplate) : Bool := t.flags.has .contestedGuard

/-- Whether `a` hates the group or the faction of `b`. -/
def hates (a b : FactionTemplate) : Bool :=
  b.factionGroup.meets a.enemyGroup || listsFaction a.enemyFactions b.faction

/-- Whether `a` likes the group or the faction of `b`. -/
def likes (a b : FactionTemplate) : Bool :=
  b.factionGroup.meets a.friendGroup || listsFaction a.friendFactions b.faction

/-- How bearers of `a` regard bearers of `b`.  Hate decides first and is one-sided; liking counts
from either side. -/
def reactionTo (a b : FactionTemplate) : Rank :=
  if a.hates b then .hostile
  else if a.likes b || b.likes a then .friendly
  else .neutral

/-- How bearers of one template regard those of another; without one of them they are neutral. -/
def reactionOrNeutral (a b : Option FactionTemplate) : Rank :=
  match a, b with
  | some a, some b => a.reactionTo b
  | _, _ => .neutral

/-- A template in JSON.  What is left out has its default, which is to be empty or 0. -/
def record : Json.Record FactionTemplate where
  start := {}
  partly := true
  fields := [
    .of "id" (·.id) fun t v => { t with id := v },
    .of "faction" (·.faction) fun t v => { t with faction := v },
    .of "flags" (·.flags) fun t v => { t with flags := v },
    .of "faction_group" (·.factionGroup) fun t v => { t with factionGroup := v },
    .of "friend_group" (·.friendGroup) fun t v => { t with friendGroup := v },
    .of "enemy_group" (·.enemyGroup) fun t v => { t with enemyGroup := v },
    .of "enemy_factions" (·.enemyFactions) fun t v => { t with enemyFactions := v },
    .of "friend_factions" (·.friendFactions) fun t v => { t with friendFactions := v }]

instance : Codec FactionTemplate := record.codec

end FactionTemplate

/-! ### Factions and forms -/

/-- What players can be on good or bad terms with, by way of the bearers of its templates. -/
structure Faction where
  id : FactionId := 0
  /-- The place of the faction among those that players earn a standing with, if it is one. -/
  reputationIndex : Option UInt32 := none
  /-- The standing that every player starts with. -/
  baseStanding : Standing := 0
  deriving DecidableEq

namespace Faction

/-- Whether players can earn a standing with the faction. -/
def hasReputation (f : Faction) : Bool := f.reputationIndex.isSome

/-- A faction in JSON.  Unless it says so, players earn no standing with it. -/
def record : Json.Record Faction where
  start := {}
  partly := true
  fields := [
    .of "id" (·.id) fun f v => { f with id := v },
    .of "reputation_index" (·.reputationIndex) fun f v => { f with reputationIndex := v },
    .of "base_standing" (·.baseStanding) fun f v => { f with baseStanding := v }]

instance : Codec Faction := record.codec

end Faction

/-- A shape that a unit can take. -/
structure ShapeshiftForm where
  id : FormId := 0
  flags : FlagSet FormFlag := ∅
  deriving DecidableEq

namespace ShapeshiftForm

/-- Whether a unit in this form can talk to creatures that have something to offer. -/
def canNpcInteract (f : ShapeshiftForm) : Bool := f.flags.has .canNpcInteract

/-- A shapeshift form in JSON.  What is left out has its default. -/
def record : Json.Record ShapeshiftForm where
  start := {}
  partly := true
  fields := [
    .of "id" (·.id) fun f v => { f with id := v },
    .of "flags" (·.flags) fun f v => { f with flags := v }]

instance : Codec ShapeshiftForm := record.codec

end ShapeshiftForm

end Rapport
