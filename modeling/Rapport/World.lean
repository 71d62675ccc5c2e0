import Rapport.Entity

/-!
# The world

A world holds the entities of one map and the groups of its players.  A new entity, or a new group,
gets the number that is next.

Membership in a group is written down twice: the player names the group, and the group lists the
player with a subgroup.  `addToGroup`, `removeFromGroup` and `despawn` keep the two in step.  They
also work on worlds where the two disagree, as a stored world may: they then go by the group that
the player names.
-/

namespace Rapport

/-- A group of players, each in a subgroup. -/
structure Group where
  members : Keyed EntityId UInt8 := ∅
  deriving DecidableEq

namespace Group

/-- Whether the group lists an entity. -/
def isMember (g : Group) (id : EntityId) : Bool := g.members.contains id

/-- The subgroup that the group lists an entity with. -/
def subgroup? (g : Group) (id : EntityId) : Option UInt8 := g.members.get? id

/-- Whether the group lists two entities, and both with one subgroup. -/
def sameSubgroup (g : Group) (a b : EntityId) : Bool :=
  match g.subgroup? a, g.subgroup? b with
  | some m, some n => m == n
  | _, _ => false

/-- Puts an entity on the list with a subgroup, in place of the subgroup it had before. -/
def add (g : Group) (id : EntityId) (subgroup : UInt8) : Group :=
  { g with members := g.members.insert id subgroup }

/-- Strikes an entity off the list. -/
def remove (g : Group) (id : EntityId) : Group := { g with members := g.members.erase id }

/-- A group in JSON. -/
def record : Json.Record Group where
  start := {}
  partly := false
  fields := [.of "members" (·.members) fun g v => { g with members := v }]

instance : Codec Group := record.codec

end Group

/-- What there is to know about a map. -/
structure MapInfo where
  /-- Whether the map is an instance of its own rather than open land. -/
  instanceable : Bool := false
  deriving DecidableEq

/-- A map in JSON. -/
def MapInfo.record : Json.Record MapInfo where
  start := {}
  partly := false
  fields := [.of "instanceable" (·.instanceable) fun m v => { m with instanceable := v }]

instance : Codec MapInfo := MapInfo.record.codec

/-- The entities and groups of a map. -/
structure World where
  entities : Keyed EntityId Entity := ∅
  groups : Keyed GroupId Group := ∅
  nextEntityId : UInt64 := 0
  nextGroupId : UInt32 := 0
  map : MapInfo := {}
  deriving DecidableEq

namespace World

/-- A world in JSON, counters included, so that a stored world goes on numbering where it was. -/
def record : Json.Record World where
  start := {}
  partly := false
  fields := [
    .of "entities" (·.entities) fun w v => { w with entities := v },
    .of "groups" (·.groups) fun w v => { w with groups := v },
    .of "next_entity_id" (·.nextEntityId) fun w v => { w with nextEntityId := v },
    .of "next_group_id" (·.nextGroupId) fun w v => { w with nextGroupId := v },
    .of "map" (·.map) fun w v => { w with map := v }]

instance : Codec World := record.codec

/-! ### Entities -/

/-- The entity stored under a number. -/
def get? (w : World) (id : EntityId) : Option Entity := w.entities.get? id

/-- The state of the player stored under a number. -/
def playerState? (w : World) (id : EntityId) : Option PlayerState :=
  (w.get? id).bind (·.body.player?)

/-- The group stored under a number. -/
def group? (w : World) (id : GroupId) : Option Group := w.groups.get? id

/-- Changes the body of an entity. -/
def modifyBody (w : World) (id : EntityId) (f : Body → Body) : World :=
  { w with entities := w.entities.modify id (Entity.mapBody f) }

/-- Changes the state of a unit. -/
def modifyUnit (w : World) (id : EntityId) (f : UnitState → UnitState) : World :=
  w.modifyBody id (Body.mapUnit f)

/-- Changes the state of a player. -/
def modifyPlayer (w : World) (id : EntityId) (f : PlayerState → PlayerState) : World :=
  w.modifyBody id (Body.mapPlayer f)

/-- Puts a new entity into the world. -/
def spawn (w : World) (body : Body) : EntityId × World :=
  let id : EntityId := ⟨w.nextEntityId⟩
  (id, { w with
    entities := w.entities.insert id (.ofBody id body)
    nextEntityId := w.nextEntityId + 1 })

/-! ### Groups -/

/-- Strikes an entity off the list of a group. -/
def dropMember (w : World) (group : GroupId) (id : EntityId) : World :=
  { w with groups := w.groups.modify group (·.remove id) }

/-- Strikes a player off the list of the group that the player names, if any. -/
def dropFromNamed (w : World) (named : Option GroupId) (id : EntityId) : World :=
  match named with
  | some group => w.dropMember group id
  | none => w

/-- Takes an entity out of the world, and a player off the list of the named group. -/
def despawn (w : World) (id : EntityId) : Option Entity × World :=
  match w.get? id with
  | none => (none, w)
  | some e =>
    (some e, { w with entities := w.entities.erase id }.dropFromNamed
      (e.body.player?.bind (·.group)) id)

/-- Founds a group without members. -/
def createGroup (w : World) : GroupId × World :=
  let id : GroupId := ⟨w.nextGroupId⟩
  (id, { w with groups := w.groups.insert id {}, nextGroupId := w.nextGroupId + 1 })

/-- Puts a player into a subgroup of a group, and out of another group that the player names.
Nothing happens if there is no such group or player. -/
def addToGroup (w : World) (group : GroupId) (id : EntityId) (subgroup : UInt8) : Bool × World :=
  match w.group? group, w.playerState? id with
  | some _, some p =>
    -- whoever is in the group already keeps the place in it and only changes the subgroup
    let left := w.dropFromNamed (p.group.filter (· ≠ group)) id
    let named := left.modifyPlayer id fun p => { p with group := some group }
    (true, { named with groups := named.groups.modify group (·.add id subgroup) })
  | _, _ => (false, w)

/-- Takes a player out of the group that the player names. -/
def removeFromGroup (w : World) (id : EntityId) : World :=
  match w.playerState? id with
  | none => w
  | some p => (w.dropFromNamed p.group id).modifyPlayer id fun p => { p with group := none }

end World

end Rapport
