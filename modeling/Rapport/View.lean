import Rapport.World
import Rapport.Faction.Data
import Rapport.Config

/-!
# Views

A view is all that a question is answered from: the world, the static data and the configuration.
Questions are asked of live things, which a view finds by number: `LiveUnit` for players and
creatures, `LivePlayer` for players, and one type for each other kind of entity.

A unit may have a master, its charmer or else its owner, and the player in control of a unit is that
master, or the unit itself if it has none (`View.controller?`).  Control goes one step only: a
master who is no player leaves the unit without a player in control.
-/

namespace Rapport

/-- What questions are answered from. -/
structure View where
  world : World
  data : FactionData
  config : Config

/-- A player or creature of the world. -/
structure LiveUnit where
  id : EntityId
  /-- The kind that the unit counts as. -/
  kind : Kind
  state : UnitState
  role : Role
  deriving DecidableEq

/-- A player of the world. -/
structure LivePlayer where
  id : EntityId
  /-- The kind that the player counts as. -/
  kind : Kind
  /-- The state that players share with creatures. -/
  unitState : UnitState
  state : PlayerState
  deriving DecidableEq

/-- An entity of the world that is no unit. -/
structure LiveThing where
  id : EntityId
  state : Attachment
  deriving DecidableEq

/-- A game object of the world. -/
structure LiveGameObject extends LiveThing
  deriving DecidableEq

/-- The area of a spell in the world. -/
structure LiveDynamicObject extends LiveThing
  deriving DecidableEq

/-- What is left of a player in the world. -/
structure LiveCorpse extends LiveThing
  deriving DecidableEq

/-- An entity of the world, whatever its kind. -/
inductive LiveObject
  | unit (u : LiveUnit)
  | gameObject (o : LiveGameObject)
  | dynamicObject (o : LiveDynamicObject)
  | corpse (c : LiveCorpse)
  deriving DecidableEq

/-! ### Units -/

namespace LiveUnit

/-- Whether the unit counts as a player. -/
def isPlayer (u : LiveUnit) : Bool := u.kind = .player

/-- Whether the unit counts as a creature. -/
def isCreature (u : LiveUnit) : Bool := u.kind = .creature

/-- The unit as a player, if it has the state of one. -/
def player? (u : LiveUnit) : Option LivePlayer :=
  match u.role with
  | .player p => some ⟨u.id, u.kind, u.state, p⟩
  | .creature _ => none

/-- The state of a creature, if the unit has it. -/
def creature? (u : LiveUnit) : Option CreatureState := u.role.creature?

/-- Whether a player controls the unit. -/
def isPlayerControlled (u : LiveUnit) : Bool := u.state.flags.has .playerControlled

/-- Whether the unit takes part in fights between players. -/
def isPvp (u : LiveUnit) : Bool := u.state.flags.has .pvp

/-- Whether the unit is in a fight. -/
def isInCombat (u : LiveUnit) : Bool := u.state.flags.has .inCombat

/-- Whether the unit rides. -/
def isMounted (u : LiveUnit) : Bool := u.state.flags.has .mounted

/-- Whether somebody has charmed the unit, be it somebody who is still there or not. -/
def isCharmed (u : LiveUnit) : Bool := u.state.charmer.isSome

/-- Whether the unit is a player who is a ghost. -/
def isGhost (u : LiveUnit) : Bool := u.role.player?.any (·.flags.has .ghost)

/-- Whether the unit is a player who oversees the game. -/
def isGameMaster (u : LiveUnit) : Bool := u.role.player?.any (·.flags.has .gameMaster)

/-- Whether the unit is running back to where it belongs. -/
def isEvadingHome (u : LiveUnit) : Bool := u.state.status.has .evadingHome

/-- Whether the unit feigns death and is believed. -/
def isFeigningDeath (u : LiveUnit) : Bool := u.state.status.has .feignDeath

/-- Whether the unit sees through feigned death. -/
def ignoresFeignDeath (u : LiveUnit) : Bool := u.role.creature?.any (·.ignoresFeignDeath)

/-- Whether player ghosts can see the unit. -/
def isVisibleToGhosts (u : LiveUnit) : Bool :=
  u.role.creature?.any (·.typeFlags.has .visibleToGhosts)

end LiveUnit

/-! ### Players -/

namespace LivePlayer

/-- The player as a unit like any other. -/
def toUnit (p : LivePlayer) : LiveUnit := ⟨p.id, p.kind, p.unitState, .player p.state⟩

/-- Whether the player takes part in fights between players. -/
def isPvp (p : LivePlayer) : Bool := p.toUnit.isPvp

/-- Whether the player fights everyone who is also free for all. -/
def isFreeForAll (p : LivePlayer) : Bool := p.state.flags.has .ffaPvp

/-- Whether the player has attacked someone under guard. -/
def isContested (p : LivePlayer) : Bool := p.state.flags.has .contestedPvp

/-- Whether both players duel at one place. -/
def sharesDuelArbiter (p q : LivePlayer) : Bool :=
  match p.state.activeDuel, q.state.activeDuel with
  | some d, some e => d.arbiter == e.arbiter
  | _, _ => false

/-- Whether both players are on one side of their duels; having no duel is a side of its own. -/
def sameDuelSide (p q : LivePlayer) : Bool :=
  p.state.activeDuel.map (·.team) == q.state.activeDuel.map (·.team)

/-- Whether the two players duel each other. -/
def isInDuelWith (p q : LivePlayer) : Bool :=
  p.id != q.id && p.sharesDuelArbiter q && !p.sameDuelSide q

end LivePlayer

/-! ### Entities -/

namespace Entity

/-- The entity as a unit, if it has the state of one. -/
def unit? (e : Entity) : Option LiveUnit :=
  match e.body with
  | .unit state role => some ⟨e.id, e.kind, state, role⟩
  | _ => none

/-- The entity as a thing to ask questions of. -/
def live (e : Entity) : LiveObject :=
  match e.body with
  | .unit state role => .unit ⟨e.id, e.kind, state, role⟩
  | .gameObject a => .gameObject ⟨e.id, a⟩
  | .dynamicObject a => .dynamicObject ⟨e.id, a⟩
  | .corpse a => .corpse ⟨e.id, a⟩

end Entity

namespace LiveObject

/-- The number of the entity. -/
def id : LiveObject → EntityId
  | .unit u => u.id
  | .gameObject o => o.id
  | .dynamicObject o => o.id
  | .corpse c => c.id

/-- The entity as a unit, if it is one. -/
def unit? : LiveObject → Option LiveUnit
  | .unit u => some u
  | _ => none

end LiveObject

/-! ### Looking things up -/

namespace View

/-- The entity stored under a number. -/
def object? (v : View) (id : EntityId) : Option LiveObject := (v.world.get? id).map Entity.live

/-- The unit stored under a number. -/
def unit? (v : View) (id : EntityId) : Option LiveUnit := (v.world.get? id).bind Entity.unit?

/-- The player stored under a number. -/
def player? (v : View) (id : EntityId) : Option LivePlayer := (v.unit? id).bind LiveUnit.player?

/-- The game object stored under a number. -/
def gameObject? (v : View) (id : EntityId) : Option LiveGameObject :=
  match v.object? id with
  | some (.gameObject o) => some o
  | _ => none

/-- The dynamic object stored under a number. -/
def dynamicObject? (v : View) (id : EntityId) : Option LiveDynamicObject :=
  match v.object? id with
  | some (.dynamicObject o) => some o
  | _ => none

/-- The corpse stored under a number. -/
def corpse? (v : View) (id : EntityId) : Option LiveCorpse :=
  match v.object? id with
  | some (.corpse c) => some c
  | _ => none

/-- The faction template of a number. -/
def template? (v : View) (id : TemplateId) : Option FactionTemplate := v.data.template? id

/-- The faction template that a unit bears. -/
def templateOf? (v : View) (u : LiveUnit) : Option FactionTemplate :=
  v.template? u.state.factionTemplate

/-- The unit whose orders a unit follows. -/
def master? (v : View) (u : LiveUnit) : Option LiveUnit := u.state.master.bind v.unit?

/-- The player in control of a unit.  With `ignoreCharms` it is the owner whose control counts, and
not a charmer. -/
def controller? (v : View) (u : LiveUnit) (ignoreCharms : Bool) : Option LivePlayer :=
  match if ignoreCharms then u.state.owner else u.state.master with
  | some master => v.player? master
  | none => u.player?

/-- The group that a player names, if there is one. -/
def groupOf? (v : View) (p : LivePlayer) : Option Group := p.state.group.bind v.world.group?

/-- The unit that a game object or dynamic object stands for. -/
def holder? (v : View) (t : LiveThing) : Option LiveUnit := t.state.holder.bind v.unit?

/-- The player that a corpse is left of. -/
def corpseOwner? (v : View) (c : LiveCorpse) : Option LivePlayer := c.state.holder.bind v.player?

/-- The faction template that a thing bears itself. -/
def thingTemplate? (v : View) (t : LiveThing) : Option FactionTemplate :=
  v.template? t.state.factionTemplate

end View

end Rapport
