import Rapport.Entity.State

/-!
# Entities

An entity has a number, a kind and a body.  The kind of a spawned entity is that of its body, but
the two are stored apart, and a stored world may hold entities where they differ: then the kind
says which rules ask for a player or a creature, and the body says what state there is.

Units stand for themselves.  Game objects and dynamic objects stand for the unit that owns or casts
them, and corpses for the player they are left of.
-/

namespace Rapport

/-- The kinds of entities. -/
inductive Kind
  | player
  /-- Any unit that is no player. -/
  | creature
  | gameObject
  /-- The area of a spell. -/
  | dynamicObject
  /-- What is left of a player. -/
  | corpse
  deriving DecidableEq

namespace Kind

instance : Named Kind where
  all := [.player, .creature, .gameObject, .dynamicObject, .corpse]
  name
    | .player => "Player"
    | .creature => "Creature"
    | .gameObject => "GameObject"
    | .dynamicObject => "DynamicObject"
    | .corpse => "Corpse"

instance : LawfulNamed Kind := ⟨fun a => by cases a <;> rfl⟩

instance : Codec Kind := .ofNamed Kind

/-- Whether entities of the kind are units. -/
def isUnit : Kind → Bool
  | .player | .creature => true
  | _ => false

end Kind

/-- What tells players and creatures apart: the state that each has beside that of a unit. -/
inductive Role
  | player (state : PlayerState)
  | creature (state : CreatureState)
  deriving DecidableEq

/-- State of an entity that is no unit. -/
structure Attachment where
  /-- The entity that this one stands for. -/
  holder : Option EntityId := none
  /-- The faction template that the entity bears itself. -/
  factionTemplate : TemplateId := 0
  deriving DecidableEq

/-- What an entity consists of. -/
inductive Body
  | unit (state : UnitState) (role : Role)
  | gameObject (state : Attachment)
  | dynamicObject (state : Attachment)
  | corpse (state : Attachment)
  deriving DecidableEq

namespace Role

/-- The kind that goes with the state. -/
def kind : Role → Kind
  | .player _ => .player
  | .creature _ => .creature

/-- The state of a player, if it is one. -/
def player? : Role → Option PlayerState
  | .player p => some p
  | .creature _ => none

/-- The state of a creature, if it is one. -/
def creature? : Role → Option CreatureState
  | .player _ => none
  | .creature c => some c

end Role

namespace Body

/-- The kind that a body makes an entity when it is spawned. -/
def kind : Body → Kind
  | .unit _ role => role.kind
  | .gameObject _ => .gameObject
  | .dynamicObject _ => .dynamicObject
  | .corpse _ => .corpse

/-- A living player under a faction template, who as such is controlled by a player. -/
def newPlayer (template : TemplateId) (team : Team) : Body :=
  .unit { factionTemplate := template, flags := .only .playerControlled } (.player { team })

/-- A living creature under a faction template, with everything else at its default. -/
def newCreature (template : TemplateId) : Body :=
  .unit { factionTemplate := template } (.creature {})

/-- The state that players and creatures share. -/
def unit? : Body → Option UnitState
  | .unit u _ => some u
  | _ => none

/-- The state of a player in the body, if there is one. -/
def player? : Body → Option PlayerState
  | .unit _ role => role.player?
  | _ => none

/-- The state of a creature in the body, if there is one. -/
def creature? : Body → Option CreatureState
  | .unit _ role => role.creature?
  | _ => none

/-- Changes the state that players and creatures share, if there is one. -/
def mapUnit (f : UnitState → UnitState) : Body → Body
  | .unit u role => .unit (f u) role
  | body => body

/-- Changes the state of a player, if there is one. -/
def mapPlayer (f : PlayerState → PlayerState) : Body → Body
  | .unit u (.player p) => .unit u (.player (f p))
  | body => body

/-- Changes the state of a creature, if there is one. -/
def mapCreature (f : CreatureState → CreatureState) : Body → Body
  | .unit u (.creature c) => .unit u (.creature (f c))
  | body => body

end Body

/-- Something with a place in the world. -/
structure Entity where
  id : EntityId
  /-- The kind that the entity counts as. -/
  kind : Kind
  body : Body
  deriving DecidableEq

namespace Entity

/-- An entity that counts as what its body makes it. -/
def ofBody (id : EntityId) (body : Body) : Entity := ⟨id, body.kind, body⟩

/-- Changes the body and leaves the kind as it is. -/
def mapBody (f : Body → Body) (e : Entity) : Entity := { e with body := f e.body }

end Entity

/-! ### JSON forms -/

/-- The two states of a player. -/
def playerPair : Json.Record (UnitState × PlayerState) where
  start := ({}, {})
  partly := false
  fields := [
    .of "unit" (·.1) fun x v => (v, x.2),
    .of "player" (·.2) fun x v => (x.1, v)]

/-- The two states of a creature. -/
def creaturePair : Json.Record (UnitState × CreatureState) where
  start := ({}, {})
  partly := false
  fields := [
    .of "unit" (·.1) fun x v => (v, x.2),
    .of "creature" (·.2) fun x v => (x.1, v)]

/-- The state of an entity that is no unit, with its own word for the entity it stands for. -/
def Attachment.record (holderName : String) : Json.Record Attachment where
  start := {}
  partly := false
  fields := [
    .optional holderName (·.holder) fun x v => { x with holder := v },
    .of "faction_template" (·.factionTemplate) fun x v => { x with factionTemplate := v }]

namespace Body

/-- The state in a body, without its kind. -/
def encodeState : Body → Json
  | .unit u (.player p) => playerPair.write (u, p)
  | .unit u (.creature c) => creaturePair.write (u, c)
  | .gameObject a => (Attachment.record "owner").write a
  | .dynamicObject a => (Attachment.record "caster").write a
  | .corpse a => (Attachment.record "owner").write a

/-- Reads the state for a body of a given kind. -/
def decodeState? (j : Json) : Kind → Option Body
  | .player => (playerPair.read? j).map fun (u, p) => .unit u (.player p)
  | .creature => (creaturePair.read? j).map fun (u, c) => .unit u (.creature c)
  | .gameObject => ((Attachment.record "owner").read? j).map .gameObject
  | .dynamicObject => ((Attachment.record "caster").read? j).map .dynamicObject
  | .corpse => ((Attachment.record "owner").read? j).map .corpse

/-- A body is an object with its state as the one member, under the name of its kind. -/
instance : Codec Body where
  encode body := .ofMembers [(Named.name body.kind, body.encodeState)]
  decode?
    | .object [(name, state)] => (name.text?.bind Named.ofName?).bind (decodeState? state)
    | _ => none

end Body

/-- An entity in JSON, with its kind and its body one beside the other. -/
def Entity.record : Json.Record Entity where
  start := .ofBody ⟨0⟩ (.newCreature 0)
  partly := false
  fields := [
    .of "id" (·.id) fun e v => { e with id := v },
    .of "tag" (·.kind) fun e v => { e with kind := v },
    .of "inner" (·.body) fun e v => { e with body := v }]

instance : Codec Entity := Entity.record.codec

end Rapport
