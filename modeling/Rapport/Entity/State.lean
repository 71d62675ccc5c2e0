import Rapport.Entity.Flags
import Rapport.Reputation

/-!
# State of units

Players and creatures are units and share a `UnitState`; each has a state of its own beside it.
What one unit holds of another is only its number: the other may be gone, and then the number leads
nowhere.
-/

namespace Rapport

/-- Number of an entity. -/
structure EntityId where
  val : UInt64
  deriving DecidableEq

/-- Number of a group of players. -/
structure GroupId where
  val : UInt32
  deriving DecidableEq

instance : Numbered EntityId where
  toNat x := x.val.toNat
  ofNat? n := (Numbered.ofNat? n).map EntityId.mk
  ofNat?_eq_some_iff {n x} := by
    cases x
    simp [Option.map_eq_some_iff, Numbered.ofNat?_eq_some_iff, Numbered.toNat]

instance : Numbered GroupId where
  toNat x := x.val.toNat
  ofNat? n := (Numbered.ofNat? n).map GroupId.mk
  ofNat?_eq_some_iff {n x} := by
    cases x
    simp [Option.map_eq_some_iff, Numbered.ofNat?_eq_some_iff, Numbered.toNat]

/-- The sides that players are on. -/
inductive Team
  | alliance
  | horde
  deriving DecidableEq

instance : Named Team where
  all := [.alliance, .horde]
  name
    | .alliance => "Alliance"
    | .horde => "Horde"

instance : LawfulNamed Team := ⟨fun a => by cases a <;> rfl⟩

instance : Codec Team := .ofNamed Team

/-- What makes a creature fight. -/
inductive ReactState
  | passive
  | defensive
  | aggressive
  deriving DecidableEq

instance : Named ReactState where
  all := [.passive, .defensive, .aggressive]
  name
    | .passive => "Passive"
    | .defensive => "Defensive"
    | .aggressive => "Aggressive"

instance : LawfulNamed ReactState := ⟨fun a => by cases a <;> rfl⟩

instance : Codec ReactState := .ofNamed ReactState

/-! ### Units -/

/-- State that players and creatures share. -/
structure UnitState where
  /-- The faction template that the unit bears. -/
  factionTemplate : TemplateId := 0
  flags : FlagSet UnitFlag := ∅
  /-- What the unit has to offer to those who talk to it. -/
  npcFlags : FlagSet NpcFlag := ∅
  status : FlagSet CombatFlag := ∅
  alive : Bool := true
  level : UInt32 := 1
  shapeshiftForm : Option FormId := none
  /-- The unit that owns this one for good. -/
  owner : Option EntityId := none
  /-- The unit that has charmed this one, and for that time takes the owner's place. -/
  charmer : Option EntityId := none
  summoner : Option EntityId := none
  /-- The unit that this one persuades. -/
  persuaded : Option EntityId := none
  /-- The unit that this one fights. -/
  victim : Option EntityId := none
  deriving DecidableEq

namespace UnitState

/-- The unit whose orders count: the charmer, else the owner. -/
def master (u : UnitState) : Option EntityId := u.charmer.or u.owner

/-- The state of a unit in JSON.  What is left out has its default. -/
def record : Json.Record UnitState where
  start := {}
  partly := true
  fields := [
    .of "faction_template" (·.factionTemplate) fun u v => { u with factionTemplate := v },
    .of "flags" (·.flags) fun u v => { u with flags := v },
    .of "npc_flags" (·.npcFlags) fun u v => { u with npcFlags := v },
    .of "status" (·.status) fun u v => { u with status := v },
    .of "alive" (·.alive) fun u v => { u with alive := v },
    .of "level" (·.level) fun u v => { u with level := v },
    .of "shapeshift_form" (·.shapeshiftForm) fun u v => { u with shapeshiftForm := v },
    .of "owner" (·.owner) fun u v => { u with owner := v },
    .of "charmer" (·.charmer) fun u v => { u with charmer := v },
    .of "summoner" (·.summoner) fun u v => { u with summoner := v },
    .of "persuaded" (·.persuaded) fun u v => { u with persuaded := v },
    .of "victim" (·.victim) fun u v => { u with victim := v }]

instance : Codec UnitState := record.codec

end UnitState

/-! ### Players -/

/-- A duel as one of its players sees it. -/
structure Duel where
  /-- The object that both players duel at. -/
  arbiter : EntityId
  /-- The side on which the player fights; side 0 is no duel. -/
  team : UInt32
  deriving DecidableEq

/-- A duel in JSON, with both of its fields. -/
def Duel.record : Json.Record Duel where
  start := ⟨⟨0⟩, 0⟩
  partly := false
  fields := [
    .of "arbiter" (·.arbiter) fun d v => { d with arbiter := v },
    .of "team" (·.team) fun d v => { d with team := v }]

instance : Codec Duel := Duel.record.codec

/-- State that only players have. -/
structure PlayerState where
  flags : FlagSet PlayerFlag := ∅
  group : Option GroupId := none
  guild : Option UInt32 := none
  team : Team := .alliance
  duel : Option Duel := none
  reputation : Reputation := {}
  deriving DecidableEq

namespace PlayerState

/-- The duel that the player fights, if the player has a side in it. -/
def activeDuel (p : PlayerState) : Option Duel := p.duel.filter fun d => d.team != 0

/-- The state of a player in JSON.  What is left out has its default. -/
def record : Json.Record PlayerState where
  start := {}
  partly := true
  fields := [
    .of "flags" (·.flags) fun p v => { p with flags := v },
    .of "group" (·.group) fun p v => { p with group := v },
    .of "guild" (·.guild) fun p v => { p with guild := v },
    .of "team" (·.team) fun p v => { p with team := v },
    .of "duel" (·.duel) fun p v => { p with duel := v },
    .of "reputation" (·.reputation) fun p v => { p with reputation := v }]

instance : Codec PlayerState := record.codec

end PlayerState

/-! ### Creatures -/

/-- State that only creatures have. -/
structure CreatureState where
  typeFlags : FlagSet CreatureTypeFlag := ∅
  /-- Whether it is a disgrace to kill the creature. -/
  civilian : Bool := false
  /-- How the creature is commanded, if it is a pet. -/
  petMode : Option (FlagSet PetModeFlag) := none
  reactState : ReactState := .aggressive
  ignoresFeignDeath : Bool := false
  deriving DecidableEq

namespace CreatureState

/-- Whether the creature is commanded as a pet. -/
def isPet (c : CreatureState) : Bool := c.petMode.isSome

/-- The state of a creature in JSON.  What is left out has its default. -/
def record : Json.Record CreatureState where
  start := {}
  partly := true
  fields := [
    .of "type_flags" (·.typeFlags) fun c v => { c with typeFlags := v },
    .of "civilian" (·.civilian) fun c v => { c with civilian := v },
    .of "pet_mode" (·.petMode) fun c v => { c with petMode := v },
    .of "react_state" (·.reactState) fun c v => { c with reactState := v },
    .of "ignores_feign_death" (·.ignoresFeignDeath) fun c v => { c with ignoresFeignDeath := v }]

instance : Codec CreatureState := record.codec

end CreatureState

end Rapport
