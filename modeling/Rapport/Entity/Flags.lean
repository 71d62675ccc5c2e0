import Rapport.Flag

/-!
# Flags of entities

The families of flags that units, players and creatures carry.  Each flag is one bit; the bits are
those of the simulation's own data and are fixed.
-/

namespace Rapport

/-- Runtime flags of a unit. -/
inductive UnitFlag
  | spawning
  /-- A player controls the unit: players, their pets, and what they charm. -/
  | playerControlled
  | notAttackable
  /-- No attacks between the unit and units controlled by players. -/
  | immuneToPlayer
  /-- No attacks between the unit and units not controlled by players. -/
  | immuneToNpc
  | petInCombat
  /-- The unit takes part in fights between players. -/
  | pvp
  | persuaded
  | untargetable
  | pacified
  | stunned
  | inCombat
  | taxiFlight
  | confused
  | fleeing
  /-- The unit can be neither selected nor talked to. -/
  | uninteractible
  | mounted
  deriving DecidableEq

instance : Flag UnitFlag where
  all := [.spawning, .playerControlled, .notAttackable, .immuneToPlayer, .immuneToNpc,
    .petInCombat, .pvp, .persuaded, .untargetable, .pacified, .stunned, .inCombat, .taxiFlight,
    .confused, .fleeing, .uninteractible, .mounted]
  name
    | .spawning => "SPAWNING"
    | .playerControlled => "PLAYER_CONTROLLED"
    | .notAttackable => "NOT_ATTACKABLE"
    | .immuneToPlayer => "IMMUNE_TO_PLAYER"
    | .immuneToNpc => "IMMUNE_TO_NPC"
    | .petInCombat => "PET_IN_COMBAT"
    | .pvp => "PVP"
    | .persuaded => "PERSUADED"
    | .untargetable => "UNTARGETABLE"
    | .pacified => "PACIFIED"
    | .stunned => "STUNNED"
    | .inCombat => "IN_COMBAT"
    | .taxiFlight => "TAXI_FLIGHT"
    | .confused => "CONFUSED"
    | .fleeing => "FLEEING"
    | .uninteractible => "UNINTERACTIBLE"
    | .mounted => "MOUNTED"
  bit
    | .spawning => 0x00000001
    | .playerControlled => 0x00000008
    | .notAttackable => 0x00000080
    | .immuneToPlayer => 0x00000100
    | .immuneToNpc => 0x00000200
    | .petInCombat => 0x00000800
    | .pvp => 0x00001000
    | .persuaded => 0x00004000
    | .untargetable => 0x00010000
    | .pacified => 0x00020000
    | .stunned => 0x00040000
    | .inCombat => 0x00080000
    | .taxiFlight => 0x00100000
    | .confused => 0x00400000
    | .fleeing => 0x00800000
    | .uninteractible => 0x02000000
    | .mounted => 0x08000000

instance : LawfulNamed UnitFlag := ⟨fun a => by cases a <;> rfl⟩

/-- Passing states of a unit in a fight. -/
inductive CombatFlag
  /-- The unit is running back to where it belongs. -/
  | evadingHome
  /-- The unit feigns death, and is believed. -/
  | feignDeath
  /-- An aura keeps the unit from being attacked. -/
  | unattackableAura
  /-- The unit may not enter fights at all. -/
  | combatDisabled
  deriving DecidableEq

instance : Flag CombatFlag where
  all := [.evadingHome, .feignDeath, .unattackableAura, .combatDisabled]
  name
    | .evadingHome => "EVADING_HOME"
    | .feignDeath => "FEIGN_DEATH"
    | .unattackableAura => "UNATTACKABLE_AURA"
    | .combatDisabled => "COMBAT_DISABLED"
  bit
    | .evadingHome => 0x1
    | .feignDeath => 0x2
    | .unattackableAura => 0x4
    | .combatDisabled => 0x8

instance : LawfulNamed CombatFlag := ⟨fun a => by cases a <;> rfl⟩

/-- Flags of players. -/
inductive PlayerFlag
  | gameMaster
  | ghost
  /-- The player fights everyone who is also free for all. -/
  | ffaPvp
  /-- The player has attacked someone under guard. -/
  | contestedPvp
  deriving DecidableEq

instance : Flag PlayerFlag where
  all := [.gameMaster, .ghost, .ffaPvp, .contestedPvp]
  name
    | .gameMaster => "GAME_MASTER"
    | .ghost => "GHOST"
    | .ffaPvp => "FFA_PVP"
    | .contestedPvp => "CONTESTED_PVP"
  bit
    | .gameMaster => 0x008
    | .ghost => 0x010
    | .ffaPvp => 0x080
    | .contestedPvp => 0x100

instance : LawfulNamed PlayerFlag := ⟨fun a => by cases a <;> rfl⟩

/-- What a unit has to offer to those who talk to it. -/
inductive NpcFlag
  | gossip
  | questGiver
  | vendor
  | flightMaster
  | trainer
  | spiritHealer
  | innkeeper
  | banker
  deriving DecidableEq

instance : Flag NpcFlag where
  all := [.gossip, .questGiver, .vendor, .flightMaster, .trainer, .spiritHealer, .innkeeper,
    .banker]
  name
    | .gossip => "GOSSIP"
    | .questGiver => "QUEST_GIVER"
    | .vendor => "VENDOR"
    | .flightMaster => "FLIGHT_MASTER"
    | .trainer => "TRAINER"
    | .spiritHealer => "SPIRIT_HEALER"
    | .innkeeper => "INNKEEPER"
    | .banker => "BANKER"
  bit
    | .gossip => 0x0001
    | .questGiver => 0x0002
    | .vendor => 0x0004
    | .flightMaster => 0x0008
    | .trainer => 0x0010
    | .spiritHealer => 0x0020
    | .innkeeper => 0x0080
    | .banker => 0x0100

instance : LawfulNamed NpcFlag := ⟨fun a => by cases a <;> rfl⟩

/-- What the kind of a creature allows. -/
inductive CreatureTypeFlag
  /-- Player ghosts can see and fight the creature, and it them. -/
  | visibleToGhosts
  /-- The creature can be talked to while it is dead. -/
  | interactWhileDead
  deriving DecidableEq

instance : Flag CreatureTypeFlag where
  all := [.visibleToGhosts, .interactWhileDead]
  name
    | .visibleToGhosts => "VISIBLE_TO_GHOSTS"
    | .interactWhileDead => "INTERACT_WHILE_DEAD"
  bit
    | .visibleToGhosts => 0x0002
    | .interactWhileDead => 0x0080

instance : LawfulNamed CreatureTypeFlag := ⟨fun a => by cases a <;> rfl⟩

/-- How a pet is commanded. -/
inductive PetModeFlag
  /-- The pet does nothing. -/
  | disableActions
  deriving DecidableEq

instance : Flag PetModeFlag where
  all := [.disableActions]
  name | .disableActions => "DISABLE_ACTIONS"
  bit | .disableActions => 0x08000000

instance : LawfulNamed PetModeFlag := ⟨fun a => by cases a; rfl⟩

end Rapport
