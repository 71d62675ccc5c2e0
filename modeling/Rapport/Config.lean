import Rapport.LoadError
import Rapport.Json.Record

/-!
# Configuration

Three selectors say what units see of each other, and one switch lets grouped players of opposing
sides treat each other's corpses as friendly.  Selectors are kept as the numbers they were given as,
so that a configuration is written as it was read; a number without a meaning selects the default
policy.
-/

namespace Rapport

/-- Who sees through stealth. -/
inductive StealthPolicy
  | group
  | cooperate
  deriving DecidableEq

/-- Who sees exact health. -/
inductive HealthPolicy
  /-- Units of the same group, whoever charms them. -/
  | group
  | team
  | everyone
  deriving DecidableEq

/-- Who sees exact attributes. -/
inductive StatsPolicy
  /-- The unit itself and the one that summoned it. -/
  | selfOrSummoner
  | team
  | everyone
  deriving DecidableEq

/-- The selectors of what units see of each other. -/
structure FogOfWar where
  stealth : UInt32 := 0
  health : UInt32 := 0
  stats : UInt32 := 0
  deriving DecidableEq

namespace FogOfWar

/-- The policy that the selector of stealth stands for; by default, that of groups. -/
def stealthPolicy (f : FogOfWar) : StealthPolicy :=
  if f.stealth = 1 then .cooperate else .group

/-- The policy that the selector of health stands for; by default, that of groups. -/
def healthPolicy (f : FogOfWar) : HealthPolicy :=
  if f.health = 1 then .team else if f.health = 2 then .everyone else .group

/-- The policy that the selector of attributes stands for; by default, the narrowest. -/
def statsPolicy (f : FogOfWar) : StatsPolicy :=
  if f.stats = 1 then .team else if f.stats = 2 then .everyone else .selfOrSummoner

/-- The three selectors in JSON.  One that is left out selects the default. -/
def record : Json.Record FogOfWar where
  start := {}
  partly := true
  fields := [
    .of "stealth" (·.stealth) fun f v => { f with stealth := v },
    .of "health" (·.health) fun f v => { f with health := v },
    .of "stats" (·.stats) fun f v => { f with stats := v }]

instance : Codec FogOfWar := record.codec

end FogOfWar

/-- What can be configured about how entities see and treat each other. -/
structure Config where
  fogOfWar : FogOfWar := {}
  /-- Whether grouped players of opposing sides treat each other's corpses as friendly. -/
  allowTwoSideInteractionGroup : Bool := false
  deriving DecidableEq

namespace Config

/-- A configuration in JSON.  What is left out has its default. -/
def record : Json.Record Config where
  start := {}
  partly := true
  fields := [
    .of "fog_of_war" (·.fogOfWar) fun c v => { c with fogOfWar := v },
    .of "allow_two_side_interaction_group" (·.allowTwoSideInteractionGroup) fun c v =>
      { c with allowTwoSideInteractionGroup := v }]

instance : Codec Config := record.codec

/-- Reads a configuration from the text of a JSON document. -/
def ofJson (text : String) : Except LoadError Config := load text

end Config

end Rapport
