import Rapport.Combat
import Rapport.Triviality
import Rapport.Visibility
import Rapport.Proofs.Attack.Players
import Rapport.Proofs.Attack.Veto
import Rapport.Proofs.World.Registry
import Rapport.Proofs.Attack.Group
import Rapport.Proofs.Attack.Area
import Rapport.Proofs.Attack.Creatures
import Rapport.Proofs.Attack.Peace
import Rapport.Proofs.Duel.Law
import Rapport.Proofs.Pet
import Rapport.Proofs.Charm
import Rapport.Proofs.Membership.Partition
import Rapport.Proofs.Reputation
import Rapport.Proofs.Reputation.Peace
import Rapport.Proofs.Reputation.Earned
import Rapport.Proofs.Reputation.War
import Rapport.Proofs.Locality
import Rapport.Proofs.Subject
import Rapport.Proofs.Json.Document
import Rapport.Proofs.Text.Parts
import Rapport.Proofs.Flag.Text
import Rapport.Proofs.Json.Codec
import Rapport.Proofs.Saved
import Rapport.Proofs.World.Identity
import Rapport.Proofs.Faction.Data
import Rapport.Proofs.Faction.Factionless
import Rapport.Proofs.Attack.Joining
import Rapport.Proofs.Membership.Creatures
import Rapport.Proofs.World.Commuting
import Rapport.Proofs.Reaction.Symmetry
import Rapport.Proofs.Matching
import Rapport.Proofs.Persuasion
import Rapport.Proofs.Attack.Spell
import Rapport.Proofs.World.Joining
import Rapport.Proofs.Faction.Template
import Rapport.Proofs.Flag.Respelling
import Rapport.Proofs.Defaults
import Rapport.Proofs.Reaction.Inquiry
import Rapport.Proofs.Triviality
