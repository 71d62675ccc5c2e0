import Rapport.Proofs.Attack
import Rapport.Proofs.Control

/-!
# Peace within a group

Units in one group are friends and do not attack each other, duels of their players apart, as long
as their players are their own masters (`View.attack_within_group`).

The condition on the players is needed.  Membership asks once who is in control of a unit, and then
compares the groups of the two players.  A reaction asks the two players whether they are in one
group, and that asks once more who is in control of *them*.  So where a player is charmed, the
player's pets stay in the group, and yet they turn on its members (`grouped_pet_of_charmed`).
-/

namespace Rapport

namespace View

variable {v : View} {a b : LiveUnit}

/-- A unit under a player's control is friendly to the units of its group and does not attack them,
unless their two players share an arbiter or one of these is not their own master. -/
theorem attack_within_group (ha : a.isPlayerControlled = true)
    (hplayers : ∀ p q, v.controllers? a b false = some (p, q) →
      p.sharesDuelArbiter q = false ∧ (p.id = q.id ∨ (p.IsOwnMaster ∧ q.IsOwnMaster)))
    (hgroup : v.isInGroup a b false false = true) :
    v.reaction a b = .friendly ∧ v.canAttack a b = false := by
  rw [isInGroup_of_isPlayerControlled (Or.inl ha), belongTogether_iff] at hgroup
  have hfriendly : v.reaction a b = .friendly := by
    rcases hgroup with hid | ⟨p, q, hctrl, hrelated⟩
    · exact reaction_of_id_eq hid
    obtain ⟨harbiter, hplayers⟩ := hplayers p q hctrl
    by_cases hsame : p.id = q.id
    · exact reaction_of_one_controller hctrl hsame
    -- two players share the group, and being their own masters they are in it as units
    have hshared : v.shareGroup p q false = true := hrelated.resolve_left hsame
    obtain ⟨hp, hq⟩ := hplayers.resolve_left hsame
    have hunits : v.isInGroup p.toUnit q.toUnit false false = true :=
      isInGroup_of_shareGroup hp hq hshared
    exact reaction_eq_friendly_of_betweenPlayers hctrl
      (betweenPlayers?_of_isInGroup harbiter hunits)
  refine ⟨hfriendly, ?_⟩
  exact canAttackWaiving_of_isFriend (Or.inl ha) (isFriend_of_reaction_eq_friendly hfriendly)

end View

/-- A player of group 0. -/
def ranger : LivePlayer :=
  ⟨⟨0⟩, .player, { flags := .only .playerControlled }, { group := some ⟨0⟩ }⟩

/-- Another player of the group, who takes part in fights between players. -/
def squire : LivePlayer :=
  ⟨⟨1⟩, .player, { flags := .union (.only .playerControlled) (.only .pvp) }, { group := some ⟨0⟩ }⟩

/-- A creature that charms. -/
def siren : LiveUnit := ⟨⟨2⟩, .creature, {}, .creature {}⟩

/-- A pet of the first player. -/
def falcon : LiveUnit :=
  ⟨⟨3⟩, .creature, { flags := .only .playerControlled, owner := some ranger.id }, .creature {}⟩

/-- The first player under the spell of the creature. -/
def charmedRanger : LivePlayer :=
  { ranger with unitState := { ranger.unitState with charmer := some siren.id } }

/-- The group of the two players, the first of them as given, with the creature and the pet. -/
def expedition (first : LivePlayer) : View :=
  let v := View.ofUnits {} [first.toUnit, squire.toUnit, siren, falcon]
  let group : Group := { members := .ofList [(first.id, 0), (squire.id, 0)] }
  { v with world := { v.world with groups := .ofList [(⟨0⟩, group)] } }

theorem attack_within_group_expedition :
    (expedition ranger).controllers? falcon squire.toUnit false = some (ranger, squire) ∧
      (expedition ranger).isInGroup falcon squire.toUnit false false = true ∧
      (expedition ranger).reaction falcon squire.toUnit = .friendly ∧
      (expedition ranger).canAttack falcon squire.toUnit = false := by
  have hctrl : (expedition ranger).controllers? falcon squire.toUnit false =
      some (ranger, squire) := rfl
  have hgroup : (expedition ranger).isInGroup falcon squire.toUnit false false = true := rfl
  have hpeace := View.attack_within_group (v := expedition ranger) (a := falcon)
    (b := squire.toUnit) rfl
    (by
      intro p q hpair
      cases hctrl.symm.trans hpair
      exact ⟨rfl, Or.inr ⟨⟨rfl, rfl, rfl⟩, ⟨rfl, rfl, rfl⟩⟩⟩)
    hgroup
  exact ⟨hctrl, hgroup, hpeace⟩

/-- The pet of a charmed player is in one group with the other player, whom it may attack all the
same. -/
theorem grouped_pet_of_charmed :
    (expedition charmedRanger).unit? falcon.id = some falcon ∧
      (expedition charmedRanger).unit? squire.id = some squire.toUnit ∧
      (expedition charmedRanger).controllers? falcon squire.toUnit false =
        some (charmedRanger, squire) ∧
      charmedRanger.sharesDuelArbiter squire = false ∧
      (expedition charmedRanger).isInGroup falcon squire.toUnit false false = true ∧
      (expedition charmedRanger).reaction falcon squire.toUnit = .neutral ∧
      (expedition charmedRanger).canAttack falcon squire.toUnit = true :=
  ⟨rfl, rfl, rfl, rfl, rfl, rfl, rfl⟩

end Rapport
