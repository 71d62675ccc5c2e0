import Rapport.Proofs.Attack

/-!
# Targets out of reach

Some flags of a target forbid any attack on it, and player ghosts are out of the reach of creatures
that cannot see them.  No plain rule of attack takes such a veto back, whatever immunities are
waived.  The one rule beyond them does: in a fight and with spells a unit may still turn on a friend
under the control of a player who is at war with the unit's faction.
-/

namespace Rapport

/-- A target that a unit cannot get at: it carries a flag that forbids attacks, or it is the ghost
of a player and the unit is a creature that does not see ghosts. -/
def LiveUnit.OutOfReach (u target : LiveUnit) : Prop :=
  (∃ f ∈ unattackableFlags, target.state.flags.has f = true) ∨
    (u.isCreature = true ∧ u.isVisibleToGhosts = false ∧ target.isGhost = true)

namespace LiveUnit

variable {u target : LiveUnit}

/-- The two vetoes together that no waiver lifts. -/
theorem outOfReach_iff :
    u.OutOfReach target ↔
      target.state.flags.hasAny unattackableFlags = true ∨ u.ghostVeto target = true := by
  simp only [OutOfReach, FlagSet.hasAny, List.any_eq_true, ghostVeto, Bool.and_eq_true,
    Bool.not_eq_true', and_assoc, and_comm (a := target.isGhost = true)]

/-- Nothing vetoes an attack but a target out of reach and the immunities that are not waived. -/
theorem attackVeto_eq_false_iff {w : Waiver} :
    u.attackVeto w target = false ↔
      ¬ u.OutOfReach target ∧ (w.target = false → target.isImmuneTo u = false) ∧
        (w.attacker = false → u.isImmuneTo target = false) := by
  have hreach : ¬ u.OutOfReach target ↔
      u.ghostVeto target = false ∧ target.state.flags.hasAny unattackableFlags = false := by
    rw [outOfReach_iff, not_or, Bool.not_eq_true, Bool.not_eq_true, and_comm]
  have himmune (waived immune : Bool) :
      (!waived && immune) = false ↔ (waived = false → immune = false) := by
    cases waived <;> simp
  rw [LiveUnit.attackVeto, Bool.or_eq_false_iff, Bool.or_eq_false_iff, Bool.or_eq_false_iff,
    himmune, himmune, hreach, and_assoc]

/-- No waiver lifts the veto on a target out of reach. -/
theorem OutOfReach.attackVeto (h : u.OutOfReach target) (w : Waiver) :
    u.attackVeto w target = true := by
  cases hveto : u.attackVeto w target with
  | true => rfl
  | false => exact absurd h (attackVeto_eq_false_iff.1 hveto).1

end LiveUnit

namespace View

variable {v : View} {u target : LiveUnit}

theorem canAttackWaiving_of_attackVeto {w : Waiver} (hveto : u.attackVeto w target = true) :
    v.canAttackWaiving w u target = false := by
  rw [canAttackWaiving, hveto]
  rfl

/-- A target out of reach is safe from every plain attack.  In a fight and with spells exactly the
friends at war are not. -/
theorem attack_on_outOfReach (h : u.OutOfReach target) :
    (∀ query, v.allows query u target = false) ∧
      (∀ w, v.canAttackInCombat w u target = true ↔ v.FriendAtWar u target) ∧
      ∀ {subject : LiveObject}, v.StandsFor subject u → ∀ spell isArea,
        v.subjectCanAttackSpell subject target spell isArea = true ↔
          (target.state.alive = true ∨ ∀ s, spell = some s → s.allowsDeadTarget = true) ∧
            v.FriendAtWar u target ∧
            (isArea = true → ∀ p q, v.controllers? u target false = some (p, q) →
              p.areaMayHit q = true) := by
  have hrefused : ∀ w, v.canAttackWaiving w u target = false :=
    fun w => canAttackWaiving_of_attackVeto (h.attackVeto w)
  refine ⟨allows_eq_false_of_refused hrefused, ?_, ?_⟩
  · intro w
    exact canAttackInCombat_iff_of_refused (hrefused w)
  · intro subject hsubject spell isArea
    rw [hsubject.canAttackSpell_eq]
    exact canAttackSpell_iff_of_refused hrefused

end View

/-- A player who cannot be attacked, is on friendly terms with faction 21, and is at war with it. -/
def envoy : LivePlayer :=
  ⟨⟨0⟩, .player,
    { factionTemplate := 1, flags := .union (.only .playerControlled) (.only .notAttackable) },
    { reputation := (Reputation.setEarned {} 21 3000).setAtWar 21 true }⟩

/-- A creature of faction 21. -/
def trader : LiveUnit := ⟨⟨1⟩, .creature, { factionTemplate := 120 }, .creature {}⟩

/-- The player and the creature meet. -/
def market : View := .ofUnits frontierData [envoy.toUnit, trader]

/-- The veto on a target that cannot be attacked is not final: a fight and spells allow what is
otherwise forbidden, if the target is a friend at war. -/
theorem unattackable_hit_as_friend_at_war :
    market.unit? envoy.id = some envoy.toUnit ∧ market.unit? trader.id = some trader ∧
      envoy.toUnit.state.flags.has .notAttackable = true ∧
      market.canAttackInCombat {} trader envoy.toUnit = true ∧
      market.canAttackSpell trader envoy.toUnit none false = true :=
  ⟨rfl, rfl, rfl, rfl, rfl⟩

theorem attack_on_outOfReach_market :
    trader.OutOfReach envoy.toUnit ∧
      (∀ query, market.allows query trader envoy.toUnit = false) ∧
      (market.canAttackInCombat {} trader envoy.toUnit = true ↔
        market.FriendAtWar trader envoy.toUnit) := by
  have hreach : trader.OutOfReach envoy.toUnit := Or.inl ⟨.notAttackable, by decide, rfl⟩
  have hsafe := View.attack_on_outOfReach (v := market) hreach
  exact ⟨hreach, hsafe.1, hsafe.2.1 {}⟩

end Rapport
