import Rapport.Proofs.Attack

/-!
# Attacks between units of players

Two results about units under players' control, whether they are players, pets or charmed.

Units under one player do not attack each other by any plain rule.  A fight and spells do allow it,
but only if the player is at war with the attacker's own faction, as with a creature that the player
has charmed away from enemies.

Units of different players attack each other only if there is consent to it: the players duel each
other, or the attacked player takes part in fights between players, or both are free for all.  And
short of a duel they are not in one group.
-/

namespace Rapport

/-- An area spares no unit of the player who lays it. -/
theorem LivePlayer.areaMayHit_self (p : LivePlayer) : p.areaMayHit p = true := by
  simp [areaMayHit]

namespace View

variable {v : View} {a b : LiveUnit} {p q : LivePlayer}

/-- Between units of players an attack is allowed only on those who are no friends, and only for a
reason to fight. -/
theorem canAttackWaiving_of_controllers {w : Waiver}
    (hctrl : v.controllers? a b false = some (p, q)) (h : v.canAttackWaiving w a b = true) :
    v.isFriend a b = false ∧ p.hasReasonToFight q = true := by
  simp only [canAttackWaiving_eq_of_controllers hctrl, Bool.and_eq_true, Bool.not_eq_true'] at h
  exact h.2

/-! ### One player -/

theorem canAttackWaiving_of_one_player (hctrl : v.controllers? a b false = some (p, q))
    (hsame : p.id = q.id) (w : Waiver) : v.canAttackWaiving w a b = false := by
  obtain ⟨⟨ha, -⟩, -, -⟩ := controllers?_eq_some_iff.1 hctrl
  exact canAttackWaiving_of_isFriend (Or.inl ha) (isFriend_of_one_controller hctrl hsame)

/-- Under one player the only friends at war are those whose own faction the player is at war
with. -/
theorem friendAtWar_iff_of_one_player (hctrl : v.controllers? a b false = some (p, q))
    (hsame : p.id = q.id) : v.FriendAtWar a b ↔ v.IsAtWarWithFactionOf q a := by
  obtain ⟨⟨-, hb⟩, -, hq⟩ := controllers?_eq_some_iff.1 hctrl
  constructor
  · rintro ⟨-, -, q', hq', hwar⟩
    rw [hq, Option.some.injEq] at hq'
    rwa [hq']
  · intro hwar
    exact ⟨hb, isFriend_of_one_controller hctrl hsame, q, hq, hwar⟩

/-- Units under one player are safe from each other, except that in a fight and with spells a unit
turns on the others if the player is at war with its faction. -/
theorem attack_under_one_player (hctrl : v.controllers? a b false = some (p, q))
    (hsame : p.id = q.id) :
    (∀ query, v.allows query a b = false) ∧
      (∀ w, v.canAttackInCombat w a b = true ↔ v.IsAtWarWithFactionOf q a) ∧
      ∀ {subject : LiveObject}, v.StandsFor subject a → ∀ spell isArea,
        v.subjectCanAttackSpell subject b spell isArea = true ↔
          (b.state.alive = true ∨ ∀ s, spell = some s → s.allowsDeadTarget = true) ∧
            v.IsAtWarWithFactionOf q a ∧
            (isArea = true → p = q ∨ p.areaMayHit q = true) := by
  have hrefused := canAttackWaiving_of_one_player hctrl hsame
  have hwar := friendAtWar_iff_of_one_player hctrl hsame
  refine ⟨allows_eq_false_of_refused hrefused, ?_, ?_⟩
  · intro w
    rw [canAttackInCombat_iff_of_refused (hrefused w), hwar]
  · intro subject hsubject spell isArea
    -- the players in control are known, so the condition is about this one pair
    have harea : (∀ p' q', v.controllers? a b false = some (p', q') → p'.areaMayHit q' = true) ↔
        p = q ∨ p.areaMayHit q = true := by
      rw [hctrl]
      constructor
      · intro hmay
        exact Or.inr (hmay p q rfl)
      · rintro hmay p' q' hpair
        cases hpair
        rcases hmay with rfl | hmay
        · exact p.areaMayHit_self
        · exact hmay
    rw [hsubject.canAttackSpell_eq, canAttackSpell_iff_of_refused hrefused, hwar, harea]

end View

/-- A player who is at war with faction 21. -/
def keeper : LivePlayer :=
  ⟨⟨0⟩, .player, { factionTemplate := 1, flags := .only .playerControlled },
    { reputation := Reputation.setAtWar {} 21 true }⟩

/-- A creature of faction 21 that the player has charmed. -/
def hound : LiveUnit :=
  ⟨⟨1⟩, .creature,
    { factionTemplate := 120, flags := .only .playerControlled, charmer := some keeper.id },
    .creature {}⟩

/-- The hound at the side of its charmer. -/
def kennel : View := .ofUnits frontierData [keeper.toUnit, hound]

/-- Charm does not keep a creature from hitting its charmer: a fight and spells allow it, if the
charmer is at war with the creature's faction. -/
theorem charmed_hits_charmer_at_war :
    kennel.unit? keeper.id = some keeper.toUnit ∧ kennel.unit? hound.id = some hound ∧
      kennel.controllers? hound keeper.toUnit false = some (keeper, keeper) ∧
      kennel.canAttackInCombat {} hound keeper.toUnit = true ∧
      kennel.canAttackSpell hound keeper.toUnit none false = true :=
  ⟨rfl, rfl, rfl, rfl, rfl⟩

theorem attack_under_one_player_kennel :
    kennel.controllers? hound keeper.toUnit false = some (keeper, keeper) ∧
      keeper.id = keeper.id ∧
      (∀ query, kennel.allows query hound keeper.toUnit = false) ∧
      (kennel.canAttackInCombat {} hound keeper.toUnit = true ↔
        kennel.IsAtWarWithFactionOf keeper hound) := by
  have hctrl : kennel.controllers? hound keeper.toUnit false = some (keeper, keeper) := rfl
  have hsafe := View.attack_under_one_player hctrl rfl
  exact ⟨hctrl, rfl, hsafe.1, hsafe.2.1 {}⟩

/-! ### Two players -/

namespace View

variable {v : View} {a b : LiveUnit} {p q : LivePlayer}

/-- Whoever attacks a unit of a player, or helps against it, does so on behalf of another player and
with consent: in a duel, or because the attacked player takes part in fights between players, or
with both free for all.  Outside a duel with each other the players are in no common group. -/
theorem consent_of_attack (hctrl : v.controllers? a b false = some (p, q))
    (hattack : (∃ query, v.allows query a b = true) ∨
      ∃ who, v.canAssistInCombatAgainst a who b = true) :
    p.id ≠ q.id ∧
      (p.Duels q ∨ q.isPvp = true ∨ (p.isFreeForAll = true ∧ q.isFreeForAll = true)) ∧
      (¬ p.Duels q → v.isInGroup p.toUnit q.toUnit false false = false) := by
  have hquery : ∃ query, v.allows query a b = true := by
    rcases hattack with hquery | ⟨who, hhelp⟩
    · exact hquery
    · exact exists_query_of_canAssistInCombatAgainst hhelp
  obtain ⟨query, hquery⟩ := hquery
  obtain ⟨w, hallowed⟩ := exists_waiver_of_allows hquery
  obtain ⟨hfriend, hreason⟩ := canAttackWaiving_of_controllers hctrl hallowed
  obtain ⟨hne, hduel | ⟨hshared, hgroup⟩⟩ := not_allied_of_not_isFriend hctrl hfriend
  · exact ⟨hne, Or.inl hduel, fun hno => absurd hduel hno⟩
  -- without a common arbiter the reason to fight lies with the flags of the players
  · have hflags : q.isPvp = true ∨ (p.isFreeForAll = true ∧ q.isFreeForAll = true) := by
      simpa [LivePlayer.hasReasonToFight, hshared] using hreason
    exact ⟨hne, Or.inr hflags, fun _ => hgroup⟩

end View

/-- A player on side 1 of a duel. -/
def challenger : LivePlayer :=
  ⟨⟨0⟩, .player, { factionTemplate := 1, flags := .only .playerControlled },
    { duel := some ⟨⟨9⟩, 1⟩ }⟩

/-- A player on side 2 of the same duel. -/
def rival : LivePlayer :=
  ⟨⟨1⟩, .player, { factionTemplate := 1, flags := .only .playerControlled },
    { duel := some ⟨⟨9⟩, 2⟩ }⟩

/-- A pet of the first player. -/
def wolf : LiveUnit :=
  ⟨⟨2⟩, .creature,
    { factionTemplate := 1, flags := .only .playerControlled, owner := some challenger.id },
    .creature {}⟩

/-- Two players in a duel, and the pet of one of them. -/
def duelGround : View := .ofUnits frontierData [challenger.toUnit, rival.toUnit, wolf]

/-- The pet helps its owner against the rival, who is attacked in a duel. -/
theorem consent_of_attack_duelGround :
    duelGround.controllers? wolf rival.toUnit false = some (challenger, rival) ∧
      duelGround.canAssistInCombatAgainst wolf challenger.toUnit rival.toUnit = true ∧
      challenger.id ≠ rival.id ∧
      (challenger.Duels rival ∨ rival.isPvp = true ∨
        (challenger.isFreeForAll = true ∧ rival.isFreeForAll = true)) := by
  have hctrl : duelGround.controllers? wolf rival.toUnit false = some (challenger, rival) := rfl
  have hhelp : duelGround.canAssistInCombatAgainst wolf challenger.toUnit rival.toUnit = true :=
    rfl
  obtain ⟨hne, hconsent, -⟩ := View.consent_of_attack hctrl (Or.inr ⟨challenger.toUnit, hhelp⟩)
  exact ⟨hctrl, hhelp, hne, hconsent⟩

end Rapport
