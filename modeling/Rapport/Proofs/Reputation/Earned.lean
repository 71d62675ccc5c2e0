import Rapport.Proofs.Attack.Veto
import Rapport.Proofs.Reputation.Peace

/-!
# Earning a standing

Earning more with a faction never does a player harm (`View.withEarned_mono`).  It raises one
standing, and so it never lowers a rank; and it changes nothing else, so no unit is treated worse by
another, whether the player, a unit of the player or none of these is involved.
-/

namespace Rapport

/-- The reputation with so much earned with a faction, or with no entry for the faction. -/
def Reputation.withEarned (r : Reputation) (faction : FactionId) : Option Standing → Reputation
  | some earned => r.setEarned faction earned
  | none => { r with earned := r.earned.erase faction }

namespace Reputation

variable {r : Reputation} {faction f : FactionId} {earned earned' : Option Standing}

theorem earnedWith_withEarned :
    (r.withEarned faction earned).earnedWith f =
      if faction = f then earned.getD 0 else r.earnedWith f := by
  cases earned with
  | some n =>
      have hentry : (r.withEarned faction (some n)).earned.get? f =
          if faction = f then some n else r.earned.get? f := Keyed.get?_insert _ _ _ _
      rw [earnedWith, hentry]
      split <;> rfl
  | none =>
      have hentry : (r.withEarned faction none).earned.get? f =
          if faction = f then none else r.earned.get? f := Keyed.get?_erase _ _ _
      rw [earnedWith, hentry]
      split <;> rfl

theorem forcedRanks_withEarned : (r.withEarned faction earned).forcedRanks = r.forcedRanks := by
  cases earned <;> rfl

theorem atWar_withEarned : (r.withEarned faction earned).atWar = r.atWar := by
  cases earned <;> rfl

theorem withEarned_noBetter (hmore : earned.getD 0 ≤ earned'.getD 0) :
    (r.withEarned faction earned).NoBetter (r.withEarned faction earned') where
  forced := by rw [forcedRanks_withEarned, forcedRanks_withEarned]
  earned f := by
    rw [earnedWith_withEarned, earnedWith_withEarned]
    split
    · exact hmore
    · exact Int32.le_refl _
  war f h := by
    rw [isAtWar, atWar_withEarned] at h ⊢
    exact h

end Reputation

namespace View

variable {v : View} {id : EntityId} {faction : FactionId} {earned earned' : Option Standing}

/-- The view in which a player has earned so much with a faction, or has no entry for it. -/
def withEarned (v : View) (id : EntityId) (faction : FactionId) (earned : Option Standing) : View :=
  v.withReputation id (·.withEarned faction earned)

theorem upToReputation_withEarned (hmore : earned.getD 0 ≤ earned'.getD 0) :
    UpToReputation Reputation.NoBetter (v.withEarned id faction earned)
      (v.withEarned id faction earned') :=
  upToReputation_withReputation Reputation.noBetter_refl
    fun _ => Reputation.withEarned_noBetter hmore

/-- Earning more with a faction is of no harm: the player's standings are the exact sums brought
into range and no rank is lower, nobody is treated worse than with less, and no game object is
withheld from anybody. -/
theorem withEarned_mono {poorer richer : View} (hpoorer : poorer = v.withEarned id faction earned)
    (hricher : richer = v.withEarned id faction earned')
    (hmore : earned.getD 0 ≤ earned'.getD 0) :
    (∀ p, v.player? id = some p →
      ∃ q q', poorer.player? id = some q ∧ richer.player? id = some q' ∧
        ∀ f : Faction,
          (q.state.reputation.standing f).toInt = Standing.clamp (f.baseStanding.toInt +
            (if faction = f.id then earned.getD 0 else p.state.reputation.earnedWith f.id).toInt) ∧
          (q'.state.reputation.standing f).toInt = Standing.clamp (f.baseStanding.toInt +
            (if faction = f.id then earned'.getD 0 else p.state.reputation.earnedWith f.id).toInt) ∧
          q.state.reputation.rank f ≤ q'.state.reputation.rank f) ∧
    (∀ k, (poorer.unit? k).isSome = (v.unit? k).isSome ∧
      (richer.unit? k).isSome = (v.unit? k).isSome ∧
      poorer.gameObject? k = v.gameObject? k ∧ richer.gameObject? k = v.gameObject? k) ∧
    ∀ {a a'}, poorer.Counterparts richer a a' →
      (∀ {b b'}, poorer.Counterparts richer b b' → poorer.TreatsNoBetter richer a b a' b') ∧
      ∀ o, poorer.canInteractObject a o = true → richer.canInteractObject a' o = true := by
  have hviews : UpToReputation Reputation.NoBetter poorer richer := by
    rw [hpoorer, hricher]
    exact upToReputation_withEarned hmore
  refine ⟨?_, ?_, ?_⟩
  · intro p hp
    rw [hpoorer, hricher]
    refine ⟨_, _, player?_withReputation hp, player?_withReputation hp, fun f => ⟨?_, ?_, ?_⟩⟩
    · rw [Reputation.toInt_standing, Reputation.earnedWith_withEarned]
    · rw [Reputation.toInt_standing, Reputation.earnedWith_withEarned]
    · exact (Reputation.withEarned_noBetter hmore).rank_le f
  · intro k
    rw [hpoorer, hricher]
    exact ⟨isSome_unit?_withReputation, isSome_unit?_withReputation, gameObject?_withReputation,
      gameObject?_withReputation⟩
  · intro a a' ha
    have haa : a.UpToReputation Reputation.NoBetter a' := ha.rel hviews.units
    refine ⟨fun hb => ?_, fun o => ?_⟩
    · exact treatsNoBetter_of_noBetter hviews haa (hb.rel hviews.units)
    · exact canInteractObject_of_noBetter hviews haa

end View

/-- A player who has earned so much with faction 21, or has no entry for it. -/
def pilgrim (earned : Option Standing) : LivePlayer :=
  ⟨⟨0⟩, .player, { factionTemplate := 1, flags := .only .playerControlled },
    { reputation := Reputation.withEarned {} 21 earned }⟩

/-- The player and a creature of the faction, once so much has been earned. -/
def wayside (earned : Option Standing) : View :=
  (View.ofUnits frontierData [(pilgrim none).toUnit, trader]).withEarned ⟨0⟩ 21 earned

/-- The creature honors the player for what the player has earned, and treats the player no worse
than before. -/
theorem withEarned_mono_wayside :
    (none : Option Standing).getD 0 ≤ (some 9000 : Option Standing).getD 0 ∧
      (wayside none).Counterparts (wayside (some 9000)) trader trader ∧
      (wayside none).Counterparts (wayside (some 9000)) (pilgrim none).toUnit
        (pilgrim (some 9000)).toUnit ∧
      (wayside none).reaction trader (pilgrim none).toUnit = .neutral ∧
      (wayside (some 9000)).reaction trader (pilgrim (some 9000)).toUnit = .honored ∧
      (wayside none).TreatsNoBetter (wayside (some 9000)) trader (pilgrim none).toUnit trader
        (pilgrim (some 9000)).toUnit := by
  have hmore : (none : Option Standing).getD 0 ≤ (some 9000 : Option Standing).getD 0 := by decide
  have htrader : (wayside none).Counterparts (wayside (some 9000)) trader trader :=
    ⟨⟨1⟩, rfl, rfl⟩
  have hpilgrim : (wayside none).Counterparts (wayside (some 9000)) (pilgrim none).toUnit
      (pilgrim (some 9000)).toUnit := ⟨⟨0⟩, rfl, rfl⟩
  have hpoorer : wayside none =
      (View.ofUnits frontierData [(pilgrim none).toUnit, trader]).withEarned ⟨0⟩ 21 none := rfl
  have hricher : wayside (some 9000) =
      (View.ofUnits frontierData [(pilgrim none).toUnit, trader]).withEarned ⟨0⟩ 21 (some 9000) :=
    rfl
  obtain ⟨-, -, htreats⟩ := View.withEarned_mono hpoorer hricher hmore
  exact ⟨hmore, htrader, hpilgrim, rfl, rfl, (htreats htrader).1 hpilgrim⟩

end Rapport
