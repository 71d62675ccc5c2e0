import Rapport.Combat
import Rapport.Proofs.Control

/-!
# Helpers on open land and in instances

The rules for helpers on open land and in instances have nothing in common but that the enemy may be
attacked.  In an instance only those help who are fit to fight (`LiveUnit.IsFitToFight`).  On open
land the helper has to be idle, to be allowed to help, and to attack the enemy on sight, and whether
it is fit is not asked.  So a map that becomes an instance keeps just those of its helpers who are
fit (`View.helpers_on_either_map`).
-/

namespace Rapport

/-- A unit can enter a fight and start an attack, and seems to be alive and open to attacks. -/
structure LiveUnit.IsFitToFight (u : LiveUnit) : Prop where
  enters : u.canEnterCombat = true
  initiates : u.canInitiateAttack = true
  not_feigning : u.isFeigningDeath = false
  not_shielded : u.state.status.has .unattackableAura = false

theorem LiveUnit.IsFitToFight.alive {u : LiveUnit} (h : u.IsFitToFight) : u.state.alive = true := by
  have henters := h.enters
  rw [canEnterCombat, Bool.and_eq_true] at henters
  exact henters.1

namespace View

variable {v : View} {u who enemy : LiveUnit}

/-- The view with its map marked as an instance or as open land. -/
def onMap (v : View) (instanceable : Bool) : View :=
  { v with world := { v.world with map := { instanceable := instanceable } } }

/-- The map has no part in who may be attacked. -/
theorem canAttack_onMap (instanceable : Bool) :
    (v.onMap instanceable).canAttack u enemy = v.canAttack u enemy := rfl

theorem canJoinInAttacking_iff :
    v.canJoinInAttacking u enemy = true ↔ u.IsFitToFight ∧ v.canAttack u enemy = true := by
  rw [canJoinInAttacking, Bool.and_eq_true, Bool.and_eq_true, Bool.and_eq_true, Bool.and_eq_true,
    Bool.not_eq_true', Bool.not_eq_true']
  constructor
  · rintro ⟨⟨⟨⟨henters, hinitiates⟩, hfeigning⟩, hshielded⟩, hattack⟩
    exact ⟨⟨henters, hinitiates, hfeigning, hshielded⟩, hattack⟩
  · rintro ⟨hfit, hattack⟩
    exact ⟨⟨⟨⟨hfit.enters, hfit.initiates⟩, hfit.not_feigning⟩, hfit.not_shielded⟩, hattack⟩

/-- In an instance it does not matter who is helped. -/
theorem canAssistInCombatAgainst_of_instanceable (h : v.world.map.instanceable = true) :
    v.canAssistInCombatAgainst u who enemy = true ↔
      u.IsFitToFight ∧ v.canAttack u enemy = true := by
  rw [canAssistInCombatAgainst, if_pos h, canJoinInAttacking_iff]

theorem canAssistInCombatAgainst_of_not_instanceable (h : v.world.map.instanceable = false) :
    v.canAssistInCombatAgainst u who enemy = true ↔
      u.isInCombat = false ∧ v.canAssist u who = true ∧ v.canAttackOnSight u enemy = true := by
  rw [canAssistInCombatAgainst, h, if_neg Bool.false_ne_true, Bool.and_eq_true, Bool.and_eq_true,
    Bool.not_eq_true', and_assoc]

/-- Whoever attacks on sight may attack. -/
theorem canAttack_of_canAttackOnSight (h : v.canAttackOnSight u enemy = true) :
    v.canAttack u enemy = true := by
  rw [canAttackOnSight, Bool.and_eq_true, Bool.and_eq_true] at h
  exact h.1.2

/-- Helpers in an instance are alive and fit to fight.  Of those who help on open land, the map
keeps the fit ones and no others when it becomes an instance with the same units. -/
theorem helpers_on_either_map (v : View) (u who enemy : LiveUnit) :
    (v.world.map.instanceable = true → v.canAssistInCombatAgainst u who enemy = true →
        u.state.alive = true ∧ u.IsFitToFight) ∧
      (∀ id, (v.onMap true).unit? id = v.unit? id) ∧
      (v.world.map.instanceable = false → v.canAssistInCombatAgainst u who enemy = true →
        ((v.onMap true).canAssistInCombatAgainst u who enemy = true ↔ u.IsFitToFight)) := by
  refine ⟨?_, fun _ => rfl, ?_⟩
  · intro hinstance hhelp
    obtain ⟨hfit, -⟩ := (canAssistInCombatAgainst_of_instanceable hinstance).1 hhelp
    exact ⟨hfit.alive, hfit⟩
  · intro hopen hhelp
    obtain ⟨-, -, hsight⟩ := (canAssistInCombatAgainst_of_not_instanceable hopen).1 hhelp
    rw [canAssistInCombatAgainst_of_instanceable rfl, canAttack_onMap]
    exact and_iff_left (canAttack_of_canAttackOnSight hsight)

end View

/-- Bearers of template 12 like their own kind and hate monsters, and those of template 14 are
monsters. -/
def garrisonData : FactionData where
  templates := .ofList
    [(12, { id := 12, factionGroup := .only .alliance, friendGroup := .only .alliance,
            enemyGroup := .only .monster }),
      (14, { id := 14, factionGroup := .only .monster })]

/-- A guard who is dead, stunned, evading and passive, feigns death and is under an aura. -/
def fallen : LiveUnit where
  id := ⟨0⟩
  kind := .creature
  state :=
    { factionTemplate := 12, flags := .only .stunned, alive := false
      status := ((FlagSet.only .evadingHome).insert .feignDeath).insert .unattackableAura }
  role := .creature { reactState := .passive }

/-- A guard who is helped. -/
def sentry : LiveUnit := ⟨⟨1⟩, .creature, { factionTemplate := 12 }, .creature {}⟩

/-- A monster. -/
def sapper : LiveUnit := ⟨⟨2⟩, .creature, { factionTemplate := 14 }, .creature {}⟩

/-- A guard who is fit to fight. -/
def reserve : LiveUnit := ⟨⟨3⟩, .creature, { factionTemplate := 12 }, .creature {}⟩

/-- The three guards and the monster, on open land. -/
def garrison : View := .ofUnits garrisonData [fallen, sentry, sapper, reserve]

/-- A guard who is fit for nothing helps on open land, and no longer helps when the map becomes an
instance. -/
theorem fallen_helps_on_open_land :
    garrison.world.map.instanceable = false ∧ garrison.unit? fallen.id = some fallen ∧
      garrison.unit? sentry.id = some sentry ∧ garrison.unit? sapper.id = some sapper ∧
      garrison.canAssistInCombatAgainst fallen sentry sapper = true ∧
      fallen.state.alive = false ∧ fallen.canEnterCombat = false ∧
      fallen.canInitiateAttack = false ∧ fallen.isFeigningDeath = true ∧
      fallen.state.status.has .unattackableAura = true ∧
      (garrison.onMap true).canAssistInCombatAgainst fallen sentry sapper = false :=
  ⟨rfl, rfl, rfl, rfl, rfl, rfl, rfl, rfl, rfl, rfl, rfl⟩

/-- A guard who is fit helps on open land, and keeps helping when the map becomes an instance. -/
theorem helpers_on_either_map_garrison :
    garrison.world.map.instanceable = false ∧
      garrison.canAssistInCombatAgainst reserve sentry sapper = true ∧ reserve.IsFitToFight ∧
      (garrison.onMap true).canAssistInCombatAgainst reserve sentry sapper = true ∧
      reserve.state.alive = true := by
  have hopen : garrison.world.map.instanceable = false := rfl
  have hhelp : garrison.canAssistInCombatAgainst reserve sentry sapper = true := rfl
  have hfit : reserve.IsFitToFight := ⟨rfl, rfl, rfl, rfl⟩
  obtain ⟨-, -, hkept⟩ := View.helpers_on_either_map garrison reserve sentry sapper
  have hjoins : (garrison.onMap true).canAssistInCombatAgainst reserve sentry sapper = true :=
    (hkept hopen hhelp).2 hfit
  obtain ⟨hinstance, -⟩ := View.helpers_on_either_map (garrison.onMap true) reserve sentry sapper
  exact ⟨hopen, hhelp, hfit, hjoins, (hinstance rfl hjoins).1⟩

end Rapport
