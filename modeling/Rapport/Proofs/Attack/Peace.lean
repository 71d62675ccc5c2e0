import Rapport.Visibility
import Rapport.Proofs.Attack.Veto
import Rapport.Proofs.Pet

/-!
# Peaceful dealings and attacks

How far help and cooperation keep units from attacking each other.

Help keeps them from it almost always.  A unit may help another and attack it as well only where no
player controls either of the two, and the other is an enemy of the one that regards it as a friend
(`View.canAssist_and_canAttackWaiving_iff`).

Cooperation is a promise of one side.  Whoever cooperates does not attack, but the other side is
not asked, and three rules of attack are not the same for both sides: the other may be out of reach,
may be regarded as a friend without returning it, or may have a player who takes no part in fights
between players (`View.OneSided`).  All other rules are, so apart from these three cases cooperation
is mutual peace (`View.peace_of_canCooperate`).
-/

namespace Rapport

namespace View

variable {v : View} {a b : LiveUnit} {w : Waiver}

/-! ### Help -/

/-- Two units that no player controls help their friends, as far as these can be selected. -/
theorem canAssist_of_not_isPlayerControlled (ha : a.isPlayerControlled = false)
    (hb : b.isPlayerControlled = false) :
    v.canAssist a b = (!b.state.flags.has .uninteractible && v.isFriend a b) := by
  rw [canAssist, ha, hb]
  exact Bool.and_true _

/-- Only friends are helped. -/
theorem isFriend_of_canAssist (h : v.canAssist a b = true) : v.isFriend a b = true := by
  unfold canAssist at h
  rw [Bool.and_eq_true, Bool.and_eq_true, decide_eq_true_eq] at h
  exact Rank.isFriend_iff.2 h.1.2

/-- Help and attack meet in nothing but a one-sided feud of two units that no player controls, and
only if no veto forbids the attack. -/
theorem canAssist_and_canAttackWaiving_iff :
    v.canAssist a b = true ∧ v.canAttackWaiving w a b = true ↔
      (a.isPlayerControlled = false ∧ b.isPlayerControlled = false) ∧
        v.isFriend a b = true ∧ v.isEnemy b a = true ∧ a.attackVeto w b = false := by
  constructor
  · rintro ⟨hassist, hattack⟩
    have hfriend : v.isFriend a b = true := isFriend_of_canAssist hassist
    have hwild : a.isPlayerControlled = false ∧ b.isPlayerControlled = false := by
      rw [← Bool.not_eq_true, ← Bool.not_eq_true, ← not_or]
      intro hcontrolled
      rw [canAttackWaiving_of_isFriend hcontrolled hfriend] at hattack
      contradiction
    rw [canAttackWaiving_of_not_isPlayerControlled hwild.1 hwild.2, Bool.and_eq_true,
      Bool.not_eq_true', Bool.or_eq_true] at hattack
    refine ⟨hwild, hfriend, hattack.2.resolve_left fun henemy => ?_, hattack.1⟩
    rw [isFriend_of_isEnemy henemy] at hfriend
    contradiction
  · rintro ⟨⟨ha, hb⟩, hfriend, henemy, hveto⟩
    -- whoever cannot be selected could not be attacked either
    have hselectable : b.state.flags.has .uninteractible = false := by
      rw [← Bool.not_eq_true]
      intro hflag
      have hreach : a.OutOfReach b := Or.inl ⟨.uninteractible, by decide, hflag⟩
      exact (LiveUnit.attackVeto_eq_false_iff.1 hveto).1 hreach
    rw [canAssist_of_not_isPlayerControlled ha hb, canAttackWaiving_of_not_isPlayerControlled ha hb,
      hselectable, hfriend, henemy, hveto, Bool.or_true]
    exact ⟨rfl, rfl⟩

/-- If a unit may both help and attack another, no player controls either of them, the one regards
the other as a friend, and the other regards it as an enemy.  So where a player controls one of the
two, help and attack exclude each other. -/
theorem help_apart_from_attack (v : View) (a b : LiveUnit) (w : Waiver) :
    (v.canAssist a b = true → v.canAttackWaiving w a b = true →
      (a.isPlayerControlled = false ∧ b.isPlayerControlled = false) ∧
        v.isFriend a b = true ∧ v.isEnemy b a = true) ∧
      (a.isPlayerControlled = true ∨ b.isPlayerControlled = true →
        ¬ (v.canAssist a b = true ∧ v.canAttackWaiving w a b = true)) := by
  constructor
  · intro hassist hattack
    obtain ⟨hwild, hfriend, henemy, -⟩ :=
      canAssist_and_canAttackWaiving_iff.1 ⟨hassist, hattack⟩
    exact ⟨hwild, hfriend, henemy⟩
  · rintro hcontrolled hboth
    obtain ⟨⟨ha, hb⟩, -⟩ := canAssist_and_canAttackWaiving_iff.1 hboth
    rw [ha, hb] at hcontrolled
    simp at hcontrolled

end View

/-- Bearers of template 6 are monsters that like the alliance.  Bearers of template 5 are of the
alliance and hate monsters. -/
def feudData : FactionData where
  templates := .ofList
    [(5, { id := 5, factionGroup := .only .alliance, enemyGroup := .only .monster }),
      (6, { id := 6, factionGroup := .only .monster, friendGroup := .only .alliance })]

/-- A creature that likes those who hate it. -/
def stray : LiveUnit := ⟨⟨0⟩, .creature, { factionTemplate := 6 }, .creature {}⟩

/-- A creature that hates its friend. -/
def hunter : LiveUnit := ⟨⟨1⟩, .creature, { factionTemplate := 5 }, .creature {}⟩

/-- The two creatures. -/
def moor : View := .ofUnits feudData [stray, hunter]

/-- One creature may help the other and attack it as well. -/
theorem help_apart_from_attack_moor :
    moor.canAssist stray hunter = true ∧ moor.canAttackWaiving {} stray hunter = true ∧
      (stray.isPlayerControlled = false ∧ hunter.isPlayerControlled = false) ∧
      moor.isFriend stray hunter = true ∧ moor.isEnemy hunter stray = true := by
  have hassist : moor.canAssist stray hunter = true := rfl
  have hattack : moor.canAttackWaiving {} stray hunter = true := rfl
  obtain ⟨hfeud, -⟩ := View.help_apart_from_attack moor stray hunter {}
  exact ⟨hassist, hattack, hfeud hassist hattack⟩

namespace View

variable {v : View} {a b : LiveUnit}

/-! ### Attacks that go one way only -/

/-- What keeps a unit from attacking another that may attack it. -/
inductive OneSided (v : View) (a b : LiveUnit) : Prop
  /-- The other is out of reach. -/
  | reach : a.OutOfReach b → OneSided v a b
  /-- The other is regarded as a friend and does not return it.  Friendship counts from one side
  where a player controls one of the two. -/
  | friendship : a.isPlayerControlled = true ∨ b.isPlayerControlled = true →
      v.isFriend a b = true → v.isFriend b a = false → OneSided v a b
  /-- The player in control of the unit takes part in fights between players, and has no reason to
  fight the other player. -/
  | reason {p q : LivePlayer} : v.controllers? a b false = some (p, q) → p.isPvp = true →
      p.hasReasonToFight q = false → OneSided v a b

/-- Immunity forbids attacks in both directions, so only the reach may differ. -/
theorem attackVeto_of_reverse (hreach : ¬ a.OutOfReach b) (h : b.attackVeto {} a = false) :
    a.attackVeto {} b = false := by
  obtain ⟨-, htarget, hattacker⟩ := LiveUnit.attackVeto_eq_false_iff.1 h
  exact LiveUnit.attackVeto_eq_false_iff.2 ⟨hreach, hattacker, htarget⟩

end View

/-- Of the reasons to fight only the part that the other takes in fights between players is
one-sided. -/
theorem LivePlayer.isPvp_of_hasReasonToFight {p q : LivePlayer} (hq : q.hasReasonToFight p = true)
    (hp : p.hasReasonToFight q = false) : p.isPvp = true := by
  unfold hasReasonToFight at hp hq
  rw [Bool.or_eq_false_iff, Bool.or_eq_false_iff] at hp
  rw [sharesDuelArbiter_comm, hp.1.1, Bool.and_comm, hp.2, Bool.false_or, Bool.or_false] at hq
  exact hq

namespace View

variable {v : View} {a b : LiveUnit}

theorem OneSided.canAttack (h : v.OneSided a b) : v.canAttack a b = false := by
  cases h with
  | reach hreach => exact canAttackWaiving_of_attackVeto (hreach.attackVeto {})
  | friendship hcontrolled hfriend _ => exact canAttackWaiving_of_isFriend hcontrolled hfriend
  | reason hctrl _ hreason =>
      rw [View.canAttack, canAttackWaiving_eq_of_controllers hctrl, hreason, Bool.and_false,
        Bool.and_false]

/-- Two units that no player controls attack each other or leave each other alone, as long as they
are in reach. -/
theorem canAttack_of_reverse (ha : a.isPlayerControlled = false) (hb : b.isPlayerControlled = false)
    (hreach : ¬ a.OutOfReach b) (hba : v.canAttack b a = true) : v.canAttack a b = true := by
  rw [canAttack, canAttackWaiving_of_not_isPlayerControlled hb ha, Bool.and_eq_true,
    Bool.not_eq_true'] at hba
  rw [canAttack, canAttackWaiving_of_not_isPlayerControlled ha hb, Bool.or_comm, hba.2,
    attackVeto_of_reverse hreach hba.1]
  rfl

/-- Where one unit may attack another, the one-sided rules keep the other from attacking back, and
nothing else does. -/
theorem canAttack_eq_false_iff_oneSided (hba : v.canAttack b a = true) :
    v.canAttack a b = false ↔ v.OneSided a b := by
  refine ⟨fun hab => ?_, OneSided.canAttack⟩
  by_cases hreach : a.OutOfReach b
  · exact .reach hreach
  by_cases hcontrolled : a.isPlayerControlled = true ∨ b.isPlayerControlled = true
  · rw [canAttack, canAttackWaiving_of_isPlayerControlled hcontrolled.symm, Bool.and_eq_true,
      Bool.and_eq_true, Bool.not_eq_true', Bool.not_eq_true'] at hba
    obtain ⟨hveto, hother, hreason⟩ := hba
    rw [canAttack, canAttackWaiving_of_isPlayerControlled hcontrolled,
      attackVeto_of_reverse hreach hveto, Bool.not_false, Bool.true_and] at hab
    cases hfriend : v.isFriend a b with
    | true => exact .friendship hcontrolled hfriend hother
    | false =>
        -- no friendship is in the way, so the players have reasons that differ
        rw [hfriend, Bool.not_false, Bool.true_and, Option.all_eq_false] at hab
        obtain ⟨⟨p, q⟩, hctrl, hnone⟩ := hab
        rw [controllers?_swap hctrl, Option.all_some] at hreason
        exact .reason hctrl (LivePlayer.isPvp_of_hasReasonToFight hreason hnone) hnone
  · rw [not_or, Bool.not_eq_true, Bool.not_eq_true] at hcontrolled
    rw [canAttack_of_reverse hcontrolled.1 hcontrolled.2 hreach hba] at hab
    contradiction

/-! ### Cooperation -/

/-- Two units of the same groups, neither of which is charmed. -/
structure Kindred (v : View) (a b : LiveUnit) : Prop where
  distinct : a.id ≠ b.id
  uncharmed : a.isCharmed = false ∧ b.isCharmed = false
  groups : ∃ s t, v.templateOf? a = some s ∧ v.templateOf? b = some t ∧
    s.factionGroup = t.factionGroup

theorem Kindred.symm (h : v.Kindred a b) : v.Kindred b a := by
  obtain ⟨s, t, hs, ht, hgroups⟩ := h.groups
  exact ⟨h.distinct.symm, h.uncharmed.symm, t, s, ht, hs, hgroups.symm⟩

/-- Units of one kind cooperate with those whom they may not attack. -/
theorem canCooperate_iff :
    v.canCooperate a b = true ↔ v.Kindred a b ∧ v.canAttack a b = false := by
  constructor
  · intro h
    simp only [canCooperate, Bool.and_eq_true, bne_iff_ne, Bool.not_eq_true'] at h
    obtain ⟨⟨⟨hid, ha⟩, hb⟩, h⟩ := h
    split at h
    next s t hs ht =>
      rw [Bool.and_eq_true, decide_eq_true_eq, Bool.not_eq_true'] at h
      exact ⟨⟨hid, ⟨ha, hb⟩, s, t, hs, ht, h.1⟩, h.2⟩
    next => contradiction
  · rintro ⟨⟨hid, ⟨ha, hb⟩, s, t, hs, ht, hgroups⟩, hattack⟩
    simp [canCooperate, hid, ha, hb, hs, ht, hgroups, hattack]

/-- Whoever cooperates with another does not attack it.  Where no rule of attack is one-sided
between the two, the other does not attack either and cooperates as well.  In any case the other
cooperates exactly if it may not attack. -/
theorem peace_of_canCooperate (h : v.canCooperate a b = true) :
    v.canAttack a b = false ∧
      (¬ v.OneSided a b → v.canAttack b a = false ∧ v.canCooperate b a = true) ∧
      (v.canCooperate b a = true ↔ v.canAttack b a = false) := by
  obtain ⟨hkindred, hab⟩ := canCooperate_iff.1 h
  have hreturned : v.canCooperate b a = true ↔ v.canAttack b a = false := by
    rw [canCooperate_iff]
    exact and_iff_right hkindred.symm
  refine ⟨hab, fun hfair => ?_, hreturned⟩
  have hba : v.canAttack b a = false := by
    rw [← Bool.not_eq_true]
    exact fun hba => hfair ((canAttack_eq_false_iff_oneSided hba).1 hab)
  exact ⟨hba, hreturned.2 hba⟩

end View

/-- A player who takes part in fights between players. -/
def raider : LivePlayer :=
  ⟨⟨0⟩, .player,
    { factionTemplate := 1, flags := .union (.only .playerControlled) (.only .pvp) }, {}⟩

/-- A player who does not. -/
def settler : LivePlayer :=
  ⟨⟨1⟩, .player, { factionTemplate := 1, flags := .only .playerControlled }, {}⟩

/-- Another one who does not. -/
def trapper : LivePlayer :=
  ⟨⟨2⟩, .player, { factionTemplate := 1, flags := .only .playerControlled }, {}⟩

/-- The three players. -/
def outpost : View := .ofUnits frontierData [raider.toUnit, settler.toUnit, trapper.toUnit]

/-- Cooperation is neither peace nor mutual: a player who takes part in fights between players
cooperates with one who does not, and who may attack the first all the same. -/
theorem raider_cooperates_with_attacker :
    outpost.world.StoresUnderOwnIds ∧ outpost.unit? raider.id = some raider.toUnit ∧
      outpost.unit? settler.id = some settler.toUnit ∧
      outpost.canCooperate raider.toUnit settler.toUnit = true ∧
      outpost.canAttack settler.toUnit raider.toUnit = true ∧
      outpost.canCooperate settler.toUnit raider.toUnit = false := by
  have horderly : outpost.world.Orderly := World.orderly_ofBodies (by decide)
  exact ⟨horderly.storesUnderOwnIds, rfl, rfl, rfl, rfl, rfl⟩

/-- The two who take no part in fights between players are at peace. -/
theorem peace_of_canCooperate_outpost :
    outpost.canCooperate settler.toUnit trapper.toUnit = true ∧
      ¬ outpost.OneSided settler.toUnit trapper.toUnit ∧
      outpost.canAttack settler.toUnit trapper.toUnit = false ∧
      outpost.canAttack trapper.toUnit settler.toUnit = false ∧
      outpost.canCooperate trapper.toUnit settler.toUnit = true := by
  have hcooperates : outpost.canCooperate settler.toUnit trapper.toUnit = true := rfl
  have hfair : ¬ outpost.OneSided settler.toUnit trapper.toUnit := by
    have hveto : settler.toUnit.attackVeto {} trapper.toUnit = false := rfl
    have hfriend : outpost.isFriend settler.toUnit trapper.toUnit = false := rfl
    have hctrl : outpost.controllers? settler.toUnit trapper.toUnit false =
        some (settler, trapper) := rfl
    rintro (hreach | ⟨-, hfriend', -⟩ | ⟨hctrl', hpvp, -⟩)
    · exact (LiveUnit.attackVeto_eq_false_iff.1 hveto).1 hreach
    · rw [hfriend] at hfriend'
      contradiction
    · cases hctrl.symm.trans hctrl'
      contradiction
  obtain ⟨hab, hpeace, -⟩ := View.peace_of_canCooperate hcooperates
  exact ⟨hcooperates, hfair, hab, hpeace hfair⟩

end Rapport
