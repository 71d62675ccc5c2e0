import Rapport.Combat
import Rapport.Triviality
import Rapport.Visibility
import Rapport.Proofs.Pet
import Rapport.Proofs.Reputation.Peace
import Rapport.Proofs.World.Frame

/-!
# What answers depend on

A question about some units is answered from these units, from those whom they follow, that is from
their charmers and owners, and from those whom these follow in turn (`View.reach` with two steps).
Nobody else has a part in the answer: an operation on an entity out of that reach, be it that the
entity goes, changes, or joins or leaves a group, changes no answer (`View.answers_of_apart`).

One step of control is what most rules take.  The second comes from groups: between two units of
players the two players are asked whether they are in one group, and they are asked as units, which
may follow somebody themselves.
-/

namespace Rapport

/-- The charmer and the owner that a unit names. -/
def LiveUnit.followed (u : LiveUnit) : List EntityId :=
  u.state.charmer.toList ++ u.state.owner.toList

/-- Whoever counts as the master of a unit is its charmer or its owner. -/
theorem LiveUnit.mem_followed_of_master {u : LiveUnit} {ignoreCharms : Bool} {m : EntityId}
    (hm : (if ignoreCharms then u.state.owner else u.state.master) = some m) : m ∈ u.followed := by
  unfold followed
  cases ignoreCharms with
  | true =>
      have howner : u.state.owner = some m := hm
      simp [howner]
  | false =>
      have hmaster : u.state.charmer.or u.state.owner = some m := hm
      rcases Option.or_eq_some_iff.1 hmaster with hcharmer | ⟨-, howner⟩
      · simp [hcharmer]
      · simp [howner]

namespace View

variable {v : View} {w' : World} {d i k : EntityId} {n : Nat} {a b c : LiveUnit}
  {p q : LivePlayer} {ignoreCharms : Bool}

/-! ### Reach -/

/-- Everyone whom the unit stored under a number leads to by at most so many steps, each from a unit
to its charmer or its owner. -/
def reach (v : View) : Nat → EntityId → List EntityId
  | 0, i => [i]
  | n + 1, i => i :: ((v.unit? i).toList.flatMap LiveUnit.followed).flatMap (v.reach n)

/-- A unit of the world that does not lead to `d` by so many steps. -/
def Apart (v : View) (n : Nat) (u : LiveUnit) (d : EntityId) : Prop :=
  ∃ i, v.unit? i = some u ∧ d ∉ v.reach n i

theorem mem_reach_self (v : View) (n : Nat) (i : EntityId) : i ∈ v.reach n i := by
  cases n with
  | zero => exact List.mem_singleton_self i
  | succ n => exact List.mem_cons_self

theorem mem_reach_of_followed (ha : v.unit? i = some a) (hk : k ∈ a.followed)
    (hd : d ∈ v.reach n k) : d ∈ v.reach (n + 1) i := by
  rw [reach, ha]
  refine List.mem_cons_of_mem _ (List.mem_flatMap.2 ⟨k, ?_, hd⟩)
  simpa using hk

/-- More steps lead further. -/
theorem mem_reach_succ (h : d ∈ v.reach n i) : d ∈ v.reach (n + 1) i := by
  induction n generalizing i with
  | zero =>
      obtain rfl : d = i := List.mem_singleton.1 h
      exact mem_reach_self v 1 d
  | succ n ih =>
      rcases List.mem_cons.1 h with rfl | h
      · exact mem_reach_self v (n + 2) d
      · obtain ⟨k, hk, hd⟩ := List.mem_flatMap.1 h
        exact List.mem_cons_of_mem _ (List.mem_flatMap.2 ⟨k, hk, ih hd⟩)

namespace Apart

theorem of_succ (h : v.Apart (n + 1) a d) : v.Apart n a d := by
  obtain ⟨i, ha, hd⟩ := h
  exact ⟨i, ha, fun hmem => hd (mem_reach_succ hmem)⟩

theorem id_ne (hown : v.world.StoresUnderOwnIds) (h : v.Apart n a d) : a.id ≠ d := by
  obtain ⟨i, ha, hd⟩ := h
  rintro rfl
  rw [id_of_unit? hown ha] at hd
  exact hd (mem_reach_self v n i)

/-- A unit that is followed is one step nearer. -/
theorem of_followed (h : v.Apart (n + 1) a d) (hk : k ∈ a.followed) (hb : v.unit? k = some b) :
    v.Apart n b d := by
  obtain ⟨i, ha, hd⟩ := h
  exact ⟨k, hb, fun hmem => hd (mem_reach_of_followed ha hk hmem)⟩

theorem followed_ne (h : v.Apart (n + 1) a d) (hk : k ∈ a.followed) : k ≠ d := by
  obtain ⟨i, ha, hd⟩ := h
  rintro rfl
  exact hd (mem_reach_of_followed ha hk (mem_reach_self v n k))

/-- The player in control of a unit is at most one step nearer. -/
theorem controller (h : v.Apart (n + 1) a d) (hp : v.controller? a ignoreCharms = some p) :
    v.Apart n p.toUnit d := by
  unfold controller? at hp
  split at hp
  next m hm => exact h.of_followed (LiveUnit.mem_followed_of_master hm) (player?_eq_some_iff.1 hp)
  next => exact LiveUnit.player?_eq_some_iff.1 hp ▸ h.of_succ

end Apart

/-! ### Looking things up -/

/-- The view of another world by the same static data and configuration. -/
def withWorld (v : View) (w' : World) : View := { v with world := w' }

@[simp] theorem templateOf?_withWorld (u : LiveUnit) :
    (v.withWorld w').templateOf? u = v.templateOf? u := rfl

section

variable (hw : v.world.DifferAt w' d)

include hw

theorem unit?_withWorld (hk : k ≠ d) : (v.withWorld w').unit? k = v.unit? k := by
  rw [unit?, unit?]
  exact congrArg (Option.bind · Entity.unit?) (hw.entities k hk)

theorem controller?_withWorld (ha : v.Apart (n + 1) a d) (ignoreCharms : Bool) :
    (v.withWorld w').controller? a ignoreCharms = v.controller? a ignoreCharms := by
  unfold controller?
  split
  next m hm =>
    have hne : m ≠ d := ha.followed_ne (LiveUnit.mem_followed_of_master hm)
    rw [player?, player?, unit?_withWorld hw hne]
  next => rfl

theorem master?_withWorld (ha : v.Apart (n + 1) a d) :
    (v.withWorld w').master? a = v.master? a := by
  unfold master?
  cases hm : a.state.master with
  | none => rfl
  | some m =>
      have hfollowed : m ∈ a.followed := @LiveUnit.mem_followed_of_master a false m hm
      exact unit?_withWorld hw (ha.followed_ne hfollowed)

/-! ### Templates -/

theorem templateReactionToUnit_withWorld (hb : v.Apart 1 b d) (t : Option FactionTemplate) :
    (v.withWorld w').templateReactionToUnit t b = v.templateReactionToUnit t b := by
  have hreputation (t : FactionTemplate) :
      (v.withWorld w').reputationReaction? t b = v.reputationReaction? t b := by
    rw [reputationReaction?, reputationReaction?, controller?_withWorld hw hb]
    rfl
  simp only [templateReactionToUnit, templateOf?_withWorld, hreputation]

theorem reactionByTemplate_withWorld (hb : v.Apart 1 b d) (a : LiveUnit) :
    (v.withWorld w').reactionByTemplate a b = v.reactionByTemplate a b := by
  rw [reactionByTemplate, reactionByTemplate, templateReactionToUnit_withWorld hw hb]
  rfl

/-! ### Membership -/

theorem shareGroup_withWorld (hp : p.id ≠ d) (hq : q.id ≠ d) (party : Bool) :
    (v.withWorld w').shareGroup p q party = v.shareGroup p q party := by
  unfold shareGroup groupOf?
  cases p.state.group with
  | none => rfl
  | some g =>
      have hgroup : Option.Rel (Group.AgreeBut d) (v.world.group? g)
          ((v.withWorld w').world.group? g) := hw.groups g
      simp only [Option.bind_some]
      rw [hgroup.any_eq]
      intro x x' hx
      have hmember (k : EntityId) (hk : k ≠ d) : x'.isMember k = x.isMember k :=
        congrArg Option.isSome (hx k hk)
      simp only [hmember p.id hp, hmember q.id hq, Group.sameSubgroup, hx p.id hp, hx q.id hq]

variable (hown : v.world.StoresUnderOwnIds)

include hown

theorem belongTogether_withWorld (ha : v.Apart 1 a d) (hb : v.Apart 1 b d)
    {related related' : LivePlayer → LivePlayer → Bool}
    (hrelated : ∀ {p q}, p.id ≠ d → q.id ≠ d → related' p q = related p q) :
    (v.withWorld w').belongTogether related' a b ignoreCharms =
      v.belongTogether related a b ignoreCharms := by
  have hcontrollers :
      (v.withWorld w').controllers? a b ignoreCharms = v.controllers? a b ignoreCharms := by
    rw [controllers?, controllers?, controller?_withWorld hw ha, controller?_withWorld hw hb]
  rw [belongTogether, belongTogether, hcontrollers]
  cases hctrl : v.controllers? a b ignoreCharms with
  | none => rfl
  | some pair =>
      obtain ⟨-, hp, hq⟩ := controllers?_eq_some_iff.1 hctrl
      have hpq := hrelated ((ha.controller hp).id_ne hown) ((hb.controller hq).id_ne hown)
      exact congrArg (fun x => a.id == b.id || (pair.1.id == pair.2.id || x)) hpq

theorem isInGroup_withWorld (ha : v.Apart 1 a d) (hb : v.Apart 1 b d)
    (party ignoreCharms : Bool) :
    (v.withWorld w').isInGroup a b party ignoreCharms = v.isInGroup a b party ignoreCharms := by
  have hbelong : (v.withWorld w').belongTogether ((v.withWorld w').shareGroup · · party) a b
      ignoreCharms = v.belongTogether (v.shareGroup · · party) a b ignoreCharms :=
    belongTogether_withWorld hw hown ha hb fun hp hq => shareGroup_withWorld hw hp hq party
  have hwild : (v.withWorld w').uncontrolledReaction a b = v.uncontrolledReaction a b := by
    rw [uncontrolledReaction, uncontrolledReaction, reactionByTemplate_withWorld hw hb]
  unfold isInGroup
  split
  next p q _ hp hq =>
    -- two players are asked for their own groups if charms are ignored
    have hpd : p.toUnit.id ≠ d := LiveUnit.player?_eq_some_iff.1 hp ▸ ha.id_ne hown
    have hqd : q.toUnit.id ≠ d := LiveUnit.player?_eq_some_iff.1 hq ▸ hb.id_ne hown
    rw [hbelong, shareGroup_withWorld hw hpd hqd]
  next => rw [hbelong, hwild]
  next => exact hbelong

/-! ### Reactions -/

theorem reaction_withWorld (ha : v.Apart 2 a d) (hb : v.Apart 2 b d) :
    (v.withWorld w').reaction a b = v.reaction a b := by
  -- the players in control are one step nearer, and are asked about their own group
  have hplayers : (v.withWorld w').controlledReaction? a b = v.controlledReaction? a b := by
    rw [controlledReaction?, controlledReaction?, controller?_withWorld hw ha,
      controller?_withWorld hw hb]
    cases hp : v.controller? a false with
    | none => rfl
    | some p =>
        cases hq : v.controller? b false with
        | none => rfl
        | some q =>
            simp only [betweenPlayers?,
              isInGroup_withWorld hw hown (ha.controller hp) (hb.controller hq)]
  have hstance : (v.withWorld w').controllerStance? a b = v.controllerStance? a b := by
    rw [controllerStance?, controllerStance?, controller?_withWorld hw ha]
    rfl
  rw [reaction, reaction, hplayers, hstance, reactionByTemplate_withWorld hw hb.of_succ]

theorem isEnemy_withWorld (ha : v.Apart 2 a d) (hb : v.Apart 2 b d) :
    (v.withWorld w').isEnemy a b = v.isEnemy a b :=
  congrArg Rank.isEnemy (reaction_withWorld hw hown ha hb)

theorem isFriend_withWorld (ha : v.Apart 2 a d) (hb : v.Apart 2 b d) :
    (v.withWorld w').isFriend a b = v.isFriend a b :=
  congrArg Rank.isFriend (reaction_withWorld hw hown ha hb)

/-! ### Attacks -/

theorem canAttackWaiving_withWorld (ha : v.Apart 2 a d) (hb : v.Apart 2 b d) (w : Waiver) :
    (v.withWorld w').canAttackWaiving w a b = v.canAttackWaiving w a b := by
  simp only [canAttackWaiving, canAttackPlayerControlled, isFriend_withWorld hw hown ha hb,
    isEnemy_withWorld hw hown ha hb, isEnemy_withWorld hw hown hb ha,
    controller?_withWorld hw ha, controller?_withWorld hw hb]

theorem allows_withWorld (ha : v.Apart 2 a d) (hb : v.Apart 2 b d) (query : AttackQuery) :
    (v.withWorld w').allows query a b = v.allows query a b := by
  have hattack := canAttackWaiving_withWorld hw hown ha hb
  cases query with
  | plain => exact hattack {}
  | waiving w => exact hattack w
  | now => simp only [allows, canAttackNow, canAttack, hattack]
  | onSight =>
      simp only [allows, canAttackOnSight, canAttack, hattack, isEnemy_withWorld hw hown ha hb]
  | joining => simp only [allows, canJoinInAttacking, canAttack, hattack]

theorem canAttackInCombat_withWorld (ha : v.Apart 2 a d) (hb : v.Apart 2 b d) (w : Waiver) :
    (v.withWorld w').canAttackInCombat w a b = v.canAttackInCombat w a b := by
  have hwar : (v.withWorld w').isAtWarWith? a b = v.isAtWarWith? a b := by
    rw [isAtWarWith?, isAtWarWith?, controller?_withWorld hw hb]
    rfl
  simp only [canAttackInCombat, canAttackWaiving_withWorld hw hown ha hb,
    isFriend_withWorld hw hown ha hb, hwar]

theorem canAttackSpell_withWorld (ha : v.Apart 2 a d) (hb : v.Apart 2 b d)
    (spell : Option Spell) (isArea : Bool) :
    (v.withWorld w').canAttackSpell a b spell isArea = v.canAttackSpell a b spell isArea := by
  have hmayHit : (v.withWorld w').spellMayHitPlayerControlled a b isArea =
      v.spellMayHitPlayerControlled a b isArea := by
    simp only [spellMayHitPlayerControlled, isAtWarWith?, templateOf?_withWorld,
      controller?_withWorld hw ha, controller?_withWorld hw hb, isEnemy_withWorld hw hown ha hb]
    rfl
  simp only [canAttackSpell, canAttackInCombat_withWorld hw hown ha hb, hmayHit]

/-! ### Peaceful dealings -/

theorem canAssist_withWorld (ha : v.Apart 2 a d) (hb : v.Apart 2 b d) :
    (v.withWorld w').canAssist a b = v.canAssist a b := by
  simp only [canAssist, showsPvp, reaction_withWorld hw hown ha hb,
    controller?_withWorld hw ha, controller?_withWorld hw hb, master?_withWorld hw hb]

theorem canCooperate_withWorld (ha : v.Apart 2 a d) (hb : v.Apart 2 b d) :
    (v.withWorld w').canCooperate a b = v.canCooperate a b := by
  simp only [canCooperate, templateOf?_withWorld, canAttack,
    canAttackWaiving_withWorld hw hown ha hb]

theorem canInteract_withWorld (ha : v.Apart 2 a d) (hb : v.Apart 2 b d) :
    (v.withWorld w').canInteract a b = v.canInteract a b := by
  simp only [canInteract, reaction_withWorld hw hown ha hb, reaction_withWorld hw hown hb ha]

theorem grants_withWorld (ha : v.Apart 2 a d) (hb : v.Apart 2 b d) (query : PeaceQuery) :
    (v.withWorld w').grants query a b = v.grants query a b := by
  cases query with
  | friendship => exact isFriend_withWorld hw hown ha hb
  | assistance => exact canAssist_withWorld hw hown ha hb
  | cooperation => exact canCooperate_withWorld hw hown ha hb
  | interaction => exact canInteract_withWorld hw hown ha hb
  | interactionNow =>
      have hmute : (v.withWorld w').isFormMute a = v.isFormMute a := rfl
      simp only [grants, canInteractNow, hmute, canInteract_withWorld hw hown ha hb]

end

end View

/-! ### All questions about units -/

/-- The questions about two units that are answered with yes or no. -/
inductive UnitQuery
  /-- Whether the unit regards the other as an enemy. -/
  | enmity
  | attack (query : AttackQuery)
  /-- Whether the unit may attack the other in the course of a fight. -/
  | fight (w : Waiver)
  /-- Whether the unit may hit the other with a harmful spell. -/
  | harmfulSpell (spell : Option Spell) (isArea : Bool)
  | peace (query : PeaceQuery)
  /-- Whether the unit may hit the other with a helpful spell. -/
  | helpfulSpell (spell : Option Spell)
  | group (party ignoreCharms : Bool)
  | team (ignoreCharms : Bool)
  | guild (ignoreCharms : Bool)
  /-- Whether the unit is trivial to the other. -/
  | triviality
  /-- Whether the unit is a civilian to the other. -/
  | civilian
  /-- Whether the other sees through the stealth of the unit. -/
  | stealth
  /-- Whether the other sees the exact health of the unit. -/
  | health
  /-- Whether the other sees the exact attributes of the unit. -/
  | stats

namespace View

/-- The answer to a question about two units. -/
def affirms (v : View) : UnitQuery → LiveUnit → LiveUnit → Bool
  | .enmity => v.isEnemy
  | .attack query => v.allows query
  | .fight w => v.canAttackInCombat w
  | .harmfulSpell spell isArea => (v.canAttackSpell · · spell isArea)
  | .peace query => v.grants query
  | .helpfulSpell spell => (v.canAssistSpell · · spell)
  | .group party ignoreCharms => (v.isInGroup · · party ignoreCharms)
  | .team ignoreCharms => (v.isInTeam · · ignoreCharms)
  | .guild ignoreCharms => (v.isInGuild · · ignoreCharms)
  | .triviality => LiveUnit.isTrivialFor
  | .civilian => v.isCivilianFor
  | .stealth => v.isStealthVisible
  | .health => v.isHealthVisible
  | .stats => v.areStatsVisible

variable {v : View} {w' : World} {d : EntityId} {a b c : LiveUnit}

section

variable (hw : v.world.DifferAt w' d) (hown : v.world.StoresUnderOwnIds)

include hw hown

theorem affirms_withWorld (ha : v.Apart 2 a d) (hb : v.Apart 2 b d) (query : UnitQuery) :
    (v.withWorld w').affirms query a b = v.affirms query a b := by
  have hgroup := isInGroup_withWorld hw hown ha.of_succ hb.of_succ
  have hteam (ignoreCharms : Bool) :
      (v.withWorld w').isInTeam a b ignoreCharms = v.isInTeam a b ignoreCharms :=
    belongTogether_withWorld hw hown ha.of_succ hb.of_succ fun _ _ => rfl
  have hguild (ignoreCharms : Bool) :
      (v.withWorld w').isInGuild a b ignoreCharms = v.isInGuild a b ignoreCharms :=
    belongTogether_withWorld hw hown ha.of_succ hb.of_succ fun _ _ => rfl
  -- what the configuration selects is the same in both views
  have hconfig : (v.withWorld w').config = v.config := rfl
  cases query with
  | enmity => exact isEnemy_withWorld hw hown ha hb
  | attack query => exact allows_withWorld hw hown ha hb query
  | fight w => exact canAttackInCombat_withWorld hw hown ha hb w
  | harmfulSpell spell isArea => exact canAttackSpell_withWorld hw hown ha hb spell isArea
  | peace query => exact grants_withWorld hw hown ha hb query
  | helpfulSpell spell => exact canAssist_withWorld hw hown ha hb
  | group party ignoreCharms => exact hgroup party ignoreCharms
  | team ignoreCharms => exact hteam ignoreCharms
  | guild ignoreCharms => exact hguild ignoreCharms
  | triviality => rfl
  | civilian => simp only [affirms, isCivilianFor, isEnemy_withWorld hw hown ha hb]
  | stealth =>
      simp only [affirms, isStealthVisible, hconfig, hgroup, canCooperate_withWorld hw hown ha hb]
  | health => simp only [affirms, isHealthVisible, hconfig, hgroup, hteam]
  | stats => simp only [affirms, areStatsVisible, hconfig, hteam]

theorem canAssistInCombatAgainst_withWorld (ha : v.Apart 2 a d) (hb : v.Apart 2 b d)
    (hc : v.Apart 2 c d) :
    (v.withWorld w').canAssistInCombatAgainst a b c = v.canAssistInCombatAgainst a b c := by
  have hmap : (v.withWorld w').world.map = v.world.map := hw.map
  have hjoining : (v.withWorld w').canJoinInAttacking a c = v.canJoinInAttacking a c :=
    allows_withWorld hw hown ha hc .joining
  have honSight : (v.withWorld w').canAttackOnSight a c = v.canAttackOnSight a c :=
    allows_withWorld hw hown ha hc .onSight
  simp only [canAssistInCombatAgainst, hmap, hjoining, honSight, canAssist_withWorld hw hown ha hb]

end

/-- An operation on an entity that some units do not lead to within two steps has no part in what is
answered about them: each is found as it was, regards the others as it did, and every question about
two or three of them has the answer that it had. -/
theorem answers_of_apart {v' : View} {op : Operation} (hown : v.world.StoresUnderOwnIds)
    (hop : op.subject? = some d) (hv' : v' = v.withWorld (v.world.apply op)) :
    (∀ i, d ∉ v.reach 2 i → v'.unit? i = v.unit? i) ∧
    ∀ {a b}, v.Apart 2 a d → v.Apart 2 b d →
      v'.reaction a b = v.reaction a b ∧
      (∀ query, v'.affirms query a b = v.affirms query a b) ∧
      ∀ {c}, v.Apart 2 c d →
        v'.canAssistInCombatAgainst a b c = v.canAssistInCombatAgainst a b c := by
  subst hv'
  have hw : v.world.DifferAt (v.world.apply op) d := World.differAt_apply hop
  refine ⟨fun i hi => ?_, fun ha hb => ⟨?_, ?_, fun hc => ?_⟩⟩
  · refine unit?_withWorld hw ?_
    rintro rfl
    exact hi (mem_reach_self v 2 i)
  · exact reaction_withWorld hw hown ha hb
  · exact affirms_withWorld hw hown ha hb
  · exact canAssistInCombatAgainst_withWorld hw hown ha hb hc

end View

/-- A player of group 0. -/
def captain : LivePlayer :=
  ⟨⟨0⟩, .player, { flags := .only .playerControlled }, { group := some ⟨0⟩ }⟩

/-- A pet of the first player. -/
def steed : LiveUnit :=
  ⟨⟨1⟩, .creature, { flags := .only .playerControlled, owner := some captain.id }, .creature {}⟩

/-- Another player of the group. -/
def scout : LivePlayer :=
  ⟨⟨2⟩, .player, { flags := .only .playerControlled }, { group := some ⟨0⟩ }⟩

/-- A third player of the group. -/
def drummer : LivePlayer :=
  ⟨⟨3⟩, .player, { flags := .only .playerControlled }, { group := some ⟨0⟩ }⟩

/-- The three players, all of them on the list of the group, and the pet. -/
def warband : View :=
  let v := View.ofUnits {} [captain.toUnit, steed, scout.toUnit, drummer.toUnit]
  let group : Group := { members := .ofList [(captain.id, 0), (scout.id, 0), (drummer.id, 1)] }
  { v with world := { v.world with groups := .ofList [(⟨0⟩, group)] } }

/-- The third player leaves the world, and the group with it.  The pet goes on regarding the second
player as a friend, because its owner and that player are still in one group. -/
theorem answers_of_apart_warband :
    warband.world.StoresUnderOwnIds ∧
      (Operation.despawn drummer.id).subject? = some drummer.id ∧
      warband.Apart 2 steed drummer.id ∧ warband.Apart 2 scout.toUnit drummer.id ∧
      warband.isInGroup steed drummer.toUnit false false = true ∧
      (warband.withWorld (warband.world.apply (.despawn drummer.id))).reaction steed scout.toUnit =
        .friendly ∧
      (warband.withWorld (warband.world.apply (.despawn drummer.id))).affirms (.group false false)
        steed scout.toUnit = true := by
  let v := View.ofUnits {} [captain.toUnit, steed, scout.toUnit, drummer.toUnit]
  -- the groups have no part in where entities are stored
  have horderly : v.world.Orderly := World.orderly_ofBodies (by decide)
  have hown : warband.world.StoresUnderOwnIds := fun _ _ he => horderly.own_id he
  have hsteed : warband.Apart 2 steed drummer.id := ⟨steed.id, rfl, by decide⟩
  have hscout : warband.Apart 2 scout.toUnit drummer.id := ⟨scout.id, rfl, by decide⟩
  have hgone : (Operation.despawn drummer.id).subject? = some drummer.id := rfl
  obtain ⟨-, hsame⟩ := View.answers_of_apart hown hgone rfl
  obtain ⟨hreaction, hanswers, -⟩ := hsame hsteed hscout
  have hgroup : warband.affirms (.group false false) steed scout.toUnit = true := rfl
  exact ⟨hown, hgone, hsteed, hscout, rfl, hreaction.trans rfl,
    (hanswers (.group false false)).trans hgroup⟩

end Rapport
