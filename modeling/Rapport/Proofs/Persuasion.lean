import Rapport.Proofs.Matching
import Rapport.Proofs.Membership.Partition

/-!
# Persuasion is a nudge

A unit is persuaded in everybody's eyes by a flag of its own, or in the eyes of one unit by a link
from that unit (`Persuasion`).  Either way little comes of it.  No reaction changes but those that
the change concerns, and these stay or go up by one rank.  The step is taken from unfriendly,
neutral or friendly only, so no enemy is won or lost and no friend is lost, and whatever may be
attacked afterwards could be attacked before (`View.persuasion_nudges`).

Groups stay out of it as long as players count as players: among creatures groups go by friendship,
and so a player who counts as a creature could be persuaded into one.
-/

namespace Rapport

/-! ### One step up -/

/-- The second rank is one step above the first, which is unfriendly, neutral or friendly. -/
def Rank.RaisedTo (r r' : Rank) : Prop :=
  (r = .unfriendly ∨ r = .neutral ∨ r = .friendly) ∧ r'.tier = r.tier + 1

theorem Rank.raisedTo_friendlier {r : Rank} (hlow : .hostile < r) (hhigh : r < .honored) :
    r.RaisedTo r.friendlier := by
  rw [Rank.lt_iff_tier_lt] at hlow hhigh
  have htier : Rank.hostile.tier = 1 ∧ Rank.honored.tier = 5 := ⟨rfl, rfl⟩
  have hraised := r.tier_friendlier
  refine ⟨?_, by omega⟩
  cases r <;> simp [Rank.tier] at hlow hhigh ⊢

theorem Rank.RaisedTo.isEnemy_eq {r r' : Rank} (h : r.RaisedTo r') : r'.isEnemy = r.isEnemy := by
  obtain ⟨hr, htier⟩ := h
  have hunfriendly : Rank.unfriendly.tier = 2 := rfl
  rw [Bool.eq_iff_iff, Rank.isEnemy_iff, Rank.isEnemy_iff, Rank.lt_iff_tier_lt, Rank.lt_iff_tier_lt]
  rcases hr with rfl | rfl | rfl <;> simp only [Rank.tier] at htier ⊢ <;> omega

theorem Rank.RaisedTo.le {r r' : Rank} (h : r.RaisedTo r') : r ≤ r' := by
  rw [Rank.le_iff_tier_le, h.2]
  exact Nat.le_succ _

/-! ### Changes that persuade -/

/-- A change that makes a unit persuaded. -/
inductive Persuasion
  /-- The unit stored under the number is flagged, and so persuaded in everybody's eyes. -/
  | flagged (t : EntityId)
  /-- The unit stored under `k` comes to persuade the unit with the number `t`, which then is
  persuaded in its eyes. -/
  | linked (k t : EntityId)

namespace Persuasion

/-- Where the unit is stored that is changed. -/
def subject : Persuasion → EntityId
  | .flagged t => t
  | .linked k _ => k

/-- What the change does to that unit. -/
def edit : Persuasion → UnitState → UnitState
  | .flagged _, u => { u with flags := u.flags.insert .persuaded }
  | .linked _ t, u => { u with persuaded := some t }

/-- Whether the change concerns how the unit stored under `i` regards `b`, which is stored under
`j`. -/
def Concerns : Persuasion → EntityId → EntityId → LiveUnit → Prop
  | .flagged t, _, j, _ => j = t
  | .linked k t, i, _, b => i = k ∧ b.id = t

end Persuasion

namespace View

/-- The view after somebody has been persuaded. -/
def persuade (v : View) (c : Persuasion) : View :=
  { v with world := v.world.modifyUnit c.subject c.edit }

/-- A unit that comes to persuade somebody has persuaded nobody before. -/
def IsFree (v : View) : Persuasion → Prop
  | .flagged _ => True
  | .linked k _ => ∀ u, v.unit? k = some u → u.state.persuaded = none

end View

/-- The unit stored under `i` as it is after the change. -/
def LiveUnit.after (c : Persuasion) (i : EntityId) (u : LiveUnit) : LiveUnit :=
  if c.subject = i then { u with state := c.edit u.state } else u

theorem Persuasion.has_edit {c : Persuasion} {u : UnitState} {f : UnitFlag} (hf : f ≠ .persuaded) :
    (c.edit u).flags.has f = u.flags.has f := by
  cases c with
  | flagged t => exact FlagSet.has_insert_of_apart (UnitFlag.bits_apart hf)
  | linked k t => rfl

namespace LiveUnit

variable {c : Persuasion} {i : EntityId} {a : LiveUnit}

/-- The unit is flagged as persuaded, or it is the one that `a` persuades. -/
def IsMarkedFor (b a : LiveUnit) : Prop :=
  b.state.flags.has .persuaded = true ∨ a.state.persuaded = some b.id

theorem after_of_eq (hi : c.subject = i) : a.after c i = { a with state := c.edit a.state } :=
  if_pos hi

theorem after_of_ne (hi : c.subject ≠ i) : a.after c i = a := if_neg hi

theorem has_after {f : UnitFlag} (hf : f ≠ .persuaded) :
    (a.after c i).state.flags.has f = a.state.flags.has f := by
  unfold after
  split
  · exact Persuasion.has_edit hf
  · rfl

theorem matches_after : a.Matches (a.after c i) := by
  have hflags : ∀ f, f ∉ incidentalFlags →
      (a.after c i).state.flags.has f = a.state.flags.has f := by
    rintro f hf
    exact has_after fun hpersuaded => hf (hpersuaded ▸ List.mem_cons_self)
  revert hflags
  unfold after
  split
  · cases c <;> exact fun hflags => ⟨rfl, rfl, rfl, rfl, rfl, rfl, hflags⟩
  · exact fun hflags => ⟨rfl, rfl, rfl, rfl, rfl, rfl, hflags⟩

theorem isImmuneTo_after {j : EntityId} {b : LiveUnit} :
    (a.after c i).isImmuneTo (b.after c j) = a.isImmuneTo b := by
  have himmunity : b.immunityFlag ≠ .persuaded := by
    unfold immunityFlag
    split <;> decide
  have hflag : (b.after c j).immunityFlag = b.immunityFlag := by
    rw [immunityFlag, immunityFlag, matches_after.controlled]
  rw [isImmuneTo, isImmuneTo, hflag, has_after himmunity]

end LiveUnit

namespace View

variable {v v' : View} {c : Persuasion} {i j : EntityId} {a a' b b' : LiveUnit}

theorem unit?_persuade : (v.persuade c).unit? i = (v.unit? i).map (·.after c i) := by
  have hget : (v.persuade c).world.get? i =
      if c.subject = i then (v.world.get? i).map (Entity.mapBody (Body.mapUnit c.edit))
      else v.world.get? i := World.get?_modifyBody
  rw [unit?, unit?, hget]
  unfold LiveUnit.after
  split
  · cases v.world.get? i with
    | none => rfl
    | some e =>
        obtain ⟨_, _, body⟩ := e
        cases body <;> rfl
  · exact Option.map_id'.symm

theorem matches_persuade : v.Matches (v.persuade c) := by
  refine ⟨⟨rfl, rfl⟩, fun id => ?_⟩
  rw [unit?_persuade]
  cases v.unit? id with
  | none => exact .none
  | some a => exact .some LiveUnit.matches_after

/-- Players are in the same groups in views that match, if they count as players. -/
theorem Matches.agreeOnGroups (hv : v.Matches v') (hkinds : v.world.KindsMatch) :
    v.AgreeOnGroups v' := by
  intro p p' q q' hp hq
  have hcounts : p.kind = .player := by
    obtain ⟨_, hstored, -⟩ := hp
    exact kind_of_player? hkinds (player?_eq_some_iff.2 hstored)
  have hcounts' : p'.kind = .player := (hv.unit hp).kind.trans hcounts
  rw [isInGroup_of_kind_eq_player hcounts', isInGroup_of_kind_eq_player hcounts]
  refine belongTogether_rel (S := v.PlayerCounterparts v') (hv.unit hp).id (hv.unit hq).id
    (hv.controllers? hp hq) ?_
  intro p p' q q' hp hq
  have hp := (hv.player hp).resembles
  have hq := (hv.player hq).resembles
  rw [hp.id, hq.id, shareGroup_congr hv.toSameSetting hp hq]

/-! ### Who is persuaded -/

/-- The faction of a unit is one that players earn a standing with. -/
def HasReputationFaction (v : View) (b : LiveUnit) : Prop :=
  ∃ t f, v.templateOf? b = some t ∧ v.data.reputationFactionOf? t = some f

theorem isPersuaded_iff :
    v.isPersuaded a b = true ↔ b.IsMarkedFor a ∧ v.HasReputationFaction b := by
  rw [isPersuaded, Bool.and_eq_true, Bool.or_eq_true, beq_iff_eq, Option.isSome_iff_exists]
  simp only [Option.bind_eq_some_iff, HasReputationFaction]
  exact and_congr_right fun _ => exists_comm.trans (by simp only [exists_and_left])

/-- After a change those are marked whom it concerns, besides those who were marked before. -/
theorem isMarkedFor_after_iff (hfree : v.IsFree c) (ha : v.unit? i = some a) :
    (b.after c j).IsMarkedFor (a.after c i) ↔ c.Concerns i j b ∨ b.IsMarkedFor a := by
  have hid : (b.after c j).id = b.id := LiveUnit.matches_after.id
  unfold LiveUnit.IsMarkedFor
  rw [hid]
  cases c with
  | flagged t =>
      have hlink : (a.after (.flagged t) i).state.persuaded = a.state.persuaded := by
        unfold LiveUnit.after
        split <;> rfl
      rw [hlink]
      by_cases hj : t = j
      · have hflag : (b.after (.flagged t) j).state.flags.has .persuaded = true := by
          rw [LiveUnit.after_of_eq (c := .flagged t) hj]
          exact FlagSet.has_insert_self
        exact iff_of_true (Or.inl hflag) (Or.inl hj.symm)
      · have hconcerns : ¬ (Persuasion.flagged t).Concerns i j b := Ne.symm hj
        rw [LiveUnit.after_of_ne (c := .flagged t) hj, or_iff_right hconcerns]
  | linked k t =>
      have hflags : (b.after (.linked k t) j).state.flags = b.state.flags := by
        unfold LiveUnit.after
        split <;> rfl
      rw [hflags]
      by_cases hi : k = i
      · have hlink : (a.after (.linked k t) i).state.persuaded = some t := by
          rw [LiveUnit.after_of_eq (c := .linked k t) hi]
          rfl
        -- the link is new, so the unit was linked to nobody
        have hnone : a.state.persuaded = none := hfree a (hi ▸ ha)
        rw [hlink, hnone]
        constructor
        · rintro (hflag | hlinked)
          · exact Or.inr (Or.inl hflag)
          · exact Or.inl ⟨hi.symm, (Option.some.inj hlinked).symm⟩
        · rintro (⟨-, rfl⟩ | hflag | hlinked)
          · exact Or.inr rfl
          · exact Or.inl hflag
          · contradiction
      · have hconcerns : ¬ (Persuasion.linked k t).Concerns i j b := fun h => hi h.1.symm
        rw [LiveUnit.after_of_ne (c := .linked k t) hi, or_iff_right hconcerns]

/-! ### Reactions -/

theorem afterPersuasion_of_not_isPersuaded {r : Rank} (h : v.isPersuaded a b = false) :
    v.afterPersuasion a b r = r := by
  simp [afterPersuasion, h]

theorem afterPersuasion_eq_or_raisedTo (v : View) (a b : LiveUnit) (r : Rank) :
    v.afterPersuasion a b r = r ∨ r.RaisedTo (v.afterPersuasion a b r) := by
  unfold afterPersuasion
  split
  next hrange => exact Or.inr (Rank.raisedTo_friendlier hrange.1 hrange.2.1)
  next => exact Or.inl rfl

/-- In views that match, whoever is persuaded in one of them besides is regarded as before or one
rank better. -/
theorem Matches.reaction_eq_or_raisedTo (hv : v.Matches v') (hgroups : v.AgreeOnGroups v')
    (ha : v.Counterparts v' a a') (hb : v.Counterparts v' b b')
    (hpersuaded : v.isPersuaded a b = true → v'.isPersuaded a' b' = true) :
    v'.reaction a' b' = v.reaction a b ∨
      (v.reaction a b).RaisedTo (v'.reaction a' b') ∧ v'.isPersuaded a' b' = true := by
  by_cases hsame : v'.isPersuaded a' b' = v.isPersuaded a b
  · exact Or.inl (hv.reaction_eq hgroups ha hb hsame)
  · have hbefore : v.isPersuaded a b = false := by
      rw [← Bool.not_eq_true]
      exact fun h => hsame ((hpersuaded h).trans h.symm)
    have hafter : v'.isPersuaded a' b' = true := by
      rwa [hbefore, Bool.not_eq_false] at hsame
    rw [reaction_eq_getD, reaction_eq_getD, hv.beforeTemplate?_eq hgroups ha hb,
      reactionByTemplate, reactionByTemplate, hv.templateReactionToUnit_eq ha hb,
      afterPersuasion_of_not_isPersuaded hbefore]
    cases v.beforeTemplate? a b with
    | some r => exact Or.inl rfl
    | none =>
        refine (v'.afterPersuasion_eq_or_raisedTo a' b' _).imp id ?_
        exact fun hraised => ⟨hraised, hafter⟩

section

variable (hkinds : v.world.KindsMatch) (hfree : v.IsFree c) (ha : v.unit? i = some a)
  (ha' : (v.persuade c).unit? i = some a') (hb : v.unit? j = some b)
  (hb' : (v.persuade c).unit? j = some b')

include ha ha'

omit hb hb' in
theorem eq_after : a' = a.after c i := by
  rw [unit?_persuade, ha] at ha'
  exact (Option.some.inj ha').symm

include hfree hb hb'

/-- After a change those are persuaded whom it concerns, besides those who were before, as far as
players earn a standing with their factions. -/
theorem isPersuaded_persuade_iff :
    (v.persuade c).isPersuaded a' b' = true ↔
      (c.Concerns i j b ∨ b.IsMarkedFor a) ∧ v.HasReputationFaction b := by
  have hfaction : (v.persuade c).HasReputationFaction b' ↔ v.HasReputationFaction b := by
    have htemplate := matches_persuade.templateOf?_eq ⟨j, hb, hb'⟩
    rw [HasReputationFaction, HasReputationFaction, htemplate]
    rfl
  rw [isPersuaded_iff, hfaction, eq_after ha ha', eq_after hb hb', isMarkedFor_after_iff hfree ha]

include hkinds

/-- Whom a change does not concern they regard as before. -/
theorem reaction_persuade_of_not_concerns (hconcerns : ¬ c.Concerns i j b) :
    (v.persuade c).reaction a' b' = v.reaction a b := by
  have hv : v.Matches (v.persuade c) := matches_persuade
  refine hv.reaction_eq (hv.agreeOnGroups hkinds) ⟨i, ha, ha'⟩ ⟨j, hb, hb'⟩ ?_
  rw [Bool.eq_iff_iff, isPersuaded_persuade_iff hfree ha ha' hb hb', or_iff_right hconcerns,
    isPersuaded_iff]

theorem reaction_persuade :
    (v.persuade c).reaction a' b' = v.reaction a b ∨
      (v.reaction a b).RaisedTo ((v.persuade c).reaction a' b') ∧ v.HasReputationFaction b := by
  have hv : v.Matches (v.persuade c) := matches_persuade
  have hafter := isPersuaded_persuade_iff hfree ha ha' hb hb'
  have hkept : v.isPersuaded a b = true → (v.persuade c).isPersuaded a' b' = true := by
    rw [isPersuaded_iff, hafter]
    exact And.imp_left Or.inr
  have hnudge :=
    hv.reaction_eq_or_raisedTo (hv.agreeOnGroups hkinds) ⟨i, ha, ha'⟩ ⟨j, hb, hb'⟩ hkept
  exact hnudge.imp id fun ⟨hraised, hpersuaded⟩ => ⟨hraised, (hafter.1 hpersuaded).2⟩

theorem isEnemy_persuade : (v.persuade c).isEnemy a' b' = v.isEnemy a b := by
  rcases reaction_persuade hkinds hfree ha ha' hb hb' with hsame | ⟨hraised, -⟩
  · exact congrArg Rank.isEnemy hsame
  · exact hraised.isEnemy_eq

theorem isFriend_persuade (h : v.isFriend a b = true) : (v.persuade c).isFriend a' b' = true := by
  rcases reaction_persuade hkinds hfree ha ha' hb hb' with hsame | ⟨hraised, -⟩
  · rwa [isFriend, hsame]
  · exact Rank.isFriend_of_le hraised.le h

theorem canAttack_persuade (h : (v.persuade c).canAttack a' b' = true) :
    v.canAttack a b = true := by
  have hv : v.Matches (v.persuade c) := matches_persuade
  have hcounterA : v.Counterparts (v.persuade c) a a' := ⟨i, ha, ha'⟩
  have hcounterB : v.Counterparts (v.persuade c) b b' := ⟨j, hb, hb'⟩
  have hforth := isEnemy_persuade hkinds hfree ha ha' hb hb'
  have hback := isEnemy_persuade hkinds hfree hb hb' ha ha'
  have hveto : a'.attackVeto {} b' = a.attackVeto {} b := by
    rw [eq_after ha ha', eq_after hb hb']
    exact LiveUnit.matches_after.attackVeto_eq LiveUnit.matches_after
      (Or.inr ⟨LiveUnit.isImmuneTo_after, LiveUnit.isImmuneTo_after⟩)
  exact canAttackWaiving_of_answers (hv.unit hcounterA).controlled (hv.unit hcounterB).controlled
    hveto (hv.hasReasonToFight_eq hcounterA hcounterB)
    (isFriend_persuade hkinds hfree ha ha' hb hb') hforth.symm.trans hback.symm.trans h

end

/-- Persuading a unit changes no reaction that it does not concern.  What it changes goes up by one
rank, from unfriendly, neutral or friendly, toward units whose faction players earn a standing with.
Enemies stay enemies and nobody becomes one, and no attack becomes possible. -/
theorem persuasion_nudges (hkinds : v.world.KindsMatch) (hfree : v.IsFree c) :
    (∀ id, ((v.persuade c).unit? id).isSome = (v.unit? id).isSome) ∧
    ∀ {i j a a' b b'}, v.unit? i = some a → (v.persuade c).unit? i = some a' →
      v.unit? j = some b → (v.persuade c).unit? j = some b' →
      (¬ c.Concerns i j b → (v.persuade c).reaction a' b' = v.reaction a b) ∧
      ((v.persuade c).reaction a' b' = v.reaction a b ∨
        (v.reaction a b).RaisedTo ((v.persuade c).reaction a' b') ∧ v.HasReputationFaction b) ∧
      (v.persuade c).isEnemy a' b' = v.isEnemy a b ∧
      ((v.persuade c).canAttack a' b' = true → v.canAttack a b = true) := by
  refine ⟨fun id => isSome_unit?_eq_of_rel (matches_persuade.units id), ?_⟩
  intro i j a a' b b' ha ha' hb hb'
  refine ⟨?_, ?_, ?_, ?_⟩
  · exact reaction_persuade_of_not_concerns hkinds hfree ha ha' hb hb'
  · exact reaction_persuade hkinds hfree ha ha' hb hb'
  · exact isEnemy_persuade hkinds hfree ha ha' hb hb'
  · exact canAttack_persuade hkinds hfree ha ha' hb hb'

end View

/-- A creature, and the same creature when it persuades the broker. -/
def watchman (link : Option EntityId) : LiveUnit :=
  ⟨⟨0⟩, .creature, { factionTemplate := 1, persuaded := link }, .creature {}⟩

/-- A creature of faction 21, flagged as persuaded or not. -/
def broker (flags : FlagSet UnitFlag) : LiveUnit :=
  ⟨⟨1⟩, .creature, { factionTemplate := 120, flags }, .creature {}⟩

/-- The watchman and the broker, of whom neither is persuaded. -/
def bazaar : View := .ofUnits frontierData [watchman none, broker ∅]

/-- The watchman is neutral toward the broker and friendly once the broker is persuaded, be it in
the eyes of the watchman or of everybody.  The broker still regards the watchman as before. -/
theorem persuasion_nudges_bazaar :
    bazaar.world.KindsMatch ∧ bazaar.IsFree (.linked ⟨0⟩ ⟨1⟩) ∧ bazaar.IsFree (.flagged ⟨1⟩) ∧
      bazaar.reaction (watchman none) (broker ∅) = .neutral ∧
      (bazaar.persuade (.linked ⟨0⟩ ⟨1⟩)).reaction (watchman (some ⟨1⟩)) (broker ∅) = .friendly ∧
      (bazaar.persuade (.linked ⟨0⟩ ⟨1⟩)).isEnemy (watchman (some ⟨1⟩)) (broker ∅) = false ∧
      (bazaar.persuade (.flagged ⟨1⟩)).reaction (watchman none) (broker (.only .persuaded)) =
        .friendly ∧
      (bazaar.persuade (.flagged ⟨1⟩)).reaction (broker (.only .persuaded)) (watchman none) =
        .neutral := by
  have horderly : bazaar.world.Orderly := World.orderly_ofBodies (by decide)
  have hwatchman : bazaar.unit? ⟨0⟩ = some (watchman none) := rfl
  have hbroker : bazaar.unit? ⟨1⟩ = some (broker ∅) := rfl
  have hfree : bazaar.IsFree (.linked ⟨0⟩ ⟨1⟩) := by
    intro u hu
    obtain rfl : watchman none = u := Option.some.inj (hwatchman.symm.trans hu)
    rfl
  have hlinked : (bazaar.persuade (.linked ⟨0⟩ ⟨1⟩)).unit? ⟨0⟩ = some (watchman (some ⟨1⟩)) := rfl
  have hnudges := (View.persuasion_nudges horderly.kindsMatch hfree).2 hwatchman hlinked hbroker rfl
  have hflag : bazaar.IsFree (.flagged ⟨1⟩) := trivial
  have hflagged : (bazaar.persuade (.flagged ⟨1⟩)).unit? ⟨1⟩ =
      some (broker (.only .persuaded)) := rfl
  have hothers :=
    (View.persuasion_nudges horderly.kindsMatch hflag).2 hbroker hflagged hwatchman rfl
  have hne : (⟨0⟩ : EntityId) ≠ ⟨1⟩ := by decide
  exact ⟨horderly.kindsMatch, hfree, hflag, rfl, rfl, hnudges.2.2.1, rfl, hothers.1 hne⟩

end Rapport
