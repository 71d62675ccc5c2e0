import Rapport.Proofs.Attack
import Rapport.Proofs.Comparison
import Rapport.Proofs.Standing

/-!
# Better and worse reputations

Reputations are compared in two steps.  One is no higher than another if the same ranks are forced
and nowhere more has been earned (`Reputation.NoHigher`), and it is no better if it is at war with
everyone besides that the other is at war with (`Reputation.NoBetter`).

Two views between which nothing differs but reputations (`View.UpToReputation`) give the same
answers about control, duels and membership; a change of one player's reputation leads from one such
view to another (`View.upToReputation_withReputation`).  Reactions follow the reputations: where no
player has a better one in the first view, no unit regards another better there
(`View.reaction_mono`), and whatever attack is allowed in the second view is allowed in the first
(`View.allows_of_noBetter`).
-/

namespace Rapport

theorem and_mono {c c' q q' : Bool} (hc : c = true → c' = true) (hq : q = true → q' = true)
    (h : (c && q) = true) : (c' && q') = true := by
  rw [Bool.and_eq_true] at h ⊢
  exact ⟨hc h.1, hq h.2⟩

/-! ### Reputations -/

namespace Reputation

variable {r r' : Reputation}

/-- What has been earned with a faction, nothing if there is no entry for it. -/
def earnedWith (r : Reputation) (faction : FactionId) : Standing :=
  (r.earned.get? faction).getD 0

/-- The same ranks are forced, and nowhere has more been earned. -/
structure NoHigher (r r' : Reputation) : Prop where
  forced : r'.forcedRanks = r.forcedRanks
  earned : ∀ faction, r.earnedWith faction ≤ r'.earnedWith faction

/-- A reputation that is no higher, and at war with everyone that the other is at war with. -/
structure NoBetter (r r' : Reputation) : Prop extends r.NoHigher r' where
  war : ∀ f, r'.isAtWar f = true → r.isAtWar f = true

theorem noBetter_refl (r : Reputation) : r.NoBetter r where
  forced := rfl
  earned _ := Int32.le_refl _
  war _ h := h

theorem toInt_standing (r : Reputation) (f : Faction) :
    (r.standing f).toInt = Standing.clamp (f.baseStanding.toInt + (r.earnedWith f.id).toInt) :=
  Standing.toInt_add _ _

theorem NoHigher.rank_le (h : r.NoHigher r') (f : Faction) : r.rank f ≤ r'.rank f :=
  Rank.ofStanding_mono (Standing.add_le_add_left (h.earned f.id) f.baseStanding)

theorem NoHigher.forcedRank?_eq (h : r.NoHigher r') (t : FactionTemplate) :
    r'.forcedRank? t = r.forcedRank? t := by
  rw [forcedRank?, forcedRank?, h.forced]

end Reputation

/-! ### Players and units -/

/-- Two states of one player between which nothing differs but the reputation, and that as `R`
says. -/
inductive LivePlayer.UpToReputation (R : Reputation → Reputation → Prop) :
    LivePlayer → LivePlayer → Prop
  | intro {p : LivePlayer} {r : Reputation} : R p.state.reputation r →
      UpToReputation R p { p with state := { p.state with reputation := r } }

/-- Two states of one unit between which nothing differs but the reputation of a player, and that as
`R` says. -/
inductive LiveUnit.UpToReputation (R : Reputation → Reputation → Prop) :
    LiveUnit → LiveUnit → Prop
  | player {id : EntityId} {kind : Kind} {state : UnitState} {p : PlayerState} {r : Reputation} :
      R p.reputation r →
      UpToReputation R ⟨id, kind, state, .player p⟩
        ⟨id, kind, state, .player { p with reputation := r }⟩
  | creature {id : EntityId} {kind : Kind} {state : UnitState} {c : CreatureState} :
      UpToReputation R ⟨id, kind, state, .creature c⟩ ⟨id, kind, state, .creature c⟩

namespace LivePlayer.UpToReputation

variable {R : Reputation → Reputation → Prop} {p p' q q' : LivePlayer}

theorem resembles (h : UpToReputation R p p') : p.Resembles p' := by
  cases h
  exact ⟨rfl, rfl, rfl, rfl⟩

theorem reputation (h : UpToReputation R p p') : R p.state.reputation p'.state.reputation := by
  cases h with
  | intro hr => exact hr

theorem isContested_eq (h : UpToReputation R p p') : p'.isContested = p.isContested := by
  cases h
  rfl

theorem toUnit (h : UpToReputation R p p') : p.toUnit.UpToReputation R p'.toUnit := by
  cases h with
  | intro hr => exact .player hr

theorem hasReasonToFight_eq (hp : UpToReputation R p p') (hq : UpToReputation R q q') :
    p'.hasReasonToFight q' = p.hasReasonToFight q := by
  cases hp
  cases hq
  rfl

theorem mayHelp_eq (hp : UpToReputation R p p') (hq : UpToReputation R q q') :
    p'.mayHelp q' = p.mayHelp q := by
  cases hp
  cases hq
  rfl

end LivePlayer.UpToReputation

namespace LiveUnit.UpToReputation

variable {R : Reputation → Reputation → Prop} {a a' b b' : LiveUnit}

theorem refl (hrefl : ∀ r, R r r) (u : LiveUnit) : UpToReputation R u u := by
  obtain ⟨_, _, _, role⟩ := u
  cases role with
  | player p => exact .player (hrefl p.reputation)
  | creature => exact .creature

theorem id_eq (h : UpToReputation R a a') : a'.id = a.id := by
  cases h <;> rfl

theorem state_eq (h : UpToReputation R a a') : a'.state = a.state := by
  cases h <;> rfl

theorem isPlayerControlled_eq (h : UpToReputation R a a') :
    a'.isPlayerControlled = a.isPlayerControlled := by
  cases h <;> rfl

theorem isGhost_eq (h : UpToReputation R a a') : a'.isGhost = a.isGhost := by
  cases h <;> rfl

theorem player? (h : UpToReputation R a a') :
    Option.Rel (LivePlayer.UpToReputation R) a.player? a'.player? := by
  cases h with
  | player hr => exact .some (.intro hr)
  | creature => exact .none

theorem resembles (h : UpToReputation R a a') : a.Resembles a' := by
  have hplayer : Option.Rel LivePlayer.Resembles a.player? a'.player? := by
    cases h with
    | player hr => exact .some ⟨rfl, rfl, rfl, rfl⟩
    | creature => exact .none
  cases h <;> exact ⟨rfl, rfl, rfl, rfl, rfl, rfl, hplayer⟩

theorem attackVeto_eq (ha : UpToReputation R a a') (hb : UpToReputation R b b') (w : Waiver) :
    a'.attackVeto w b' = a.attackVeto w b := by
  cases ha <;> cases hb <;> rfl

end LiveUnit.UpToReputation

/-! ### Entities -/

/-- The entity with its reputation changed, if it is a player. -/
def Entity.withReputation (e : Entity) (f : Reputation → Reputation) : Entity :=
  e.mapBody (Body.mapPlayer fun p => { p with reputation := f p.reputation })

theorem Entity.withReputation_self (e : Entity) : e.withReputation (fun r => r) = e := by
  obtain ⟨_, _, body⟩ := e
  cases body with
  | unit state role => cases role <;> rfl
  | _ => rfl

theorem Entity.unit?_withReputation_rel {R : Reputation → Reputation → Prop}
    {f g : Reputation → Reputation} (hfg : ∀ r, R (f r) (g r)) (e : Entity) :
    Option.Rel (LiveUnit.UpToReputation R) (e.withReputation f).unit?
      (e.withReputation g).unit? := by
  obtain ⟨_, _, body⟩ := e
  cases body with
  | unit state role =>
      cases role with
      | player p => exact .some (.player (hfg p.reputation))
      | creature c => exact .some .creature
  | _ => exact .none

namespace View

/-- Two views between which nothing differs but reputations, and these as `R` says. -/
structure UpToReputation (R : Reputation → Reputation → Prop) (v v' : View) : Prop
    extends v.SameSetting v' where
  units : ∀ id, Option.Rel (LiveUnit.UpToReputation R) (v.unit? id) (v'.unit? id)

variable {R : Reputation → Reputation → Prop} {v v' : View} {a a' b b' : LiveUnit}
  {p p' q q' : LivePlayer}

/-! ### A change of one reputation -/

section

variable {id k : EntityId} {f g : Reputation → Reputation}

/-- The view with the reputation of one player changed, if there is such a player. -/
def withReputation (v : View) (id : EntityId) (f : Reputation → Reputation) : View :=
  { v with world := v.world.modifyPlayer id fun p => { p with reputation := f p.reputation } }

theorem get?_withReputation : (v.withReputation id f).world.get? k =
    if id = k then (v.world.get? k).map (·.withReputation f) else v.world.get? k :=
  World.get?_modifyBody

/-- Two changes of one reputation lead to views between which nothing else differs. -/
theorem upToReputation_withReputation (hrefl : ∀ r, R r r) (hfg : ∀ r, R (f r) (g r)) :
    UpToReputation R (v.withReputation id f) (v.withReputation id g) := by
  refine ⟨⟨rfl, rfl⟩, fun k => ?_⟩
  rw [unit?, unit?, get?_withReputation, get?_withReputation]
  by_cases hk : id = k
  · rw [if_pos hk, if_pos hk]
    cases v.world.get? k with
    | none => exact .none
    | some e => exact e.unit?_withReputation_rel hfg
  · rw [if_neg hk, if_neg hk]
    exact .refl (LiveUnit.UpToReputation.refl hrefl) _

theorem withReputation_self (v : View) (id : EntityId) : v.withReputation id (fun r => r) = v := by
  have hget (k : EntityId) :
      (v.withReputation id fun r => r).world.get? k = v.world.get? k := by
    rw [get?_withReputation]
    cases v.world.get? k with
    | none => exact ite_self _
    | some e => rw [Option.map_some, e.withReputation_self, ite_self]
  have hentities : (v.withReputation id fun r => r).world.entities = v.world.entities :=
    Keyed.ext_get? hget
  exact congrArg (fun entities => { v with world := { v.world with entities } }) hentities

theorem isSome_unit?_withReputation :
    ((v.withReputation id f).unit? k).isSome = (v.unit? k).isSome := by
  have hviews : UpToReputation (fun _ _ => True) v (v.withReputation id f) := by
    have hchanged : UpToReputation (fun _ _ => True) (v.withReputation id fun r => r)
        (v.withReputation id f) := upToReputation_withReputation (fun _ => trivial) fun _ => trivial
    rwa [withReputation_self] at hchanged
  exact isSome_unit?_eq_of_rel (hviews.units k)

theorem player?_withReputation (hp : v.player? id = some p) :
    (v.withReputation id f).player? id =
      some { p with state := { p.state with reputation := f p.state.reputation } } := by
  obtain ⟨e, he, hunit⟩ := Option.bind_eq_some_iff.1 (player?_eq_some_iff.1 hp)
  rw [player?, unit?, get?_withReputation, if_pos rfl, he]
  obtain ⟨_, _, body⟩ := e
  cases body with
  | unit state role =>
      cases hunit
      rfl
  | _ => contradiction

theorem gameObject?_withReputation : (v.withReputation id f).gameObject? k = v.gameObject? k := by
  rw [gameObject?, gameObject?, object?, object?, get?_withReputation]
  by_cases hk : id = k
  · rw [if_pos hk]
    cases v.world.get? k with
    | none => rfl
    | some e =>
        obtain ⟨_, _, body⟩ := e
        cases body with
        | unit state role => cases role <;> rfl
        | _ => rfl
  · rw [if_neg hk]

end

/-! ### What reputation has no part in -/

section

variable (hv : UpToReputation R v v') (ha : a.UpToReputation R a') (hb : b.UpToReputation R b')

include hv

theorem UpToReputation.linked (link : Option EntityId) :
    Option.Rel (LiveUnit.UpToReputation R) (link.bind v.unit?) (link.bind v'.unit?) := by
  cases link with
  | none => exact .none
  | some id => exact hv.units id

theorem UpToReputation.controller? (ha : a.UpToReputation R a') :
    Option.Rel (LivePlayer.UpToReputation R) (v.controller? a false) (v'.controller? a' false) := by
  refine controller?_rel (fun id => (hv.units id).bind fun h => h.player?) ha.player? ?_
  rw [ha.state_eq]

theorem UpToReputation.isInGroup_eq (ha : a.UpToReputation R a') (hb : b.UpToReputation R b')
    (party : Bool) : v'.isInGroup a' b' party false = v.isInGroup a b party false :=
  isInGroup_congr ha.resembles hb.resembles
    ((hv.controller? ha).mono fun h => h.resembles)
    ((hv.controller? hb).mono fun h => h.resembles) hv.toSameSetting party

/-- What two players decide between themselves has nothing to do with reputation. -/
theorem UpToReputation.betweenPlayers?_eq (hp : p.UpToReputation R p')
    (hq : q.UpToReputation R q') : v'.betweenPlayers? p' q' = v.betweenPlayers? p q := by
  have hgroup : v'.isInGroup p'.toUnit q'.toUnit false false =
      v.isInGroup p.toUnit q.toUnit false false :=
    hv.isInGroup_eq hp.toUnit hq.toUnit false
  unfold betweenPlayers?
  rw [hgroup]
  cases hp
  cases hq
  rfl

end

/-! ### Templates -/

/-- What the reputation of a player makes of a template follows the reputation. -/
theorem reputationReaction?_rel (hv : UpToReputation R v v')
    (hR : ∀ {r r'}, R r r' → r.NoHigher r') (hb : b.UpToReputation R b') (t : FactionTemplate) :
    Option.Rel LE.le (v.reputationReaction? t b) (v'.reputationReaction? t b') := by
  unfold reputationReaction?
  rw [hb.isPlayerControlled_eq, hv.data]
  split
  next =>
    refine (hv.controller? hb).bind ?_
    intro q q' hq
    have hr : q.state.reputation.NoHigher q'.state.reputation := hR hq.reputation
    rw [hq.isContested_eq, hr.forcedRank?_eq]
    split
    · exact .refl Rank.le_refl _
    · exact .or (.refl Rank.le_refl _) (.map_of_forall (fun f => hr.rank_le f) _)
  next => exact .none

/-- A template regards a unit no better where the player in control of the unit has no higher
reputation. -/
theorem templateReactionToUnit_mono (hv : UpToReputation R v v')
    (hR : ∀ {r r'}, R r r' → r.NoHigher r') (hb : b.UpToReputation R b')
    (t : Option FactionTemplate) :
    v.templateReactionToUnit t b ≤ v'.templateReactionToUnit t b' := by
  unfold templateReactionToUnit
  rw [templateOf?_congr hv.toSameSetting hb.resembles]
  split
  · exact Rank.getD_le (reputationReaction?_rel hv hR hb _) (Rank.le_refl _)
  · exact Rank.le_refl _

/-- Persuasion raises by one rank at most, and so it never turns the order of two ranks around. -/
theorem afterPersuasion_mono {r r' : Rank} (h : r ≤ r') :
    v.afterPersuasion a b r ≤ v.afterPersuasion a b r' := by
  unfold afterPersuasion
  cases v.isPersuaded a b with
  | false => simpa using h
  | true =>
      have htier : Rank.hostile.tier = 1 ∧ Rank.honored.tier = 5 := ⟨rfl, rfl⟩
      rw [Rank.le_iff_tier_le] at h
      simp only [Rank.lt_iff_tier_lt, Rank.le_iff_tier_le, htier, and_true]
      -- only a rank strictly between the two bounds is raised, and by one
      have hraised := r.tier_friendlier
      have hraised' := r'.tier_friendlier
      split <;> split <;> omega

theorem reactionByTemplate_mono (hv : UpToReputation R v v')
    (hR : ∀ {r r'}, R r r' → r.NoHigher r') (ha : a.UpToReputation R a')
    (hb : b.UpToReputation R b') : v.reactionByTemplate a b ≤ v'.reactionByTemplate a' b' := by
  unfold reactionByTemplate
  rw [afterPersuasion_congr hv.toSameSetting ha.resembles hb.resembles,
    templateOf?_congr hv.toSameSetting ha.resembles]
  exact afterPersuasion_mono (templateReactionToUnit_mono hv hR hb _)

/-! ### Reactions -/

section

variable (hv : UpToReputation Reputation.NoBetter v v')
  (ha : a.UpToReputation Reputation.NoBetter a') (hb : b.UpToReputation Reputation.NoBetter b')

include hv ha hb

/-- A player has no better stance where the player has no better reputation. -/
theorem controllerStance?_rel :
    Option.Rel LE.le (v.controllerStance? a b) (v'.controllerStance? a' b') := by
  have hplayer (t : FactionTemplate) {p p' : LivePlayer}
      (hp : p.UpToReputation Reputation.NoBetter p') :
      Option.Rel LE.le (v.playerStance? p t) (v'.playerStance? p' t) := by
    have hr : p.state.reputation.NoBetter p'.state.reputation := hp.reputation
    unfold playerStance?
    rw [hp.isContested_eq, hr.forcedRank?_eq, hv.data]
    refine .or (.refl Rank.le_refl _) (.map_of_forall (fun f => ?_) _)
    split
    · exact Rank.le_refl _
    · -- whoever is at war in the second view is at war in the first
      cases hwar : p'.state.reputation.isAtWar f with
      | true =>
          rw [if_pos (hr.war f hwar)]
          exact Rank.le_refl _
      | false => split <;> decide
  unfold controllerStance?
  rw [templateOf?_congr hv.toSameSetting hb.resembles]
  rcases (hv.controller? ha).none_or_some with ⟨hp, hp'⟩ | ⟨p, p', hp, hp', hpp⟩
  · rw [hp, hp']
    exact .none
  · rw [hp, hp']
    cases v.templateOf? b with
    | some t => exact hplayer t hpp
    | none => exact .none

theorem controlledReaction?_eq : v'.controlledReaction? a' b' = v.controlledReaction? a b :=
  decided_congr (hv.controller? ha) (hv.controller? hb) hv.betweenPlayers?_eq

/-- Where no player has a better reputation, nobody is regarded better. -/
theorem reaction_mono : v.reaction a b ≤ v'.reaction a' b' := by
  have htemplate := reactionByTemplate_mono hv (fun h => h.toNoHigher) ha hb
  unfold reaction
  rw [ha.id_eq, hb.id_eq, ha.isPlayerControlled_eq, hb.isPlayerControlled_eq,
    controlledReaction?_eq hv ha hb]
  split
  · exact Rank.le_refl _
  · split
    · have hstance := controllerStance?_rel hv ha hb
      exact Rank.getD_le (.or (.refl Rank.le_refl _) hstance) htemplate
    · exact htemplate

theorem isEnemy_of_noBetter (h : v'.isEnemy a' b' = true) : v.isEnemy a b = true :=
  Rank.isEnemy_of_le (reaction_mono hv ha hb) h

theorem isFriend_of_noBetter (h : v.isFriend a b = true) : v'.isFriend a' b' = true :=
  Rank.isFriend_of_le (reaction_mono hv ha hb) h

/-! ### Attacks -/

theorem canAttackWaiving_of_noBetter {w : Waiver} (h : v'.canAttackWaiving w a' b' = true) :
    v.canAttackWaiving w a b = true := by
  have hctrl := controllers?_rel (hv.controller? ha) (hv.controller? hb) ha.isPlayerControlled_eq
    hb.isPlayerControlled_eq
  have hreason := hctrl.all_eq fun hpair => hpair.1.hasReasonToFight_eq hpair.2
  refine canAttackWaiving_of_answers ha.isPlayerControlled_eq hb.isPlayerControlled_eq
    (ha.attackVeto_eq hb w) hreason ?_ ?_ ?_ h
  · exact isFriend_of_noBetter hv ha hb
  · exact isEnemy_of_noBetter hv ha hb
  · exact isEnemy_of_noBetter hv hb ha

/-- An attack of whatever kind that is allowed in the second view is allowed in the first. -/
theorem allows_of_noBetter (query : AttackQuery) (h : v'.allows query a' b' = true) :
    v.allows query a b = true := by
  have hattack {w : Waiver} :
      v'.canAttackWaiving w a' b' = true → v.canAttackWaiving w a b = true :=
    canAttackWaiving_of_noBetter hv ha hb
  cases query with
  | plain => exact hattack h
  | waiving w => exact hattack h
  | now =>
      have hready : (a'.state.alive && !a'.isMounted && b'.state.alive) =
          (a.state.alive && !a.isMounted && b.state.alive) := by
        cases ha <;> cases hb <;> rfl
      exact and_mono hready.symm.trans hattack h
  | onSight =>
      have hseen : (!b'.isEvadingHome && (a'.ignoresFeignDeath || !b'.isFeigningDeath) &&
          !b'.isDisabledPet) =
          (!b.isEvadingHome && (a.ignoresFeignDeath || !b.isFeigningDeath) &&
            !b.isDisabledPet) := by
        cases ha <;> cases hb <;> rfl
      exact and_mono (and_mono hseen.symm.trans hattack) (isEnemy_of_noBetter hv ha hb) h
  | joining =>
      have hable : (a'.canEnterCombat && a'.canInitiateAttack && !a'.isFeigningDeath &&
          !a'.state.status.has .unattackableAura) =
          (a.canEnterCombat && a.canInitiateAttack && !a.isFeigningDeath &&
            !a.state.status.has .unattackableAura) := by
        cases ha <;> rfl
      exact and_mono hable.symm.trans hattack h

end

end View

end Rapport
