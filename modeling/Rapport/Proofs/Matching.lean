import Rapport.Proofs.Attack
import Rapport.Proofs.Comparison
import Rapport.Proofs.Flag.Bits

/-!
# Views that match

Persuasion and immunity are the last words of two rules: persuasion raises what a template makes of
a unit, and immunity forbids an attack.  Views that match (`View.Matches`) may differ in both, but
in nothing else that reactions and attacks read of the units.

What comes before the last word is then the same in both views, as long as these agree on the groups
of players: what decides before the template of a unit does (`View.beforeTemplate?`), what the
template makes of the other unit, and whether players have a reason to fight.
-/

namespace Rapport

/-- The flags by which a unit is persuaded or immune. -/
def incidentalFlags : List UnitFlag := [.persuaded, .immuneToPlayer, .immuneToNpc]

/-- Two states of one unit that agree in all that reactions and attacks read of a unit, but for
persuasion and immunity. -/
structure LiveUnit.Matches (a a' : LiveUnit) : Prop where
  id : a'.id = a.id
  kind : a'.kind = a.kind
  role : a'.role = a.role
  alive : a'.state.alive = a.state.alive
  template : a'.state.factionTemplate = a.state.factionTemplate
  master : a'.state.master = a.state.master
  flags : ∀ f, f ∉ incidentalFlags → a'.state.flags.has f = a.state.flags.has f

/-- Two states of one player that agree in all that is read of a player in control. -/
inductive LivePlayer.Matches : LivePlayer → LivePlayer → Prop
  | intro {p : LivePlayer} {state : UnitState} :
      state.flags.has .pvp = p.unitState.flags.has .pvp →
      Matches p { p with unitState := state }

namespace LivePlayer.Matches

variable {p p' q q' : LivePlayer}

theorem resembles (h : p.Matches p') : p.Resembles p' := by
  cases h
  exact ⟨rfl, rfl, rfl, rfl⟩

theorem isPvp_eq (h : p.Matches p') : p'.isPvp = p.isPvp := by
  cases h with
  | intro hpvp => exact hpvp

theorem hasReasonToFight_eq (hp : p.Matches p') (hq : q.Matches q') :
    p'.hasReasonToFight q' = p.hasReasonToFight q := by
  rw [hasReasonToFight, hasReasonToFight, hq.isPvp_eq]
  cases hp
  cases hq
  rfl

theorem areaMayHit_eq (hp : p.Matches p') (hq : q.Matches q') :
    p'.areaMayHit q' = p.areaMayHit q := by
  rw [areaMayHit, areaMayHit, hp.isPvp_eq, hq.isPvp_eq]
  cases hp
  cases hq
  rfl

end LivePlayer.Matches

namespace LiveUnit.Matches

variable {a a' b b' : LiveUnit} {w : Waiver}

theorem controlled (h : a.Matches a') : a'.isPlayerControlled = a.isPlayerControlled :=
  h.flags .playerControlled (by decide)

theorem player {p p' : LivePlayer} (h : p.toUnit.Matches p'.toUnit) : p.Matches p' := by
  have hpvp := h.flags .pvp (by decide)
  obtain ⟨_, _, state, _⟩ := p'
  cases h.id
  cases h.kind
  cases h.role
  exact .intro hpvp

/-- Units that match and agree on persuasion resemble each other. -/
theorem resembles (h : a.Matches a') (hlink : a'.state.persuaded = a.state.persuaded)
    (hflag : a'.state.flags.has .persuaded = a.state.flags.has .persuaded) : a.Resembles a' :=
  ⟨h.id, h.kind, h.controlled, h.template, hlink, hflag, player?_rel h.id h.role⟩

/-- The flags that forbid attacks are not incidental, so only immunities can change a veto. -/
theorem attackVeto_eq (ha : a.Matches a') (hb : b.Matches b')
    (himmune : w = .both true ∨
      a'.isImmuneTo b' = a.isImmuneTo b ∧ b'.isImmuneTo a' = b.isImmuneTo a) :
    a'.attackVeto w b' = a.attackVeto w b := by
  have hghost : a'.ghostVeto b' = a.ghostVeto b := by
    simp only [ghostVeto, isCreature, isGhost, isVisibleToGhosts, ha.kind, ha.role, hb.role]
  have hflags : b'.state.flags.hasAny unattackableFlags =
      b.state.flags.hasAny unattackableFlags := by
    have hkept : ∀ f ∈ unattackableFlags, f ∉ incidentalFlags := by decide
    exact FlagSet.hasAny_congr fun f hf => hb.flags f (hkept f hf)
  unfold attackVeto
  rw [hghost, hflags]
  rcases himmune with rfl | ⟨hforth, hback⟩
  · simp [Waiver.both]
  · rw [hforth, hback]

end LiveUnit.Matches

namespace View

/-- Two views of one setting whose units match. -/
structure Matches (v v' : View) : Prop extends v.SameSetting v' where
  units : ∀ id, Option.Rel LiveUnit.Matches (v.unit? id) (v'.unit? id)

/-- One player as two views have it. -/
def PlayerCounterparts (v v' : View) (p p' : LivePlayer) : Prop :=
  v.Counterparts v' p.toUnit p'.toUnit

/-- Players are in one group in one view just as in the other. -/
def AgreeOnGroups (v v' : View) : Prop :=
  ∀ {p p' q q' : LivePlayer}, v.PlayerCounterparts v' p p' → v.PlayerCounterparts v' q q' →
    v'.isInGroup p'.toUnit q'.toUnit false false = v.isInGroup p.toUnit q.toUnit false false

variable {v v' : View} {a a' b b' : LiveUnit} {p p' q q' : LivePlayer}

/-! ### Players in control -/

namespace Matches

theorem unit (hv : v.Matches v') (h : v.Counterparts v' a a') : a.Matches a' := h.rel hv.units

theorem player (hv : v.Matches v') (h : v.PlayerCounterparts v' p p') : p.Matches p' :=
  (hv.unit h).player

theorem counterparts (hv : v.Matches v') (id : EntityId) :
    Option.Rel (v.Counterparts v') (v.unit? id) (v'.unit? id) := by
  rcases (hv.units id).none_or_some with ⟨ha, ha'⟩ | ⟨a, a', ha, ha', -⟩
  · rw [ha, ha']
    exact .none
  · rw [ha, ha']
    exact .some ⟨id, ha, ha'⟩

theorem player? (hv : v.Matches v') (h : v.Counterparts v' a a') :
    Option.Rel (v.PlayerCounterparts v') a.player? a'.player? := by
  have hrole := (hv.unit h).role
  obtain ⟨_, _, _, role⟩ := a
  obtain ⟨_, _, _, role'⟩ := a'
  cases hrole
  cases role with
  | player p => exact .some h
  | creature c => exact .none

/-- The players in control of one unit are one player. -/
theorem controller? (hv : v.Matches v') (h : v.Counterparts v' a a') :
    Option.Rel (v.PlayerCounterparts v') (v.controller? a false)
      (v'.controller? a' false) :=
  controller?_rel (fun id => (hv.counterparts id).bind hv.player?) (hv.player? h)
    (hv.unit h).master

end Matches

/-! ### Reactions -/

/-- What decides how a unit regards another before the template of the unit does. -/
def beforeTemplate? (v : View) (a b : LiveUnit) : Option Rank :=
  if a.id = b.id then some .friendly
  else if a.isPlayerControlled then
    (if b.isPlayerControlled then v.controlledReaction? a b else none).or (v.controllerStance? a b)
  else none

theorem reaction_eq_getD (v : View) (a b : LiveUnit) :
    v.reaction a b = (v.beforeTemplate? a b).getD (v.reactionByTemplate a b) := by
  unfold reaction beforeTemplate?
  split
  · rfl
  · split <;> rfl

namespace Matches

variable (hv : v.Matches v') (hgroups : v.AgreeOnGroups v') (ha : v.Counterparts v' a a')
  (hb : v.Counterparts v' b b')

include hv ha

theorem templateOf?_eq : v'.templateOf? a' = v.templateOf? a := by
  rw [templateOf?, View.templateOf?, template?, template?, hv.data, (hv.unit ha).template]

include hb

theorem controllerStance?_eq : v'.controllerStance? a' b' = v.controllerStance? a b := by
  unfold controllerStance?
  rw [hv.templateOf?_eq hb]
  rcases (hv.controller? ha).none_or_some with ⟨hp, hp'⟩ | ⟨p, p', hp, hp', hpp⟩
  · rw [hp, hp']
  · have hstance (t : FactionTemplate) : v'.playerStance? p' t = v.playerStance? p t := by
      unfold playerStance?
      rw [hv.data]
      cases hv.player hpp
      rfl
    rw [hp, hp']
    cases v.templateOf? b with
    | none => rfl
    | some t => exact hstance t

theorem templateReactionToUnit_eq :
    v'.templateReactionToUnit (v'.templateOf? a') b' =
      v.templateReactionToUnit (v.templateOf? a) b := by
  have hreputation (t : FactionTemplate) :
      v'.reputationReaction? t b' = v.reputationReaction? t b := by
    unfold reputationReaction?
    rw [(hv.unit hb).controlled, hv.data]
    rcases (hv.controller? hb).none_or_some with ⟨hp, hp'⟩ | ⟨p, p', hp, hp', hpp⟩
    · rw [hp, hp']
    · rw [hp, hp']
      cases hv.player hpp
      rfl
  simp only [templateReactionToUnit, hv.templateOf?_eq ha, hv.templateOf?_eq hb, hreputation]

include hgroups

theorem beforeTemplate?_eq : v'.beforeTemplate? a' b' = v.beforeTemplate? a b := by
  have hplayers : v'.controlledReaction? a' b' = v.controlledReaction? a b := by
    refine decided_congr (hv.controller? ha) (hv.controller? hb) ?_
    intro p p' q q' hpp hqq
    unfold betweenPlayers?
    rw [hgroups hpp hqq]
    cases hv.player hpp
    cases hv.player hqq
    rfl
  rw [beforeTemplate?, beforeTemplate?, hplayers, hv.controllerStance?_eq ha hb, (hv.unit ha).id,
    (hv.unit hb).id, (hv.unit ha).controlled, (hv.unit hb).controlled]

/-- Reactions differ by persuasion alone. -/
theorem reaction_eq (hpersuaded : v'.isPersuaded a' b' = v.isPersuaded a b) :
    v'.reaction a' b' = v.reaction a b := by
  rw [reaction_eq_getD, reaction_eq_getD, hv.beforeTemplate?_eq hgroups ha hb, reactionByTemplate,
    reactionByTemplate, hv.templateReactionToUnit_eq ha hb, afterPersuasion, afterPersuasion,
    hpersuaded]

end Matches

/-! ### Attacks -/

namespace Matches

theorem controllers? (hv : v.Matches v') (ha : v.Counterparts v' a a')
    (hb : v.Counterparts v' b b') :
    Option.Rel (fun x x' => v.PlayerCounterparts v' x.1 x'.1 ∧ v.PlayerCounterparts v' x.2 x'.2)
      (v.controllers? a b false) (v'.controllers? a' b' false) :=
  controllers?_rel (hv.controller? ha) (hv.controller? hb) (hv.unit ha).controlled
    (hv.unit hb).controlled

/-- Players in control have the same reasons to fight. -/
theorem hasReasonToFight_eq (hv : v.Matches v') (ha : v.Counterparts v' a a')
    (hb : v.Counterparts v' b b') :
    ((v'.controllers? a' b' false).all fun x => x.1.hasReasonToFight x.2) =
      (v.controllers? a b false).all fun x => x.1.hasReasonToFight x.2 := by
  refine (hv.controllers? ha hb).all_eq ?_
  intro x x' hpair
  exact (hv.player hpair.1).hasReasonToFight_eq (hv.player hpair.2)

/-- Attacks differ by the veto and by reactions. -/
theorem canAttackWaiving_eq (hv : v.Matches v') (ha : v.Counterparts v' a a')
    (hb : v.Counterparts v' b b') {w : Waiver} (hveto : a'.attackVeto w b' = a.attackVeto w b)
    (hforth : v'.reaction a' b' = v.reaction a b) (hback : v'.reaction b' a' = v.reaction b a) :
    v'.canAttackWaiving w a' b' = v.canAttackWaiving w a b := by
  have hactrl := (hv.unit ha).controlled
  have hbctrl := (hv.unit hb).controlled
  have hreason := hv.hasReasonToFight_eq ha hb
  have hfriend := congrArg Rank.isFriend hforth
  have henemy := congrArg Rank.isEnemy hforth
  have henemy' := congrArg Rank.isEnemy hback
  rw [Bool.eq_iff_iff]
  constructor
  · exact canAttackWaiving_of_answers hactrl hbctrl hveto hreason hfriend.trans henemy.symm.trans
      henemy'.symm.trans
  · exact canAttackWaiving_of_answers hactrl.symm hbctrl.symm hveto.symm hreason.symm
      hfriend.symm.trans henemy.trans henemy'.trans

/-- The player in control of a target is at war with a unit's faction in both views or in none. -/
theorem isAtWarWith?_eq (hv : v.Matches v') (ha : v.Counterparts v' a a')
    (hb : v.Counterparts v' b b') : v'.isAtWarWith? a' b' = v.isAtWarWith? a b := by
  unfold isAtWarWith?
  rw [hv.templateOf?_eq ha, hv.data]
  rcases (hv.controller? hb).none_or_some with ⟨hq, hq'⟩ | ⟨q, q', hq, hq', hqq⟩
  · rw [hq, hq']
  · rw [hq, hq']
    cases hv.player hqq
    cases (v.templateOf? a).bind v.data.reputationFactionOf? <;> rfl

end Matches

end View

end Rapport
