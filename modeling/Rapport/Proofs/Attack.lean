import Rapport.Combat
import Rapport.Subject
import Rapport.Proofs.Reaction

/-!
# Attack queries

The plain questions about an attack (`AttackQuery`) all go through `View.canAttackWaiving`, so what
that refuses under every waiver is refused by each of them.  It comes to two equations, one for two
units that no player controls (`View.canAttackWaiving_of_not_isPlayerControlled`) and one for all
other pairs (`View.canAttackWaiving_of_isPlayerControlled`).

The questions of a fight and of spells go further: they let a unit turn on a friend under the
control of a player who is at war with the unit's faction (`View.FriendAtWar`).  Where the plain
rules refuse, that is the only reason left, and `View.canAttackSpell_iff_of_refused` says exactly
what is then still allowed.  Game objects and dynamic objects answer as the unit that they stand for
(`View.StandsFor`).
-/

namespace Rapport

/-- The questions about an attack that go by the plain rules. -/
inductive AttackQuery
  /-- Whether the attack is allowed. -/
  | plain
  /-- Whether it is allowed with some immunities waived. -/
  | waiving (w : Waiver)
  /-- Whether it is allowed at this moment. -/
  | now
  /-- Whether the unit attacks as soon as it sees the target. -/
  | onSight
  /-- Whether the unit can join in an attack on the target. -/
  | joining

namespace View

variable {v : View} {u target : LiveUnit}

/-- The answer to a question about an attack. -/
def allows (v : View) : AttackQuery → LiveUnit → LiveUnit → Bool
  | .plain => v.canAttack
  | .waiving w => v.canAttackWaiving w
  | .now => v.canAttackNow
  | .onSight => v.canAttackOnSight
  | .joining => v.canJoinInAttacking

/-- Whatever plain question is answered with yes, the attack is allowed under some waiver. -/
theorem exists_waiver_of_allows {query : AttackQuery} (h : v.allows query u target = true) :
    ∃ w, v.canAttackWaiving w u target = true := by
  cases query with
  | plain => exact ⟨{}, h⟩
  | waiving w => exact ⟨w, h⟩
  | now =>
      simp only [allows, canAttackNow, Bool.and_eq_true] at h
      exact ⟨{}, h.2⟩
  | onSight =>
      simp only [allows, canAttackOnSight, Bool.and_eq_true] at h
      exact ⟨{}, h.1.2⟩
  | joining =>
      simp only [allows, canJoinInAttacking, Bool.and_eq_true] at h
      exact ⟨{}, h.2⟩

theorem allows_eq_false_of_refused (hrefused : ∀ w, v.canAttackWaiving w u target = false)
    (query : AttackQuery) : v.allows query u target = false := by
  cases hanswer : v.allows query u target with
  | false => rfl
  | true =>
      obtain ⟨w, hw⟩ := exists_waiver_of_allows hanswer
      rw [hrefused w] at hw
      contradiction

/-- Helping against an enemy is joining in an attack on it, or attacking it on sight. -/
theorem exists_query_of_canAssistInCombatAgainst {who : LiveUnit}
    (h : v.canAssistInCombatAgainst u who target = true) :
    ∃ query, v.allows query u target = true := by
  unfold canAssistInCombatAgainst at h
  -- the first case is that of an instance, where everyone joins in
  split at h
  · exact ⟨.joining, h⟩
  · rw [Bool.and_eq_true] at h
    exact ⟨.onSight, h.2⟩

/-! ### The plain rules -/

/-- Two units that no player controls fight when either is the other's enemy. -/
theorem canAttackWaiving_of_not_isPlayerControlled {w : Waiver}
    (hu : u.isPlayerControlled = false) (htarget : target.isPlayerControlled = false) :
    v.canAttackWaiving w u target =
      (!u.attackVeto w target && (v.isEnemy u target || v.isEnemy target u)) := by
  rw [canAttackWaiving, hu, htarget]

/-- Where one of the two is under a player's control, an attack is allowed on those who are no
friends, unless the players of both have no reason to fight. -/
theorem canAttackWaiving_of_isPlayerControlled {w : Waiver}
    (h : u.isPlayerControlled = true ∨ target.isPlayerControlled = true) :
    v.canAttackWaiving w u target =
      (!u.attackVeto w target && (!v.isFriend u target &&
        (v.controllers? u target false).all fun pair => pair.1.hasReasonToFight pair.2)) := by
  unfold canAttackWaiving canAttackPlayerControlled controllers?
  cases hu : u.isPlayerControlled with
  | false =>
      have htarget : target.isPlayerControlled = true := by simpa [hu] using h
      simp [htarget]
  | true =>
      cases target.isPlayerControlled with
      | false => simp
      | true =>
          cases v.controller? u false with
          | none => rfl
          | some p => cases v.controller? target false <;> rfl

/-- Where one of the two is under a player's control, friends are not attacked. -/
theorem canAttackWaiving_of_isFriend {w : Waiver}
    (h : u.isPlayerControlled = true ∨ target.isPlayerControlled = true)
    (hfriend : v.isFriend u target = true) : v.canAttackWaiving w u target = false := by
  rw [canAttackWaiving_of_isPlayerControlled h, hfriend, Bool.not_true, Bool.false_and,
    Bool.and_false]

/-- Between units of players an attack is allowed that no veto forbids, on those who are no friends,
and for a reason to fight. -/
theorem canAttackWaiving_eq_of_controllers {p q : LivePlayer} {w : Waiver}
    (hctrl : v.controllers? u target false = some (p, q)) :
    v.canAttackWaiving w u target =
      (!u.attackVeto w target && (!v.isFriend u target && p.hasReasonToFight q)) := by
  obtain ⟨⟨hu, -⟩, -, -⟩ := controllers?_eq_some_iff.1 hctrl
  rw [canAttackWaiving_of_isPlayerControlled (Or.inl hu), hctrl, Option.all_some]

/-- An attack that is allowed between two units in one view is allowed in another, if the veto and
the reasons to fight are the same there, no friend is lost and no enemy won. -/
theorem canAttackWaiving_of_answers {v' : View} {u' target' : LiveUnit} {w : Waiver}
    (hu : u'.isPlayerControlled = u.isPlayerControlled)
    (htarget : target'.isPlayerControlled = target.isPlayerControlled)
    (hveto : u'.attackVeto w target' = u.attackVeto w target)
    (hreason : ((v'.controllers? u' target' false).all fun x => x.1.hasReasonToFight x.2) =
      (v.controllers? u target false).all fun x => x.1.hasReasonToFight x.2)
    (hfriend : v.isFriend u target = true → v'.isFriend u' target' = true)
    (hforth : v'.isEnemy u' target' = true → v.isEnemy u target = true)
    (hback : v'.isEnemy target' u' = true → v.isEnemy target u = true)
    (h : v'.canAttackWaiving w u' target' = true) : v.canAttackWaiving w u target = true := by
  by_cases hcontrolled : u.isPlayerControlled = true ∨ target.isPlayerControlled = true
  · have hcontrolled' : u'.isPlayerControlled = true ∨ target'.isPlayerControlled = true := by
      rwa [hu, htarget]
    rw [canAttackWaiving_of_isPlayerControlled hcontrolled', hveto, hreason] at h
    rw [canAttackWaiving_of_isPlayerControlled hcontrolled]
    simp only [Bool.and_eq_true, Bool.not_eq_true', ← Bool.not_eq_true] at h ⊢
    exact ⟨h.1, mt hfriend h.2.1, h.2.2⟩
  · rw [not_or, Bool.not_eq_true, Bool.not_eq_true] at hcontrolled
    rw [canAttackWaiving_of_not_isPlayerControlled (hu.trans hcontrolled.1)
      (htarget.trans hcontrolled.2), hveto] at h
    rw [canAttackWaiving_of_not_isPlayerControlled hcontrolled.1 hcontrolled.2]
    simp only [Bool.and_eq_true, Bool.or_eq_true] at h ⊢
    exact ⟨h.1, h.2.imp hforth hback⟩

/-! ### Friends at war -/

/-- The player is at war with the faction of a unit, which is one that players earn a standing
with. -/
def IsAtWarWithFactionOf (v : View) (q : LivePlayer) (u : LiveUnit) : Prop :=
  ∃ t f, v.templateOf? u = some t ∧ v.data.reputationFactionOf? t = some f ∧
    q.state.reputation.isAtWar f = true

/-- A unit regards the target as a friend, but the player in control of the target is at war with
the unit's faction. -/
structure FriendAtWar (v : View) (u target : LiveUnit) : Prop where
  controlled : target.isPlayerControlled = true
  friend : v.isFriend u target = true
  war : ∃ q, v.controller? target false = some q ∧ v.IsAtWarWithFactionOf q u

theorem isAtWarWith?_eq_some_true_iff :
    v.isAtWarWith? u target = some true ↔
      ∃ q, v.controller? target false = some q ∧ v.IsAtWarWithFactionOf q u := by
  unfold isAtWarWith? IsAtWarWithFactionOf
  cases v.controller? target false with
  | none => simp
  | some q =>
      cases v.templateOf? u with
      | none => simp
      | some t => cases hf : v.data.reputationFactionOf? t <;> simp [hf]

/-- A fight allows what the plain rules allow, and friends at war besides. -/
theorem canAttackInCombat_iff {w : Waiver} :
    v.canAttackInCombat w u target = true ↔
      v.canAttackWaiving w u target = true ∨ v.FriendAtWar u target := by
  rw [canAttackInCombat, Bool.or_eq_true, Bool.and_eq_true, Bool.and_eq_true, beq_iff_eq,
    isAtWarWith?_eq_some_true_iff]
  constructor
  · rintro (hplain | ⟨⟨hcontrolled, hfriend⟩, hwar⟩)
    · exact Or.inl hplain
    · exact Or.inr ⟨hcontrolled, hfriend, hwar⟩
  · rintro (hplain | ⟨hcontrolled, hfriend, hwar⟩)
    · exact Or.inl hplain
    · exact Or.inr ⟨⟨hcontrolled, hfriend⟩, hwar⟩

theorem canAttackInCombat_iff_of_refused {w : Waiver}
    (hrefused : v.canAttackWaiving w u target = false) :
    v.canAttackInCombat w u target = true ↔ v.FriendAtWar u target := by
  rw [canAttackInCombat_iff, hrefused]
  simp

/-- A friend at war passes the rules on whom spells of players' units and of others may hit, unless
an area would draw the two players into a fight. -/
theorem FriendAtWar.spellMayHit_iff {isArea : Bool} (h : v.FriendAtWar u target) :
    v.spellMayHitPlayerControlled u target isArea = true ↔
      (isArea = true → ∀ p q, v.controllers? u target false = some (p, q) →
        p.areaMayHit q = true) := by
  -- the war itself answers for units that no player controls
  have hwar : v.isAtWarWith? u target = some true := isAtWarWith?_eq_some_true_iff.2 h.war
  obtain ⟨q, hq, -⟩ := h.war
  unfold spellMayHitPlayerControlled controllers?
  cases hu : u.isPlayerControlled with
  | false => simp [hwar]
  | true =>
      cases hp : v.controller? u false with
      | none => simp
      | some p => cases isArea <;> simp [h.controlled, hq]

/-- The dead are hit without any particular spell, and by spells that allow it. -/
theorem alive_or_allowsDeadTarget_iff {spell : Option Spell} :
    (target.state.alive || spell.all Spell.allowsDeadTarget) = true ↔
      target.state.alive = true ∨ ∀ s, spell = some s → s.allowsDeadTarget = true := by
  cases spell <;> simp

/-- What is left to spells where the plain rules refuse: a friend at war who is alive or whom the
spell may hit dead, and whom an area does not draw into a fight. -/
theorem canAttackSpell_iff_of_refused {spell : Option Spell} {isArea : Bool}
    (hrefused : ∀ w, v.canAttackWaiving w u target = false) :
    v.canAttackSpell u target spell isArea = true ↔
      (target.state.alive = true ∨ ∀ s, spell = some s → s.allowsDeadTarget = true) ∧
        v.FriendAtWar u target ∧
        (isArea = true → ∀ p q, v.controllers? u target false = some (p, q) →
          p.areaMayHit q = true) := by
  rw [canAttackSpell, Bool.and_eq_true, Bool.and_eq_true, alive_or_allowsDeadTarget_iff,
    canAttackInCombat_iff_of_refused (hrefused _), and_assoc]
  -- a friend at war is under a player's control, so the rule for such targets applies
  refine and_congr_right fun _ => and_congr_right fun hwar => ?_
  rw [hwar.controlled, Bool.not_true, Bool.false_or, hwar.spellMayHit_iff]

/-! ### Acting through objects -/

/-- An entity stands for a unit: the unit itself, a game object that the unit owns, or a dynamic
object that it cast. -/
inductive StandsFor (v : View) : LiveObject → LiveUnit → Prop
  | unit (u : LiveUnit) : StandsFor v (.unit u) u
  | gameObject {o : LiveGameObject} {u : LiveUnit} :
      v.holder? o.toLiveThing = some u → StandsFor v (.gameObject o) u
  | dynamicObject {o : LiveDynamicObject} {u : LiveUnit} :
      v.holder? o.toLiveThing = some u → StandsFor v (.dynamicObject o) u

theorem StandsFor.canAttackSpell_eq {subject : LiveObject} (h : v.StandsFor subject u)
    (spell : Option Spell) (isArea : Bool) :
    v.subjectCanAttackSpell subject target spell isArea =
      v.canAttackSpell u target spell isArea := by
  cases h with
  | unit => rfl
  | gameObject hholder => simp [subjectCanAttackSpell, gameObjectCanAttackSpell, hholder]
  | dynamicObject hholder => simp [subjectCanAttackSpell, hholder]

end View

end Rapport
