import Rapport.Proofs.Attack.Veto
import Rapport.Proofs.Matching

/-!
# What the attributes of a spell do

The attributes of a spell come into two rules.  One lets the spell hit the dead, the other waives
the immunities of both sides, and either can only turn a no into a yes.  An area can only do the
opposite.  To have no particular spell amounts to having one that may hit the dead and waives
nothing.  And a spell that waives immunities is deaf to them: between two worlds that differ in
nothing but immunities (`World.DifferInImmunities`) no answer about it differs.

`View.canAttackSpell_by_attributes` puts these together.
-/

namespace Rapport

/-! ### Clearing immunities -/

/-- The state with the flags cleared by which a unit is immune. -/
def UnitState.withoutImmunities (u : UnitState) : UnitState :=
  { u with flags := (u.flags.erase .immuneToPlayer).erase .immuneToNpc }

/-- The unit with the flags cleared by which it is immune. -/
def LiveUnit.withoutImmunities (a : LiveUnit) : LiveUnit :=
  { a with state := a.state.withoutImmunities }

/-- The entity with the flags cleared by which it is immune.  Only units have such flags. -/
def Entity.withoutImmunities (e : Entity) : Entity :=
  e.mapBody (Body.mapUnit UnitState.withoutImmunities)

/-- Two worlds that differ in nothing but in which units are immune. -/
structure World.DifferInImmunities (w w' : World) : Prop where
  entities : ∀ id,
    (w'.get? id).map Entity.withoutImmunities = (w.get? id).map Entity.withoutImmunities
  elsewhere : w' = { w with entities := w'.entities }

/-- Two views of such worlds, with the same static data and configuration. -/
structure View.DifferInImmunities (v v' : View) : Prop where
  world : v.world.DifferInImmunities v'.world
  elsewhere : v' = { v with world := v'.world }

theorem UnitState.has_withoutImmunities {u : UnitState} {f : UnitFlag}
    (hplayer : f ≠ .immuneToPlayer) (hnpc : f ≠ .immuneToNpc) :
    u.withoutImmunities.flags.has f = u.flags.has f :=
  (FlagSet.has_erase_of_apart (UnitFlag.bits_apart hnpc)).trans
    (FlagSet.has_erase_of_apart (UnitFlag.bits_apart hplayer))

theorem Entity.unit?_withoutImmunities (e : Entity) :
    e.withoutImmunities.unit? = e.unit?.map LiveUnit.withoutImmunities := by
  obtain ⟨_, _, body⟩ := e
  cases body <;> rfl

/-- A change of one unit that is gone with all immunities cleared changes nothing but immunities. -/
theorem World.differInImmunities_modifyUnit (w : World) (id : EntityId)
    {f : UnitState → UnitState} (hf : ∀ u, (f u).withoutImmunities = u.withoutImmunities) :
    w.DifferInImmunities (w.modifyUnit id f) := by
  have hentity (e : Entity) :
      (e.mapBody (Body.mapUnit f)).withoutImmunities = e.withoutImmunities := by
    obtain ⟨_, _, body⟩ := e
    cases body with
    | unit u role => simp only [Entity.withoutImmunities, Entity.mapBody, Body.mapUnit, hf]
    | _ => rfl
  refine ⟨fun k => ?_, rfl⟩
  rw [modifyUnit, get?_modifyBody]
  split
  · cases w.get? k with
    | none => rfl
    | some e => exact congrArg some (hentity e)
  · rfl

section

variable {a a' : LiveUnit} (h : a'.withoutImmunities = a.withoutImmunities)

include h

theorem LiveUnit.has_eq_of_withoutImmunities {f : UnitFlag} (hplayer : f ≠ .immuneToPlayer)
    (hnpc : f ≠ .immuneToNpc) : a'.state.flags.has f = a.state.flags.has f := by
  rw [← UnitState.has_withoutImmunities hplayer hnpc,
    ← UnitState.has_withoutImmunities (u := a.state) hplayer hnpc]
  exact congrArg (·.state.flags.has f) h

theorem LiveUnit.matches_of_withoutImmunities : a.Matches a' where
  id := congrArg (·.id) h
  kind := congrArg (·.kind) h
  role := congrArg (·.role) h
  alive := congrArg (·.state.alive) h
  template := congrArg (·.state.factionTemplate) h
  master := congrArg (·.state.master) h
  flags f hf := by
    refine has_eq_of_withoutImmunities h ?_ ?_ <;> rintro rfl <;> exact hf (by decide)

theorem LiveUnit.resembles_of_withoutImmunities : a.Resembles a' :=
  (matches_of_withoutImmunities h).resembles (congrArg (·.state.persuaded) h)
    (has_eq_of_withoutImmunities h (by decide) (by decide))

end

namespace View

variable {v v' : View} {u target a a' b b' : LiveUnit}

/-! ### Two worlds that differ in immunities -/

namespace DifferInImmunities

theorem units (h : v.DifferInImmunities v') (id : EntityId) :
    Option.Rel (fun a a' => a'.withoutImmunities = a.withoutImmunities) (v.unit? id)
      (v'.unit? id) := by
  have hunit (v : View) : (v.unit? id).map LiveUnit.withoutImmunities =
      ((v.world.get? id).map Entity.withoutImmunities).bind Entity.unit? := by
    rw [unit?]
    cases v.world.get? id with
    | none => rfl
    | some e => exact e.unit?_withoutImmunities.symm
  refine Option.Rel.of_map_eq ?_
  rw [hunit, hunit, h.world.entities]

theorem sameSetting (h : v.DifferInImmunities v') : v.SameSetting v' where
  data := by rw [h.elsewhere]
  groups := by rw [h.world.elsewhere]

theorem toMatches (h : v.DifferInImmunities v') : v.Matches v' where
  toSameSetting := h.sameSetting
  units id := (h.units id).mono LiveUnit.matches_of_withoutImmunities

theorem resembles (h : v.DifferInImmunities v') (ha : v.Counterparts v' a a') : a.Resembles a' :=
  LiveUnit.resembles_of_withoutImmunities (ha.rel h.units)

/-- No immunity has a part in who is in one group. -/
theorem agreeOnGroups (h : v.DifferInImmunities v') : v.AgreeOnGroups v' := by
  intro p p' q q' hp hq
  have hctrl {r r' : LivePlayer} (hr : v.PlayerCounterparts v' r r') :
      Option.Rel LivePlayer.Resembles (v.controller? r.toUnit false)
        (v'.controller? r'.toUnit false) :=
    (h.toMatches.controller? hr).mono fun h' => (h.toMatches.player h').resembles
  exact isInGroup_congr (h.resembles hp) (h.resembles hq) (hctrl hp) (hctrl hq) h.sameSetting false

theorem reaction_eq (h : v.DifferInImmunities v') (ha : v.Counterparts v' a a')
    (hb : v.Counterparts v' b b') : v'.reaction a' b' = v.reaction a b :=
  h.toMatches.reaction_eq h.agreeOnGroups ha hb
    (isPersuaded_congr h.sameSetting (h.resembles ha) (h.resembles hb))

theorem canAttackInCombat_eq (h : v.DifferInImmunities v') (ha : v.Counterparts v' a a')
    (hb : v.Counterparts v' b b') :
    v'.canAttackInCombat (.both true) a' b' = v.canAttackInCombat (.both true) a b := by
  have hm := h.toMatches
  have hveto : a'.attackVeto (.both true) b' = a.attackVeto (.both true) b :=
    (hm.unit ha).attackVeto_eq (hm.unit hb) (Or.inl rfl)
  have hreaction := h.reaction_eq ha hb
  rw [canAttackInCombat, canAttackInCombat, isFriend, isFriend, (hm.unit hb).controlled, hreaction,
    hm.isAtWarWith?_eq ha hb, hm.canAttackWaiving_eq ha hb hveto hreaction (h.reaction_eq hb ha)]

theorem spellMayHit_eq (h : v.DifferInImmunities v') (ha : v.Counterparts v' a a')
    (hb : v.Counterparts v' b b') (isArea : Bool) :
    v'.spellMayHitPlayerControlled a' b' isArea = v.spellMayHitPlayerControlled a b isArea := by
  have hm := h.toMatches
  unfold spellMayHitPlayerControlled
  rw [(hm.unit ha).controlled, isEnemy, isEnemy, h.reaction_eq ha hb, hm.isAtWarWith?_eq ha hb]
  split
  · refine decided_congr (hm.controller? ha) (hm.controller? hb) ?_
    intro p p' q q' hp hq
    rw [(hm.player hp).areaMayHit_eq (hm.player hq)]
  · rfl

/-- A spell that waives immunities is deaf to them. -/
theorem canAttackSpell_eq (h : v.DifferInImmunities v') (ha : v.Counterparts v' a a')
    (hb : v.Counterparts v' b b') {s : Spell} (hs : s.ignoresRestrictions = true) (isArea : Bool) :
    v'.canAttackSpell a' b' (some s) isArea = v.canAttackSpell a b (some s) isArea := by
  have hwaives : (some s).any Spell.ignoresRestrictions = true := hs
  rw [canAttackSpell, canAttackSpell, hwaives, (h.toMatches.unit hb).alive,
    (h.toMatches.unit hb).controlled, h.canAttackInCombat_eq ha hb, h.spellMayHit_eq ha hb]

end DifferInImmunities

/-! ### Attributes and areas -/

/-- Whoever waives more immunities is refused no more attacks. -/
theorem canAttackInCombat_both_mono {x y : Bool} (hxy : x = true → y = true)
    (h : v.canAttackInCombat (.both x) u target = true) :
    v.canAttackInCombat (.both y) u target = true := by
  have hveto : u.attackVeto (.both x) target = false → u.attackVeto (.both y) target = false := by
    have hwaived : y = false → x = false := by
      cases x with
      | false => exact fun _ => rfl
      | true => exact fun hy => absurd (hy.symm.trans (hxy rfl)) Bool.false_ne_true
    rw [LiveUnit.attackVeto_eq_false_iff, LiveUnit.attackVeto_eq_false_iff]
    rintro ⟨hreach, htarget, hattacker⟩
    exact ⟨hreach, fun hy => htarget (hwaived hy), fun hy => hattacker (hwaived hy)⟩
  rw [canAttackInCombat_iff] at h ⊢
  refine h.imp_left fun hplain => ?_
  rw [canAttackWaiving, Bool.and_eq_true, Bool.not_eq_true'] at hplain ⊢
  exact ⟨hveto hplain.1, hplain.2⟩

/-- More attributes permit more. -/
theorem canAttackSpell_of_within {s s' : Spell} {isArea : Bool}
    (hwithin : s.attributes.Within s'.attributes)
    (h : v.canAttackSpell u target (some s) isArea = true) :
    v.canAttackSpell u target (some s') isArea = true := by
  rw [canAttackSpell, Bool.and_eq_true, Bool.and_eq_true, Bool.or_eq_true] at h ⊢
  obtain ⟨⟨halive, hfight⟩, hhit⟩ := h
  refine ⟨⟨halive.imp_right hwithin.has, ?_⟩, hhit⟩
  exact canAttackInCombat_both_mono hwithin.has hfight

/-- An area permits less. -/
theorem canAttackSpell_of_area {spell : Option Spell}
    (h : v.canAttackSpell u target spell true = true) :
    v.canAttackSpell u target spell false = true := by
  have hmayHit : v.spellMayHitPlayerControlled u target true = true →
      v.spellMayHitPlayerControlled u target false = true := by
    unfold spellMayHitPlayerControlled
    split
    · intro _
      split <;> rfl
    · exact id
  rw [canAttackSpell, Bool.and_eq_true, Bool.or_eq_true] at h ⊢
  exact ⟨h.1, h.2.imp_right hmayHit⟩

/-- To have no particular spell is to have one that may hit the dead and waives nothing. -/
theorem canAttackSpell_none {s : Spell} (hdead : s.allowsDeadTarget = true)
    (hwaives : s.ignoresRestrictions = false) (isArea : Bool) :
    v.canAttackSpell u target none isArea = v.canAttackSpell u target (some s) isArea := by
  rw [canAttackSpell, canAttackSpell, Option.all_some, Option.any_some, hdead, hwaives]
  rfl

/-- What the attributes of a harmful spell and its area do: with more attributes more is permitted,
with an area less; no particular spell is one whose only known attribute is to hit the dead; and
immunities count for nothing with a spell that waives them. -/
theorem canAttackSpell_by_attributes (v : View) (u target : LiveUnit) :
    (∀ {s s' : Spell} {isArea}, s.attributes.Within s'.attributes →
      v.canAttackSpell u target (some s) isArea = true →
      v.canAttackSpell u target (some s') isArea = true) ∧
    (∀ {spell}, v.canAttackSpell u target spell true = true →
      v.canAttackSpell u target spell false = true) ∧
    (∀ {s : Spell}, (∀ f, s.attributes.has f = decide (f = .allowDeadTarget)) → ∀ isArea,
      v.canAttackSpell u target none isArea = v.canAttackSpell u target (some s) isArea) ∧
    ∀ {v' : View}, v.DifferInImmunities v' →
      (∀ id, (v'.unit? id).isSome = (v.unit? id).isSome) ∧
      ∀ {s : Spell} {u' target' : LiveUnit}, s.ignoresRestrictions = true →
        v.Counterparts v' u u' → v.Counterparts v' target target' → ∀ isArea,
        v'.canAttackSpell u' target' (some s) isArea =
          v.canAttackSpell u target (some s) isArea := by
  refine ⟨canAttackSpell_of_within, canAttackSpell_of_area, ?_, ?_⟩
  · intro s honly
    exact canAttackSpell_none (honly .allowDeadTarget)
      (honly .ignoreCasterAndTargetRestrictions)
  · intro v' h
    refine ⟨fun id => isSome_unit?_eq_of_rel (h.units id), ?_⟩
    intro s u' target' hs hu htarget
    exact h.canAttackSpell_eq hu htarget hs

end View

/-- A player. -/
def exorcist : LivePlayer := ⟨⟨0⟩, .player, { flags := .only .playerControlled }, {}⟩

/-- A dead creature that is immune to units of players. -/
def wraith : LiveUnit :=
  ⟨⟨1⟩, .creature, { factionTemplate := 1, flags := .only .immuneToPlayer, alive := false },
    .creature {}⟩

/-- The creature without its immunity. -/
def bareWraith : LiveUnit := { wraith with state := { wraith.state with flags := ∅ } }

/-- The player and the dead creature. -/
def crypt : View := .ofUnits frontierData [exorcist.toUnit, wraith]

/-- The same place with the immunity gone. -/
def openedCrypt : View :=
  let clear (u : UnitState) : UnitState := { u with flags := u.flags.erase .immuneToPlayer }
  { crypt with world := crypt.world.modifyUnit wraith.id clear }

/-- A spell that may hit the dead. -/
def requiem : Spell := { attributes := .only .allowDeadTarget }

/-- A spell that may hit the dead and waives immunities. -/
def banishment : Spell :=
  { attributes := (FlagSet.only .allowDeadTarget).insert .ignoreCasterAndTargetRestrictions }

/-- The immunity stops the lesser spell, and attacks without a particular spell.  It does not stop
the greater spell, which hits with an area and without one, with the immunity there or gone. -/
theorem canAttackSpell_by_attributes_crypt :
    requiem.attributes.Within banishment.attributes ∧ banishment.ignoresRestrictions = true ∧
      crypt.DifferInImmunities openedCrypt ∧
      crypt.Counterparts openedCrypt exorcist.toUnit exorcist.toUnit ∧
      crypt.Counterparts openedCrypt wraith bareWraith ∧
      crypt.canAttackSpell exorcist.toUnit wraith (some requiem) false = false ∧
      crypt.canAttackSpell exorcist.toUnit wraith none false = false ∧
      crypt.canAttackSpell exorcist.toUnit wraith (some banishment) false = true ∧
      openedCrypt.canAttackSpell exorcist.toUnit bareWraith (some banishment) true = true ∧
      openedCrypt.canAttackSpell exorcist.toUnit bareWraith (some requiem) false = true ∧
      openedCrypt.canAttackSpell exorcist.toUnit bareWraith (some banishment) false = true := by
  have hwithin : requiem.attributes.Within banishment.attributes := rfl
  have hwaives : banishment.ignoresRestrictions = true := rfl
  have honly : ∀ f, requiem.attributes.has f = decide (f = .allowDeadTarget) := by
    intro f
    cases f <;> rfl
  have hdiffer : crypt.DifferInImmunities openedCrypt := by
    refine ⟨World.differInImmunities_modifyUnit _ _ fun u => ?_, rfl⟩
    rw [UnitState.withoutImmunities, UnitState.withoutImmunities, FlagSet.erase_erase_self]
  have hexorcist : crypt.Counterparts openedCrypt exorcist.toUnit exorcist.toUnit :=
    ⟨exorcist.id, rfl, rfl⟩
  have hwraith : crypt.Counterparts openedCrypt wraith bareWraith := ⟨wraith.id, rfl, rfl⟩
  obtain ⟨-, harea, hnone, himmunity⟩ :=
    View.canAttackSpell_by_attributes crypt exorcist.toUnit wraith
  obtain ⟨hmore, -⟩ := View.canAttackSpell_by_attributes openedCrypt exorcist.toUnit bareWraith
  have hlesser :
      openedCrypt.canAttackSpell exorcist.toUnit bareWraith (some requiem) false = true := rfl
  refine ⟨hwithin, hwaives, hdiffer, hexorcist, hwraith, rfl, ?_, ?_, ?_, hlesser, ?_⟩
  · exact (hnone honly false).trans rfl
  · exact harea rfl
  · exact ((himmunity hdiffer).2 hwaives hexorcist hwraith true).trans rfl
  · exact hmore hwithin hlesser

end Rapport
