import Rapport.Proofs.Attack.Players

/-!
# Areas and fights between players

A spell with an area hits what it happens to hit, so between units of two players it asks for more
than the same spell aimed at one target.  The players have to be at one about fighting: they duel
each other, or both or neither of them take part in fights between players, or both are free for
all.  That is the whole difference (`View.area_between_players`), for the unit itself as for game
objects and dynamic objects that act for it.
-/

namespace Rapport

/-- An area of one player may hit units of another who duels with the first, or who takes part in
fights between players as the first does, or who is free for all as the first is. -/
theorem LivePlayer.areaMayHit_iff {p q : LivePlayer} :
    p.areaMayHit q = true ↔
      (p.id ≠ q.id ∧ p.Duels q) ∨ p.isPvp = q.isPvp ∨
        (p.isFreeForAll = true ∧ q.isFreeForAll = true) := by
  rw [areaMayHit, Bool.or_eq_true, Bool.or_eq_true, Bool.and_eq_true, beq_iff_eq, or_assoc,
    isInDuelWith_iff]

namespace View

variable {v : View} {u target : LiveUnit} {p q : LivePlayer}

theorem spellMayHitPlayerControlled_of_controllers {isArea : Bool}
    (hctrl : v.controllers? u target false = some (p, q)) :
    v.spellMayHitPlayerControlled u target isArea = (!isArea || p.areaMayHit q) := by
  obtain ⟨⟨hu, -⟩, hp, hq⟩ := controllers?_eq_some_iff.1 hctrl
  rw [spellMayHitPlayerControlled, if_pos hu, hp, hq]

/-- Against a unit of another player, an area adds one condition to those of the spell alone. -/
theorem canAttackSpell_area_iff {spell : Option Spell}
    (hctrl : v.controllers? u target false = some (p, q)) :
    v.canAttackSpell u target spell true = true ↔
      v.canAttackSpell u target spell false = true ∧ p.areaMayHit q = true := by
  obtain ⟨⟨-, htarget⟩, -, -⟩ := controllers?_eq_some_iff.1 hctrl
  unfold canAttackSpell
  rw [spellMayHitPlayerControlled_of_controllers hctrl,
    spellMayHitPlayerControlled_of_controllers hctrl, htarget]
  simp

/-- Between units of two players a spell with an area may hit exactly what it may hit without one,
and only where it draws no player into a fight. -/
theorem area_between_players (hctrl : v.controllers? u target false = some (p, q))
    {subject : LiveObject} (hsubject : v.StandsFor subject u) (spell : Option Spell) :
    v.subjectCanAttackSpell subject target spell true = true ↔
      v.subjectCanAttackSpell subject target spell false = true ∧
        ((p.id ≠ q.id ∧ p.Duels q) ∨ p.isPvp = q.isPvp ∨
          (p.isFreeForAll = true ∧ q.isFreeForAll = true)) := by
  rw [hsubject.canAttackSpell_eq, hsubject.canAttackSpell_eq, canAttackSpell_area_iff hctrl,
    LivePlayer.areaMayHit_iff]

end View

/-- A player on the other side of the challenger's duel, who takes part in fights between
players. -/
def veteran : LivePlayer :=
  { rival with unitState := { rival.unitState with
      flags := .union (.only .playerControlled) (.only .pvp) } }

/-- A game object of the challenger's pet. -/
def snare : LiveGameObject := ⟨⟨⟨3⟩, { holder := some wolf.id }⟩⟩

/-- The challenger and a pet against the veteran, and the game object of the pet. -/
def arena : View :=
  (View.ofUnits frontierData [challenger.toUnit, veteran.toUnit, wolf]).withSpawned
    (.gameObject snare.state)

/-- An area of the pet's game object may hit the veteran.  It is the duel that allows this, since
the challenger takes part in no other fights between players. -/
theorem area_between_players_arena :
    arena.controllers? wolf veteran.toUnit false = some (challenger, veteran) ∧
      arena.gameObject? snare.id = some snare ∧ arena.StandsFor (.gameObject snare) wolf ∧
      arena.subjectCanAttackSpell (.gameObject snare) veteran.toUnit none true = true ∧
      challenger.isPvp ≠ veteran.isPvp ∧ challenger.isFreeForAll = false ∧
      challenger.id ≠ veteran.id ∧ challenger.Duels veteran := by
  have hctrl : arena.controllers? wolf veteran.toUnit false = some (challenger, veteran) := rfl
  have hsubject : arena.StandsFor (.gameObject snare) wolf := .gameObject rfl
  have hhit : arena.subjectCanAttackSpell (.gameObject snare) veteran.toUnit none true = true := rfl
  have hpvp : challenger.isPvp ≠ veteran.isPvp := Bool.false_ne_true
  have hfree : challenger.isFreeForAll = false := rfl
  have hduel : challenger.id ≠ veteran.id ∧ challenger.Duels veteran := by
    rcases ((View.area_between_players hctrl hsubject none).1 hhit).2 with h | h | h
    · exact h
    · exact absurd h hpvp
    · exact absurd (hfree.symm.trans h.1) Bool.false_ne_true
  exact ⟨hctrl, rfl, hsubject, hhit, hpvp, hfree, hduel⟩

end Rapport
