import Rapport.Reaction

/-!
# Levels and civilians

A unit is trivial to another whose level is higher by more than a margin.  The margin grows with the
level of the one who looks, in brackets of ten levels, from 4 to 8.  Players are never trivial.

If the margin ever grew faster than the level, a unit could be trivial to one level and not to the
next.  It never does (`levelMargin_add_le`), so what is trivial to a level is trivial to every
higher one, and what is lower still is trivial too (`isTrivialLevel_mono`).
-/

namespace Rapport

/-! ### The margin -/

/-- By how much a level may be lower than the given one without being trivial to it. -/
def levelMargin (level : Nat) : Nat :=
  if level < 10 then 4
  else if level < 20 then 5
  else if level < 30 then 6
  else if level < 40 then 7
  else 8

/-- Every ten levels add one to the margin, up to 8. -/
theorem levelMargin_eq (n : Nat) : levelMargin n = min 8 (4 + n / 10) := by
  unfold levelMargin
  repeat' split
  all_goals omega

/-- From one level to a higher one the margin grows by no more than the level does. -/
theorem levelMargin_add_le (n k : Nat) : levelMargin (n + k) ≤ levelMargin n + k := by
  rw [levelMargin_eq, levelMargin_eq]
  omega

theorem four_le_levelMargin (n : Nat) : 4 ≤ levelMargin n := by
  rw [levelMargin_eq]
  omega

theorem levelMargin_le_eight (n : Nat) : levelMargin n ≤ 8 := by
  rw [levelMargin_eq]
  exact Nat.min_le_left 8 _

/-! ### Trivial levels -/

/-- Whether a level is trivial from the point of view of another. -/
def isTrivialLevel (viewer level : UInt32) : Bool :=
  level.toNat + levelMargin viewer.toNat < viewer.toNat

variable {viewer viewer' level level' : UInt32}

theorem isTrivialLevel_iff :
    isTrivialLevel viewer level = true ↔
      level.toNat + levelMargin viewer.toNat < viewer.toNat :=
  decide_eq_true_iff

/-- What is trivial to a level is so to every higher level, and so is what is lower still. -/
theorem isTrivialLevel_mono (hviewer : viewer ≤ viewer') (hlevel : level' ≤ level)
    (h : isTrivialLevel viewer level = true) : isTrivialLevel viewer' level' = true := by
  rw [isTrivialLevel_iff] at h ⊢
  rw [UInt32.le_iff_toNat_le] at hviewer hlevel
  obtain ⟨k, hk⟩ := Nat.exists_eq_add_of_le hviewer
  have hmargin : levelMargin viewer'.toNat ≤ levelMargin viewer.toNat + k :=
    hk ▸ levelMargin_add_le viewer.toNat k
  omega

theorem isTrivialLevel_eq_false (h : viewer.toNat ≤ level.toNat + 4) :
    isTrivialLevel viewer level = false := by
  have hmargin := four_le_levelMargin viewer.toNat
  rw [← Bool.not_eq_true, isTrivialLevel_iff]
  omega

theorem isTrivialLevel_eq_true (h : level.toNat + 8 < viewer.toNat) :
    isTrivialLevel viewer level = true := by
  have hmargin := levelMargin_le_eight viewer.toNat
  rw [isTrivialLevel_iff]
  omega

/-- Two levels are not trivial to each other. -/
theorem isTrivialLevel_asymm (h : isTrivialLevel viewer level = true) :
    isTrivialLevel level viewer = false := by
  rw [isTrivialLevel_iff] at h
  exact isTrivialLevel_eq_false (by omega)

/-! ### Trivial units and civilians -/

/-- Whether a unit is trivial to the one who looks.  A player never is. -/
def LiveUnit.isTrivialFor (u viewer : LiveUnit) : Bool :=
  !u.isPlayer && isTrivialLevel viewer.state.level u.state.level

/-- Whether it is a disgrace to the one who looks to fight a unit: a civilian that takes part in
fights between players, is trivial to the one who looks and regards that one as an enemy. -/
def View.isCivilianFor (v : View) (u viewer : LiveUnit) : Bool :=
  u.isPvp && u.creature?.any (·.civilian) && u.isTrivialFor viewer && v.isEnemy u viewer

end Rapport
