import Mathlib.Tactic.SplitIfs
import Rapport.Triviality

/-!
# The levels to which a unit is trivial

What is trivial to a level is so to every higher one, and the margin stays between 4 and 8
(`isTrivialLevel_mono`, `levelMargin_eq`).  For units that are no players this settles the levels
close by and those far above (`LiveUnit.triviality_by_levels`).

`trivialByDifference?` is the same rule in 32-bit words.  It goes by how far the higher level lies
above the lower one and by the bracket of five that it is in.  It would fail on a difference below
zero, and never comes to that (`trivialByDifference?_eq`).
-/

namespace Rapport

/-! ### In 32-bit words -/

/-- The difference of two words, unless it is below zero. -/
def difference? (x y : UInt32) : Option UInt32 := if y ≤ x then some (x - y) else none

/-- The margin for the levels of a bracket of five. -/
def bracketMargin (bracket : UInt32) : UInt32 :=
  if bracket ≤ 1 then 4
  else if bracket ≤ 3 then 5
  else if bracket ≤ 5 then 6
  else if bracket ≤ 7 then 7
  else 8

/-- Whether a level is trivial from the point of view of another, by the difference of the two. -/
def trivialByDifference? (viewer level : UInt32) : Option Bool :=
  if viewer ≤ level then some false
  else (difference? viewer level).map fun above => bracketMargin (viewer / 5) < above

theorem toNat_bracketMargin (bracket : UInt32) :
    (bracketMargin bracket).toNat = min 8 (4 + bracket.toNat / 2) := by
  simp only [bracketMargin, UInt32.le_iff_toNat_le, apply_ite UInt32.toNat, UInt32.reduceToNat]
  split_ifs <;> omega

/-- Two brackets of five levels share a margin. -/
theorem toNat_bracketMargin_div (level : UInt32) :
    (bracketMargin (level / 5)).toNat = levelMargin level.toNat := by
  have hbracket : (level / 5).toNat = level.toNat / 5 := UInt32.toNat_div level 5
  rw [toNat_bracketMargin, hbracket, Nat.div_div_eq_div_mul, levelMargin_eq]

/-- The difference is never below zero, and going by it is going by the margin. -/
theorem trivialByDifference?_eq (viewer level : UInt32) :
    trivialByDifference? viewer level = some (isTrivialLevel viewer level) := by
  unfold trivialByDifference?
  by_cases h : viewer ≤ level
  · have hlevels : viewer.toNat ≤ level.toNat := UInt32.le_iff_toNat_le.1 h
    rw [if_pos h, isTrivialLevel_eq_false (by omega)]
  · have hle : level ≤ viewer := UInt32.le_of_lt (UInt32.not_le.1 h)
    have habove : (viewer - level).toNat = viewer.toNat - level.toNat :=
      UInt32.toNat_sub_of_le _ _ hle
    rw [if_neg h, difference?, if_pos hle, Option.map_some, Option.some_inj, Bool.eq_iff_iff,
      decide_eq_true_iff, isTrivialLevel_iff, UInt32.lt_iff_toNat_lt, toNat_bracketMargin_div,
      habove]
    omega

/-! ### Trivial units -/

namespace LiveUnit

/-- The unit at another level. -/
def atLevel (u : LiveUnit) (level : UInt32) : LiveUnit :=
  { u with state := { u.state with level } }

theorem isTrivialFor_of_not_isPlayer {u : LiveUnit} (hu : u.isPlayer = false) (x : LiveUnit) :
    u.isTrivialFor x = isTrivialLevel x.state.level u.state.level := by
  rw [isTrivialFor, hu]
  rfl

theorem isTrivialFor_asymm {u x : LiveUnit} (h : u.isTrivialFor x = true) :
    x.isTrivialFor u = false := by
  rw [isTrivialFor, Bool.and_eq_true] at h
  rw [isTrivialFor, isTrivialLevel_asymm h.2, Bool.and_false]

/-- Whether a unit that is no player is trivial to another goes by their levels.  It stays trivial
when the other's level rises and when its own falls.  It is never trivial to a level up to four
above its own, and always to one more than eight above.  No two units are trivial to each other.
The difference of the levels, where it is taken, is never below zero. -/
theorem triviality_by_levels {u : LiveUnit} (hu : u.isPlayer = false) (x : LiveUnit) :
    (∀ y : LiveUnit, x.state.level ≤ y.state.level → u.isTrivialFor x = true →
      u.isTrivialFor y = true) ∧
    (∀ level, level ≤ u.state.level → u.isTrivialFor x = true →
      (u.atLevel level).isTrivialFor x = true) ∧
    (x.state.level.toNat ≤ u.state.level.toNat + 4 → u.isTrivialFor x = false) ∧
    (u.state.level.toNat + 8 < x.state.level.toNat → u.isTrivialFor x = true) ∧
    ¬ (u.isTrivialFor x = true ∧ x.isTrivialFor u = true) ∧
    trivialByDifference? x.state.level u.state.level = some (u.isTrivialFor x) := by
  have hlower (level : UInt32) : (u.atLevel level).isPlayer = false := hu
  refine ⟨fun y hy h => ?_, fun level hlevel h => ?_, fun hclose => ?_, fun hfar => ?_, ?_, ?_⟩
  · rw [isTrivialFor_of_not_isPlayer hu] at h ⊢
    exact isTrivialLevel_mono hy (UInt32.le_refl _) h
  · rw [isTrivialFor_of_not_isPlayer hu] at h
    rw [isTrivialFor_of_not_isPlayer (hlower level)]
    exact isTrivialLevel_mono (UInt32.le_refl _) hlevel h
  · rw [isTrivialFor_of_not_isPlayer hu]
    exact isTrivialLevel_eq_false hclose
  · rw [isTrivialFor_of_not_isPlayer hu]
    exact isTrivialLevel_eq_true hfar
  · rintro ⟨h, h'⟩
    rw [isTrivialFor_asymm h] at h'
    contradiction
  · rw [isTrivialFor_of_not_isPlayer hu]
    exact trivialByDifference?_eq x.state.level u.state.level

end LiveUnit

/-- A creature of level 13. -/
def badger : LiveUnit := ⟨⟨0⟩, .creature, { level := 13 }, .creature {}⟩

/-- A player of a given level. -/
def gamekeeper (level : UInt32) : LiveUnit := ⟨⟨1⟩, .player, { level }, .player {}⟩

/-- The badger is trivial to level 19 and still so to level 20, where the margin is wider by one. -/
theorem triviality_by_levels_badger :
    badger.isPlayer = false ∧ badger.isTrivialFor (gamekeeper 19) = true ∧
      (gamekeeper 19).state.level ≤ (gamekeeper 20).state.level ∧
      levelMargin 19 = 5 ∧ levelMargin 20 = 6 ∧ badger.isTrivialFor (gamekeeper 20) = true ∧
      (badger.atLevel 12).isTrivialFor (gamekeeper 19) = true ∧
      badger.isTrivialFor (gamekeeper 17) = false ∧ badger.isTrivialFor (gamekeeper 22) = true ∧
      ¬ (badger.isTrivialFor (gamekeeper 19) = true ∧ (gamekeeper 19).isTrivialFor badger = true) ∧
      trivialByDifference? 19 13 = some true := by
  have hcreature : badger.isPlayer = false := rfl
  have htrivial : badger.isTrivialFor (gamekeeper 19) = true := rfl
  have hhigher : (gamekeeper 19).state.level ≤ (gamekeeper 20).state.level := by decide
  obtain ⟨hrising, hfalling, -, -, hasymm, hdifference⟩ :=
    LiveUnit.triviality_by_levels hcreature (gamekeeper 19)
  obtain ⟨-, -, hclose, -⟩ := LiveUnit.triviality_by_levels hcreature (gamekeeper 17)
  obtain ⟨-, -, -, hfar, -⟩ := LiveUnit.triviality_by_levels hcreature (gamekeeper 22)
  exact ⟨hcreature, htrivial, hhigher, rfl, rfl, hrising (gamekeeper 20) hhigher htrivial,
    hfalling 12 (by decide) htrivial, hclose (by decide), hfar (by decide), hasymm, hdifference⟩

end Rapport
