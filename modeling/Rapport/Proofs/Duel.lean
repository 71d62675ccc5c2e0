import Rapport.View

/-!
# Duels

Two players duel each other when both name one place and fight on different sides of it.  Side 0
stands for no duel, so neither of the sides is 0.  `LivePlayer.duels_iff` ties this to the two
questions that the rules ask: whether the players share an arbiter, and whether they are on one
side.
-/

namespace Rapport

/-- The active duel is the duel that the player names, as long as it has a side. -/
theorem PlayerState.activeDuel_eq_some_iff {p : PlayerState} {d : Duel} :
    p.activeDuel = some d ↔ p.duel = some d ∧ d.team ≠ 0 := by
  simp [PlayerState.activeDuel, Option.filter_eq_some_iff]

namespace LivePlayer

/-- Two players fight each other at one place, on different sides, and neither side is the one that
stands for no duel. -/
def Duels (p q : LivePlayer) : Prop :=
  ∃ d e, p.state.duel = some d ∧ q.state.duel = some e ∧ d.arbiter = e.arbiter ∧
    d.team ≠ 0 ∧ e.team ≠ 0 ∧ d.team ≠ e.team

theorem sharesDuelArbiter_iff {p q : LivePlayer} :
    p.sharesDuelArbiter q = true ↔
      ∃ d e, p.state.activeDuel = some d ∧ q.state.activeDuel = some e ∧
        d.arbiter = e.arbiter := by
  unfold sharesDuelArbiter
  cases p.state.activeDuel with
  | none => simp
  | some d =>
      cases q.state.activeDuel with
      | none => simp
      | some e => simp

theorem sharesDuelArbiter_comm (p q : LivePlayer) :
    p.sharesDuelArbiter q = q.sharesDuelArbiter p := by
  rw [Bool.eq_iff_iff, sharesDuelArbiter_iff, sharesDuelArbiter_iff]
  constructor
  · rintro ⟨d, e, hd, he, harbiter⟩
    exact ⟨e, d, he, hd, harbiter.symm⟩
  · rintro ⟨d, e, hd, he, harbiter⟩
    exact ⟨e, d, he, hd, harbiter.symm⟩

/-- Duelling each other is sharing an arbiter without sharing a side. -/
theorem duels_iff {p q : LivePlayer} :
    p.Duels q ↔ p.sharesDuelArbiter q = true ∧ p.sameDuelSide q = false := by
  constructor
  · rintro ⟨d, e, hd, he, harbiter, hdSide, heSide, hsides⟩
    have hdActive := PlayerState.activeDuel_eq_some_iff.2 ⟨hd, hdSide⟩
    have heActive := PlayerState.activeDuel_eq_some_iff.2 ⟨he, heSide⟩
    refine ⟨sharesDuelArbiter_iff.2 ⟨d, e, hdActive, heActive, harbiter⟩, ?_⟩
    simp [sameDuelSide, hdActive, heActive, hsides]
  · rintro ⟨hshared, hsides⟩
    obtain ⟨d, e, hdActive, heActive, harbiter⟩ := sharesDuelArbiter_iff.1 hshared
    obtain ⟨hd, hdSide⟩ := PlayerState.activeDuel_eq_some_iff.1 hdActive
    obtain ⟨he, heSide⟩ := PlayerState.activeDuel_eq_some_iff.1 heActive
    have hne : d.team ≠ e.team := by
      simpa [sameDuelSide, hdActive, heActive] using hsides
    exact ⟨d, e, hd, he, harbiter, hdSide, heSide, hne⟩

theorem Duels.symm {p q : LivePlayer} (h : p.Duels q) : q.Duels p := by
  obtain ⟨d, e, hd, he, harbiter, hdSide, heSide, hsides⟩ := h
  exact ⟨e, d, he, hd, harbiter.symm, heSide, hdSide, hsides.symm⟩

theorem isInDuelWith_iff {p q : LivePlayer} :
    p.isInDuelWith q = true ↔ p.id ≠ q.id ∧ p.Duels q := by
  rw [isInDuelWith, Bool.and_eq_true, Bool.and_eq_true, bne_iff_ne, Bool.not_eq_true', and_assoc,
    duels_iff]

end LivePlayer

end Rapport
