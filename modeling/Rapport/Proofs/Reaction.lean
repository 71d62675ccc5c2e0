import Rapport.Reaction
import Rapport.Proofs.Duel
import Rapport.Proofs.Control
import Rapport.Proofs.Standing

/-!
# Reactions between units of players

Between two units under players' control the two players decide first.  The lemmas here say what
each of their rules makes of the pair, whichever units the players control:

* one player on both sides makes friends;
* a duel with each other makes them hostile;
* a common group makes friends, unless the players share an arbiter.

`View.not_allied_of_not_isFriend` reads the same rules backwards: whoever is not a friend has a
player of his own, who duels the other player or shares neither duel nor group with him.
-/

namespace Rapport.View

variable {v : View} {a b : LiveUnit} {p q : LivePlayer}

/-- Every unit is friendly to itself. -/
theorem reaction_of_id_eq (hid : a.id = b.id) : v.reaction a b = .friendly := by
  simp [reaction, hid]

/-- Between two units of players, the players come first, then the stance of the first player, and
last the template. -/
theorem reaction_of_controllers (hctrl : v.controllers? a b false = some (p, q))
    (hid : a.id ≠ b.id) :
    v.reaction a b =
      ((v.betweenPlayers? p q).or (v.controllerStance? a b)).getD (v.reactionByTemplate a b) := by
  obtain ⟨⟨ha, hb⟩, hp, hq⟩ := controllers?_eq_some_iff.1 hctrl
  simp [reaction, controlledReaction?, hid, ha, hb, hp, hq]

/-- What the two players decide between themselves is final. -/
theorem reaction_of_betweenPlayers {r : Rank} (hctrl : v.controllers? a b false = some (p, q))
    (hid : a.id ≠ b.id) (hr : v.betweenPlayers? p q = some r) : v.reaction a b = r := by
  rw [reaction_of_controllers hctrl hid, hr]
  rfl

/-! ### What the players decide -/

theorem betweenPlayers?_of_id_eq (hsame : p.id = q.id) :
    v.betweenPlayers? p q = some .friendly := by
  simp [betweenPlayers?, hsame]

theorem betweenPlayers?_of_duels (hne : p.id ≠ q.id) (hduel : p.Duels q) :
    v.betweenPlayers? p q = some .hostile := by
  obtain ⟨hshared, hside⟩ := LivePlayer.duels_iff.1 hduel
  simp [betweenPlayers?, hne, hshared, hside]

theorem betweenPlayers?_of_sameDuelSide (hshared : p.sharesDuelArbiter q = true)
    (hside : p.sameDuelSide q = true) : v.betweenPlayers? p q = some .friendly := by
  simp [betweenPlayers?, hshared, hside]

theorem betweenPlayers?_of_isInGroup (hshared : p.sharesDuelArbiter q = false)
    (hgroup : v.isInGroup p.toUnit q.toUnit false false = true) :
    v.betweenPlayers? p q = some .friendly := by
  simp [betweenPlayers?, hshared, hgroup]

/-! ### Friends -/

/-- Two units whose players settle on friendship are friends, and so is a unit with itself. -/
theorem reaction_eq_friendly_of_betweenPlayers
    (hctrl : v.controllers? a b false = some (p, q))
    (hr : v.betweenPlayers? p q = some .friendly) : v.reaction a b = .friendly := by
  by_cases hid : a.id = b.id
  · exact reaction_of_id_eq hid
  · exact reaction_of_betweenPlayers hctrl hid hr

theorem isFriend_of_reaction_eq_friendly (h : v.reaction a b = .friendly) :
    v.isFriend a b = true := by
  rw [isFriend, h]
  rfl

theorem isFriend_of_isEnemy (h : v.isEnemy a b = true) : v.isFriend a b = false :=
  Rank.isFriend_of_isEnemy h

/-- Units under one player are friendly, whoever they are. -/
theorem reaction_of_one_controller (hctrl : v.controllers? a b false = some (p, q))
    (hsame : p.id = q.id) : v.reaction a b = .friendly :=
  reaction_eq_friendly_of_betweenPlayers hctrl (betweenPlayers?_of_id_eq hsame)

theorem isFriend_of_one_controller (hctrl : v.controllers? a b false = some (p, q))
    (hsame : p.id = q.id) : v.isFriend a b = true :=
  isFriend_of_reaction_eq_friendly (reaction_of_one_controller hctrl hsame)

/-- Units that are no friends are under different players, and these duel each other, or else share
neither an arbiter nor a group. -/
theorem not_allied_of_not_isFriend (hctrl : v.controllers? a b false = some (p, q))
    (hfriend : v.isFriend a b = false) :
    p.id ≠ q.id ∧
      (p.Duels q ∨ (p.sharesDuelArbiter q = false ∧
        v.isInGroup p.toUnit q.toUnit false false = false)) := by
  have hdecided : v.betweenPlayers? p q ≠ some .friendly := by
    intro hr
    have hfriendly := isFriend_of_reaction_eq_friendly
      (reaction_eq_friendly_of_betweenPlayers hctrl hr)
    rw [hfriendly] at hfriend
    contradiction
  refine ⟨fun hsame => hdecided (betweenPlayers?_of_id_eq hsame), ?_⟩
  -- every rule that makes friends of two players is ruled out in turn
  cases hshared : p.sharesDuelArbiter q with
  | true =>
      cases hside : p.sameDuelSide q with
      | true => exact absurd (betweenPlayers?_of_sameDuelSide hshared hside) hdecided
      | false => exact Or.inl (LivePlayer.duels_iff.2 ⟨hshared, hside⟩)
  | false =>
      cases hgroup : v.isInGroup p.toUnit q.toUnit false false with
      | true => exact absurd (betweenPlayers?_of_isInGroup hshared hgroup) hdecided
      | false => exact Or.inr ⟨rfl, rfl⟩

end Rapport.View
