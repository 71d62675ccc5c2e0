import Rapport.Proofs.Membership.Partition

/-!
# Where reactions go both ways

Reactions are one-sided in general, but what two players settle between themselves is the same from
either side (`View.betweenPlayers?_comm`).  Each of their rules is symmetric, and so the first that
applies is the same: being one player, sharing an arbiter, being in one group, and being free for
all together.

Two units under players' control regard each other alike as soon as one of these rules applies or a
player in control is missing.  Where neither is so the players have settled nothing, and each unit
goes by the stance of its own player or else by its template
(`View.reaction_symm_of_settledByPlayers`).

The players are asked for their group as units, and what counts as a creature may go by friendship
there, which is one-sided.  Hence the world has to count its players as players.
-/

namespace Rapport

theorem LivePlayer.sameDuelSide_comm (p q : LivePlayer) : p.sameDuelSide q = q.sameDuelSide p :=
  BEq.comm

namespace View

variable {v : View} {a b : LiveUnit} {p q : LivePlayer} {i j : EntityId}

/-- Two players settle between themselves how their units regard each other: they are one player,
duel at one place, are in one group, or are both free for all. -/
def SettledBetween (v : View) (p q : LivePlayer) : Prop :=
  p.id = q.id ∨ p.sharesDuelArbiter q = true ∨ v.isInGroup p.toUnit q.toUnit false false = true ∨
    (p.isFreeForAll = true ∧ q.isFreeForAll = true)

/-- The players in control of two units settle the matter, or one of the players is missing. -/
def SettledByPlayers (v : View) (a b : LiveUnit) : Prop :=
  v.controller? a false = none ∨ v.controller? b false = none ∨
    ∃ p q, v.controller? a false = some p ∧ v.controller? b false = some q ∧ v.SettledBetween p q

/-! ### Between two players -/

theorem isSome_betweenPlayers?_iff : (v.betweenPlayers? p q).isSome ↔ v.SettledBetween p q := by
  unfold betweenPlayers? SettledBetween
  by_cases hid : p.id = q.id
  · simp [hid]
  · cases p.sharesDuelArbiter q with
    | true => simp [hid]
    | false =>
        cases v.isInGroup p.toUnit q.toUnit false false with
        | true => simp [hid]
        | false => simp [hid]

/-- Players are in one group from either side. -/
theorem isInGroup_comm_of_kind_eq_player (hp : p.kind = .player) (hq : q.kind = .player)
    (party : Bool) :
    v.isInGroup p.toUnit q.toUnit party false = v.isInGroup q.toUnit p.toUnit party false := by
  rw [isInGroup_of_kind_eq_player hp, isInGroup_of_kind_eq_player hq, Bool.eq_iff_iff]
  exact ⟨belongTogether_symm shareGroup_symm, belongTogether_symm shareGroup_symm⟩

theorem betweenPlayers?_comm (hp : p.kind = .player) (hq : q.kind = .player) :
    v.betweenPlayers? p q = v.betweenPlayers? q p := by
  unfold betweenPlayers?
  rw [p.sharesDuelArbiter_comm, p.sameDuelSide_comm, isInGroup_comm_of_kind_eq_player hp hq,
    Bool.and_comm]
  simp only [eq_comm (a := p.id)]

/-! ### Between two units -/

/-- Between two units under players' control the players come first, then the stance of the player
on the one side, and last the template. -/
theorem reaction_of_isPlayerControlled (ha : a.isPlayerControlled = true)
    (hb : b.isPlayerControlled = true) (hid : a.id ≠ b.id) :
    v.reaction a b = ((v.controlledReaction? a b).or (v.controllerStance? a b)).getD
      (v.reactionByTemplate a b) := by
  simp [reaction, ha, hb, hid]

theorem isSome_controlledReaction?_iff :
    (v.controlledReaction? a b).isSome ↔ v.SettledByPlayers a b := by
  unfold controlledReaction? SettledByPlayers
  cases v.controller? a false with
  | none => simp
  | some p =>
      cases v.controller? b false with
      | none => simp
      | some q => simp [isSome_betweenPlayers?_iff]

/-- What the players decide is the same from either side. -/
theorem controlledReaction?_comm (hkinds : v.world.KindsMatch) (ha : v.unit? i = some a)
    (hb : v.unit? j = some b) : v.controlledReaction? a b = v.controlledReaction? b a := by
  unfold controlledReaction?
  cases hp : v.controller? a false with
  | none => cases v.controller? b false <;> rfl
  | some p =>
      cases hq : v.controller? b false with
      | none => rfl
      | some q =>
          obtain ⟨_, hpStored⟩ := exists_player?_of_controller? ha hp
          obtain ⟨_, hqStored⟩ := exists_player?_of_controller? hb hq
          exact betweenPlayers?_comm (kind_of_player? hkinds hpStored)
            (kind_of_player? hkinds hqStored)

theorem settledByPlayers_comm (hkinds : v.world.KindsMatch) (ha : v.unit? i = some a)
    (hb : v.unit? j = some b) : v.SettledByPlayers a b ↔ v.SettledByPlayers b a := by
  rw [← isSome_controlledReaction?_iff, ← isSome_controlledReaction?_iff,
    controlledReaction?_comm hkinds ha hb]

/-- Where the players settle nothing, the stance of the one player decides, or else the template. -/
theorem reaction_of_not_settledByPlayers (ha : a.isPlayerControlled = true)
    (hb : b.isPlayerControlled = true) (hid : a.id ≠ b.id) (hopen : ¬ v.SettledByPlayers a b) :
    v.reaction a b = (v.controllerStance? a b).getD (v.reactionByTemplate a b) := by
  rw [← isSome_controlledReaction?_iff, Option.not_isSome_iff_eq_none] at hopen
  rw [reaction_of_isPlayerControlled ha hb hid, hopen, Option.none_or]

/-- Two units under players' control regard each other alike if the players settle the matter or one
of them is missing.  If the units do not regard each other alike, each has a player, the two players
have settled nothing, and each unit goes by the stance of its own player or else by its template. -/
theorem reaction_symm_of_settledByPlayers (hkinds : v.world.KindsMatch) (ha : v.unit? i = some a)
    (hb : v.unit? j = some b) (haControlled : a.isPlayerControlled = true)
    (hbControlled : b.isPlayerControlled = true) :
    (v.SettledByPlayers a b → v.reaction a b = v.reaction b a) ∧
    (v.reaction a b ≠ v.reaction b a →
      ∃ p q, v.controller? a false = some p ∧ v.controller? b false = some q ∧
        ¬ v.SettledBetween p q ∧
        v.reaction a b = (v.controllerStance? a b).getD (v.reactionByTemplate a b) ∧
        v.reaction b a = (v.controllerStance? b a).getD (v.reactionByTemplate b a)) := by
  by_cases hid : a.id = b.id
  · have hsame : v.reaction a b = v.reaction b a := by
      rw [reaction_of_id_eq hid, reaction_of_id_eq hid.symm]
    exact ⟨fun _ => hsame, fun hne => absurd hsame hne⟩
  have hsettled : v.SettledByPlayers a b → v.reaction a b = v.reaction b a := by
    intro h
    obtain ⟨r, hr⟩ := Option.isSome_iff_exists.1 (isSome_controlledReaction?_iff.2 h)
    rw [reaction_of_isPlayerControlled haControlled hbControlled hid,
      reaction_of_isPlayerControlled hbControlled haControlled (Ne.symm hid),
      ← controlledReaction?_comm hkinds ha hb, hr]
    rfl
  refine ⟨hsettled, fun hne => ?_⟩
  have hopen : ¬ v.SettledByPlayers a b := mt hsettled hne
  have hopen' : ¬ v.SettledByPlayers b a := mt (settledByPlayers_comm hkinds ha hb).2 hopen
  -- a missing player would have settled the matter
  obtain ⟨p, hp⟩ := Option.ne_none_iff_exists'.1 fun h => hopen (Or.inl h)
  obtain ⟨q, hq⟩ := Option.ne_none_iff_exists'.1 fun h => hopen (Or.inr (Or.inl h))
  refine ⟨p, q, hp, hq, fun h => hopen (Or.inr (Or.inr ⟨p, q, hp, hq, h⟩)), ?_, ?_⟩
  · exact reaction_of_not_settledByPlayers haControlled hbControlled hid hopen
  · exact reaction_of_not_settledByPlayers hbControlled haControlled (Ne.symm hid) hopen'

end View

/-- A player who is free for all, and at war with faction 21. -/
def desperado : LivePlayer :=
  ⟨⟨0⟩, .player, { factionTemplate := 1, flags := .only .playerControlled },
    { flags := .only .ffaPvp, reputation := Reputation.setAtWar {} 21 true }⟩

/-- A pet of the desperado. -/
def mastiff : LiveUnit :=
  ⟨⟨1⟩, .creature, { flags := .only .playerControlled, owner := some desperado.id }, .creature {}⟩

/-- Another player who is free for all. -/
def rustler : LivePlayer :=
  ⟨⟨2⟩, .player, { flags := .only .playerControlled }, { flags := .only .ffaPvp }⟩

/-- A player of faction 21. -/
def deputy : LivePlayer :=
  ⟨⟨3⟩, .player, { factionTemplate := 120, flags := .only .playerControlled }, {}⟩

/-- The desperado with the pet, the rustler and the deputy. -/
def badlands : View :=
  .ofUnits frontierData [desperado.toUnit, mastiff, rustler.toUnit, deputy.toUnit]

/-- Two who are free for all settle the matter for their pets too.  The desperado and the deputy
have settled nothing: the one is at war with a faction that is neutral to that one. -/
theorem reaction_symm_of_settledByPlayers_badlands :
    badlands.world.KindsMatch ∧
      badlands.unit? mastiff.id = some mastiff ∧
      badlands.unit? rustler.id = some rustler.toUnit ∧
      badlands.SettledByPlayers mastiff rustler.toUnit ∧
      badlands.reaction mastiff rustler.toUnit = .hostile ∧
      badlands.reaction rustler.toUnit mastiff = .hostile ∧
      badlands.unit? desperado.id = some desperado.toUnit ∧
      badlands.unit? deputy.id = some deputy.toUnit ∧
      badlands.reaction desperado.toUnit deputy.toUnit ≠
        badlands.reaction deputy.toUnit desperado.toUnit ∧
      ¬ badlands.SettledBetween desperado deputy := by
  have horderly : badlands.world.Orderly := World.orderly_ofBodies (by decide)
  have hsettled : badlands.SettledByPlayers mastiff rustler.toUnit :=
    Or.inr (Or.inr ⟨desperado, rustler, rfl, rfl, Or.inr (Or.inr (Or.inr ⟨rfl, rfl⟩))⟩)
  have hhostile : badlands.reaction mastiff rustler.toUnit = .hostile := rfl
  have hback : badlands.reaction mastiff rustler.toUnit =
      badlands.reaction rustler.toUnit mastiff :=
    (View.reaction_symm_of_settledByPlayers horderly.kindsMatch (i := mastiff.id)
      (j := rustler.id) rfl rfl rfl rfl).1 hsettled
  have hdiffer : badlands.reaction desperado.toUnit deputy.toUnit ≠
      badlands.reaction deputy.toUnit desperado.toUnit := by decide
  obtain ⟨p, q, hp, hq, hopen, -⟩ :=
    (View.reaction_symm_of_settledByPlayers horderly.kindsMatch (i := desperado.id)
      (j := deputy.id) rfl rfl rfl rfl).2 hdiffer
  obtain rfl : desperado = p := Option.some.inj hp
  obtain rfl : deputy = q := Option.some.inj hq
  exact ⟨horderly.kindsMatch, rfl, rfl, hsettled, hhostile, hback.symm.trans hhostile, rfl, rfl,
    hdiffer, hopen⟩

end Rapport
