import Rapport.Membership
import Rapport.Proofs.World.Operations

/-!
# Units under players' control

Many rules begin by asking for the players in control of two units, and `View.controllers?` is the
one place where both have to be there.  A player is a unit too and may have a master;
`LivePlayer.IsOwnMaster` says that it is not so, and then the player in control of the player is
that very player.

As soon as one of two units is under a player's control, groups go by the common rule of
`View.belongTogether`: the units are the same, or the players in control of them are the same or
related.  Group, side and guild then differ in nothing but the relation between the two players.  A
player who is their own master stands for themselves in that rule, so two such players who share a
group are in one group as units too.

`View.ofUnits` puts given units into a world of their own, where they stand under the numbers 0, 1,
2 and so on.
-/

namespace Rapport

/-! ### Worlds of given units -/

/-- The body that makes a unit what it is. -/
def LiveUnit.body (u : LiveUnit) : Body := .unit u.state u.role

/-- A world of given units, spawned one after another. -/
def View.ofUnits (data : FactionData) (units : List LiveUnit) : View where
  world := .ofBodies (units.map LiveUnit.body)
  data := data
  config := {}

/-- The view after one more entity has been spawned. -/
def View.withSpawned (v : View) (body : Body) : View := { v with world := (v.world.spawn body).2 }

/-- Template 1 has no faction; template 120 is of faction 21, with which players earn a standing. -/
def frontierData : FactionData where
  templates := .ofList [(1, { id := 1 }), (120, { id := 120, faction := 21 })]
  factions := .ofList [(21, { id := 21, reputationIndex := some 21 })]

/-! ### The players in control -/

/-- A player under a player's control who has no master: nobody else is in control. -/
structure LivePlayer.IsOwnMaster (p : LivePlayer) : Prop where
  controlled : p.toUnit.isPlayerControlled = true
  not_charmed : p.unitState.charmer = none
  not_owned : p.unitState.owner = none

/-- A unit is a player exactly if it is that player as a unit. -/
theorem LiveUnit.player?_eq_some_iff {u : LiveUnit} {p : LivePlayer} :
    u.player? = some p ↔ u = p.toUnit := by
  obtain ⟨_, _, _, role⟩ := u
  cases role with
  | player _ =>
      cases p
      simp [LiveUnit.player?, LivePlayer.toUnit]
  | creature _ => simp [LiveUnit.player?, LivePlayer.toUnit]

namespace View

variable {v : View} {a b : LiveUnit} {p q : LivePlayer}

/-- The player stored under a number is the unit stored there, if that is a player. -/
theorem player?_eq_some_iff {id : EntityId} :
    v.player? id = some p ↔ v.unit? id = some p.toUnit := by
  rw [player?, Option.bind_eq_some_iff]
  constructor
  · rintro ⟨u, hu, hp⟩
    rwa [← LiveUnit.player?_eq_some_iff.1 hp]
  · intro h
    exact ⟨p.toUnit, h, LiveUnit.player?_eq_some_iff.2 rfl⟩

theorem controller?_of_isOwnMaster (h : p.IsOwnMaster) : v.controller? p.toUnit false = some p := by
  have hmaster : p.toUnit.state.master = none := by
    simp [UnitState.master, LivePlayer.toUnit, h.not_charmed, h.not_owned]
  rw [controller?, if_neg Bool.false_ne_true, hmaster]
  rfl

/-- Both units are under players' control, and these are the players. -/
theorem controllers?_eq_some_iff {ignoreCharms : Bool} :
    v.controllers? a b ignoreCharms = some (p, q) ↔
      (a.isPlayerControlled = true ∧ b.isPlayerControlled = true) ∧
        v.controller? a ignoreCharms = some p ∧ v.controller? b ignoreCharms = some q := by
  unfold controllers?
  cases v.controller? a ignoreCharms with
  | none => simp
  | some p' =>
      cases v.controller? b ignoreCharms with
      | none => simp
      | some q' => simp [Bool.and_eq_true]

theorem controllers?_swap {ignoreCharms : Bool}
    (h : v.controllers? a b ignoreCharms = some (p, q)) :
    v.controllers? b a ignoreCharms = some (q, p) := by
  obtain ⟨⟨ha, hb⟩, hp, hq⟩ := controllers?_eq_some_iff.1 h
  exact controllers?_eq_some_iff.2 ⟨⟨hb, ha⟩, hq, hp⟩

/-! ### Membership -/

/-- Friendship stands for membership only between two units that no player controls. -/
theorem isInGroup_of_isPlayerControlled
    (h : a.isPlayerControlled = true ∨ b.isPlayerControlled = true) (party : Bool) :
    v.isInGroup a b party false = v.belongTogether (v.shareGroup · · party) a b false := by
  have huncontrolled : (!a.isPlayerControlled && !b.isPlayerControlled) = false := by
    rcases h with h | h <;> simp [h]
  unfold isInGroup
  -- players, creatures, and units of no proper kind each have an entry of their own
  split
  · rfl
  · rw [huncontrolled]
    rfl
  · rfl

/-- What counts as a player goes by the common rule too. -/
theorem isInGroup_of_kind_eq_player (h : a.kind = .player) (party : Bool) :
    v.isInGroup a b party false = v.belongTogether (v.shareGroup · · party) a b false := by
  unfold isInGroup
  rw [h]
  split
  · rfl
  · contradiction
  · rfl

theorem belongTogether_iff {related : LivePlayer → LivePlayer → Bool} {ignoreCharms : Bool} :
    v.belongTogether related a b ignoreCharms = true ↔
      a.id = b.id ∨ ∃ p q, v.controllers? a b ignoreCharms = some (p, q) ∧
        (p.id = q.id ∨ related p q = true) := by
  simp [belongTogether, Option.any_eq_true]

theorem controllers?_of_isOwnMaster (hp : p.IsOwnMaster) (hq : q.IsOwnMaster) :
    v.controllers? p.toUnit q.toUnit false = some (p, q) :=
  controllers?_eq_some_iff.2 ⟨⟨hp.controlled, hq.controlled⟩,
    controller?_of_isOwnMaster hp, controller?_of_isOwnMaster hq⟩

theorem isInGroup_of_shareGroup (hp : p.IsOwnMaster) (hq : q.IsOwnMaster) {party : Bool}
    (hshared : v.shareGroup p q party = true) :
    v.isInGroup p.toUnit q.toUnit party false = true := by
  rw [isInGroup_of_isPlayerControlled (Or.inl hp.controlled), belongTogether_iff]
  exact Or.inr ⟨p, q, controllers?_of_isOwnMaster hp hq, Or.inr hshared⟩

end View

end Rapport
