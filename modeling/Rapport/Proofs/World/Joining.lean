import Rapport.Proofs.World.Commuting

/-!
# Joining a group and leaving it again

Joining a group happens altogether or not at all (`World.joining_law`).  It happens if there are
both the group and the player, and otherwise the world stays as it is.  Whoever joins names the new
group, has the place in it that was asked for, and is off the list of the group named before
(`World.Joined`); nothing else in the world changes.

None of this asks for a registry in order.  The player may name the group already, or one that is
gone or has never listed the player, and other groups may list the player and go on doing so.  Only
leaving again needs something: it brings the old world back if the player named no group and was not
on the list of the new one.
-/

namespace Rapport

/-- The entity with another named group, if it is a player. -/
def Entity.naming (e : Entity) (named : Option GroupId) : Entity :=
  e.mapBody (Body.mapPlayer fun p => { p with group := named })

namespace Entity

variable {e : Entity} {p : PlayerState} {named : Option GroupId}

/-- Of several changes of the named group the last one counts. -/
theorem naming_naming {first : Option GroupId} :
    (e.naming first).naming named = e.naming named := by
  obtain ⟨id, kind, body⟩ := e
  cases body with
  | unit u role => cases role <;> rfl
  | _ => rfl

theorem naming_of_namedGroup? (hnamed : e.body.namedGroup? = none) : e.naming none = e := by
  obtain ⟨id, kind, body⟩ := e
  cases body with
  | unit u role =>
      cases role with
      | player p =>
          -- the player names no group already
          have hgroup : p.group = none := hnamed
          obtain ⟨flags, group, guild, team, duel, reputation⟩ := p
          cases hgroup
          rfl
      | creature c => rfl
  | _ => rfl

end Entity

namespace World

variable {w : World} {g h : GroupId} {id k : EntityId} {subgroup : UInt8} {p : PlayerState}
  {group : Group}

/-- The second world is the first one after a player has joined a group. -/
structure Joined (w w' : World) (g : GroupId) (id : EntityId) (subgroup : UInt8) : Prop where
  /-- The player is the same but for the group named. -/
  player : w'.get? id = (w.get? id).map (·.naming (some g))
  named : w'.namedGroup? id = some g
  place : w'.place? g id = some (some subgroup)
  /-- Another group that the player named before no longer lists the player. -/
  left : ∀ h, w.namedGroup? id = some h → h ≠ g → ¬ w'.Lists h id
  entities : ∀ k, k ≠ id → w'.get? k = w.get? k
  /-- Everybody else keeps every place, and the player keeps those in any third group. -/
  places : ∀ h k, (k = id → h ≠ g ∧ w.namedGroup? id ≠ some h) → w'.place? h k = w.place? h k
  nextEntityId : w'.nextEntityId = w.nextEntityId
  nextGroupId : w'.nextGroupId = w.nextGroupId
  map : w'.map = w.map

/-! ### Entities after an operation -/

theorem get?_addToGroup (hgroup : w.group? g = some group) (hp : w.playerState? id = some p) :
    (w.addToGroup g id subgroup).2.get? k =
      if id = k then (w.get? k).map (·.naming (some g)) else w.get? k := by
  rw [addToGroup_of_found hgroup hp]
  refine get?_modifyBody.trans ?_
  rw [get?_dropFromNamed]
  rfl

/-- Whoever names no group is not changed by naming none. -/
theorem map_naming_none (hnamed : w.namedGroup? id = none) :
    (w.get? id).map (·.naming none) = w.get? id := by
  cases he : w.get? id with
  | none => rfl
  | some e =>
      have hbody : e.body.namedGroup? = none := by simpa [namedGroup?, he] using hnamed
      exact congrArg some (Entity.naming_of_namedGroup? hbody)

theorem get?_removeFromGroup :
    (w.removeFromGroup id).get? k =
      if id = k then (w.get? k).map (·.naming none) else w.get? k := by
  cases hp : w.playerState? id with
  | none =>
      rw [removeFromGroup_of_missing hp]
      by_cases hk : id = k
      · rw [if_pos hk, ← hk, map_naming_none (namedGroup?_eq_none_of_playerState? hp)]
      · rw [if_neg hk]
  | some p =>
      rw [removeFromGroup_of_found hp]
      refine get?_modifyBody.trans ?_
      rw [get?_dropFromNamed]
      rfl

/-! ### Places after an operation -/

theorem lists_iff_place? : w.Lists g id ↔ ∃ place, w.place? g id = some (some place) := by
  unfold Lists place? Group.isMember Keyed.contains Group.subgroup?
  simp only [Option.map_eq_some_iff, Option.isSome_iff_exists]
  constructor
  · rintro ⟨group, hgroup, place, hplace⟩
    exact ⟨place, group, hgroup, hplace⟩
  · rintro ⟨place, group, hgroup, hplace⟩
    exact ⟨group, hgroup, place, hplace⟩

/-- Whoever is not listed has no place to lose. -/
theorem place?_of_not_lists (hlists : ¬ w.Lists g id) :
    ((w.place? g id).map fun _ => none) = w.place? g id := by
  rw [lists_iff_place?] at hlists
  match hplace : w.place? g id with
  | none => rfl
  | some none => rfl
  | some (some place) => exact absurd ⟨place, hplace⟩ hlists

theorem place?_addMember :
    (w.addMember g id subgroup).place? h id =
      if g = h then (w.place? h id).map fun _ => some subgroup else w.place? h id :=
  place?_modifyGroup fun x => (Keyed.get?_insert x.members id id subgroup).trans (if_pos rfl)

theorem place?_dropFromNamed {named : Option GroupId} :
    (w.dropFromNamed named id).place? h id =
      if named = some h then (w.place? h id).map fun _ => none else w.place? h id := by
  cases named with
  | none => rfl
  | some other =>
      have hgone (x : Group) : (x.remove id).subgroup? id = none :=
        (Keyed.get?_erase x.members id id).trans (if_pos rfl)
      simp only [Option.some.injEq]
      exact place?_modifyGroup hgone

theorem place?_addToGroup (hgroup : w.group? g = some group) (hp : w.playerState? id = some p) :
    (w.addToGroup g id subgroup).2.place? h id =
      if g = h then (w.place? h id).map fun _ => some subgroup
      else if p.group = some h then (w.place? h id).map fun _ => none
      else w.place? h id := by
  have hdrop : (w.dropFromNamed (p.group.filter (· ≠ g)) id).place? h id =
      if p.group = some h ∧ h ≠ g then (w.place? h id).map fun _ => none else w.place? h id := by
    rw [place?_dropFromNamed]
    simp only [Option.filter_eq_some_iff, decide_eq_true_eq]
  rw [addToGroup_of_found hgroup hp]
  refine place?_addMember.trans ?_
  change (if g = h then ((w.dropFromNamed (p.group.filter (· ≠ g)) id).place? h id).map _
    else (w.dropFromNamed (p.group.filter (· ≠ g)) id).place? h id) = _
  rw [hdrop]
  by_cases hg : g = h
  · simp [hg]
  · simp [hg, Ne.symm hg]

theorem place?_removeFromGroup :
    (w.removeFromGroup id).place? h id =
      if w.namedGroup? id = some h then (w.place? h id).map fun _ => none else w.place? h id := by
  cases hp : w.playerState? id with
  | none =>
      rw [removeFromGroup_of_missing hp, namedGroup?_eq_none_of_playerState? hp]
      rfl
  | some p =>
      rw [removeFromGroup_of_found hp, namedGroup?_eq_of_playerState? hp]
      exact place?_dropFromNamed

/-! ### What else stays the same -/

theorem differAt_addToGroup : w.DifferAt (w.addToGroup g id subgroup).2 id := by
  have hop : (Operation.addToGroup g id subgroup).subject? = some id := rfl
  exact differAt_apply hop

theorem differAt_removeFromGroup : w.DifferAt (w.removeFromGroup id) id := by
  have hop : (Operation.removeFromGroup id).subject? = some id := rfl
  exact differAt_apply hop

theorem counters_addToGroup :
    (w.addToGroup g id subgroup).2.nextEntityId = w.nextEntityId ∧
      (w.addToGroup g id subgroup).2.nextGroupId = w.nextGroupId := by
  have hop : (Operation.addToGroup g id subgroup).subject? = some id := rfl
  exact counters_apply_of_subject? w hop

theorem counters_removeFromGroup :
    (w.removeFromGroup id).nextEntityId = w.nextEntityId ∧
      (w.removeFromGroup id).nextGroupId = w.nextGroupId := by
  have hop : (Operation.removeFromGroup id).subject? = some id := rfl
  exact counters_apply_of_subject? w hop

/-! ### Joining -/

theorem joined_addToGroup (hgroup : w.group? g = some group) (hp : w.playerState? id = some p) :
    w.Joined (w.addToGroup g id subgroup).2 g id subgroup := by
  have hframe : w.DifferAt (w.addToGroup g id subgroup).2 id := differAt_addToGroup
  have hnamed := namedGroup?_eq_of_playerState? hp
  refine
    { player := (get?_addToGroup hgroup hp).trans (if_pos rfl)
      named := (namedGroup?_addToGroup hgroup hp).trans (if_pos rfl)
      place := ?_
      left := fun h hbefore hne => ?_
      entities := hframe.entities
      places := fun h k hother => ?_
      nextEntityId := counters_addToGroup.1
      nextGroupId := counters_addToGroup.2
      map := hframe.map }
  · rw [place?_addToGroup hgroup hp, if_pos rfl, place?, hgroup]
    rfl
  · rw [lists_iff_place?, place?_addToGroup hgroup hp, if_neg (Ne.symm hne),
      if_pos (hnamed.symm.trans hbefore)]
    simp
  · by_cases hk : k = id
    · subst hk
      obtain ⟨hne, hbefore⟩ := hother rfl
      rw [place?_addToGroup hgroup hp, if_neg (Ne.symm hne), if_neg (hnamed ▸ hbefore)]
    · exact (hframe.agreesAt hk).place h

/-! ### Leaving again -/

/-- A world that differs from another at one entity at most, and agrees with it there, is the same
world, unless numbers were given out. -/
theorem eq_of_differAt {w' : World} (hframe : w.DifferAt w' id) (hagree : w.AgreesAt w' id)
    (hentity : w'.nextEntityId = w.nextEntityId) (hgroup : w'.nextGroupId = w.nextGroupId) :
    w' = w := by
  refine eq_of_agreesAt (fun k => ?_) hentity hgroup hframe.map
  by_cases hk : k = id
  · exact hk ▸ hagree
  · exact hframe.agreesAt hk

/-- Whoever names no group has none to leave. -/
theorem removeFromGroup_of_namedGroup? (hnamed : w.namedGroup? id = none) :
    w.removeFromGroup id = w := by
  refine eq_of_differAt differAt_removeFromGroup ⟨?_, fun h => ?_⟩ counters_removeFromGroup.1
    counters_removeFromGroup.2
  · rw [get?_removeFromGroup, if_pos rfl, map_naming_none hnamed]
  · rw [place?_removeFromGroup, hnamed]
    rfl

/-- Whoever names no group can join one and leave it again, and nothing has happened, unless the
group had listed the player before. -/
theorem removeFromGroup_addToGroup (hnamed : w.namedGroup? id = none) (hlists : ¬ w.Lists g id) :
    (w.addToGroup g id subgroup).2.removeFromGroup id = w := by
  rcases addToGroup_eq_self_or_found w g id subgroup with hself | ⟨group, p, hgroup, hp⟩
  · rw [hself]
    exact removeFromGroup_of_namedGroup? hnamed
  · have hjoined : w.Joined (w.addToGroup g id subgroup).2 g id subgroup :=
      joined_addToGroup hgroup hp
    have hframe : w.DifferAt ((w.addToGroup g id subgroup).2.removeFromGroup id) id :=
      differAt_addToGroup.trans differAt_removeFromGroup
    refine eq_of_differAt hframe ⟨?_, fun h => ?_⟩
      (counters_removeFromGroup.1.trans hjoined.nextEntityId)
      (counters_removeFromGroup.2.trans hjoined.nextGroupId)
    · rw [get?_removeFromGroup, if_pos rfl, hjoined.player, Option.map_map]
      simp only [Function.comp_def, Entity.naming_naming]
      exact map_naming_none hnamed
    · rw [place?_removeFromGroup, hjoined.named]
      by_cases hg : g = h
      · -- the place taken in the new group is given up again
        subst hg
        rw [if_pos rfl, hjoined.place, ← place?_of_not_lists hlists, place?, hgroup]
        rfl
      · rw [if_neg (by simpa using hg), hjoined.places h id fun _ => ⟨Ne.symm hg, by simp [hnamed]⟩]

/-- Joining a group either does not happen and changes nothing, or it happens and changes nothing
else; and it can be taken back. -/
theorem joining_law (w : World) (g : GroupId) (id : EntityId) (subgroup : UInt8) :
    ((w.addToGroup g id subgroup).1 = true ↔
        (∃ group, w.group? g = some group) ∧ ∃ p, w.playerState? id = some p) ∧
      ((w.addToGroup g id subgroup).1 = false → (w.addToGroup g id subgroup).2 = w) ∧
      ((w.addToGroup g id subgroup).1 = true →
        w.Joined (w.addToGroup g id subgroup).2 g id subgroup) ∧
      (w.namedGroup? id = none → ¬ w.Lists g id →
        (w.addToGroup g id subgroup).2.removeFromGroup id = w) := by
  have hdone : (w.addToGroup g id subgroup).1 = true ↔
      (∃ group, w.group? g = some group) ∧ ∃ p, w.playerState? id = some p := by
    rw [fst_addToGroup, Bool.and_eq_true, Option.isSome_iff_exists, Option.isSome_iff_exists]
  refine ⟨hdone, fun hfailed => ?_, fun hjoined => ?_, removeFromGroup_addToGroup⟩
  · rcases addToGroup_eq_self_or_found w g id subgroup with hself | ⟨group, p, hgroup, hp⟩
    · exact hself
    · -- with both of them there, joining does not fail
      rw [hdone.2 ⟨⟨group, hgroup⟩, p, hp⟩] at hfailed
      contradiction
  · obtain ⟨⟨group, hgroup⟩, p, hp⟩ := hdone.1 hjoined
    exact joined_addToGroup hgroup hp

end World

/-- The two players at odds, and a third one who is in no group. -/
def mediation : World := (quarrel.spawn (.newPlayer 1 .alliance)).2

/-- There is no third group to join.  The first player goes over to the second group, which has
listed that player all along, and the third player joins and leaves it without a trace. -/
theorem joining_law_mediation :
    (mediation.addToGroup ⟨2⟩ ⟨0⟩ 0).1 = false ∧
      (mediation.addToGroup ⟨2⟩ ⟨0⟩ 0).2 = mediation ∧
      (mediation.addToGroup ⟨1⟩ ⟨0⟩ 3).1 = true ∧
      mediation.Joined (mediation.addToGroup ⟨1⟩ ⟨0⟩ 3).2 ⟨1⟩ ⟨0⟩ 3 ∧
      mediation.namedGroup? ⟨2⟩ = none ∧ ¬ mediation.Lists ⟨1⟩ ⟨2⟩ ∧
      (mediation.addToGroup ⟨1⟩ ⟨2⟩ 5).2.removeFromGroup ⟨2⟩ = mediation := by
  have hunlisted : ¬ mediation.Lists ⟨1⟩ ⟨2⟩ := by
    rintro ⟨group, hgroup, hmember⟩
    cases hgroup
    contradiction
  obtain ⟨-, hfailed, -, -⟩ := World.joining_law mediation ⟨2⟩ ⟨0⟩ 0
  obtain ⟨-, -, hjoined, -⟩ := World.joining_law mediation ⟨1⟩ ⟨0⟩ 3
  obtain ⟨-, -, -, hundone⟩ := World.joining_law mediation ⟨1⟩ ⟨2⟩ 5
  exact ⟨rfl, hfailed rfl, rfl, hjoined rfl, rfl, hunlisted, hundone rfl hunlisted⟩

end Rapport
