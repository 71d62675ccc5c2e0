import Rapport.World

/-!
# Look-ups after an operation

What is found in a world after an operation on it, in terms of what was found before.  Every
operation is described by three look-ups: the entity stored under a number (`World.get?`), the group
that a stored player names (`World.namedGroup?`), and whether a group lists an entity
(`World.Lists`).  The last two are the two places where membership is written down.
-/

namespace Rapport

/-- The group that a body names, if it is the body of a player. -/
def Body.namedGroup? (body : Body) : Option GroupId := body.player?.bind (·.group)

namespace World

variable {w : World} {id k : EntityId} {g h : GroupId}

/-- The group that the player stored under a number names. -/
def namedGroup? (w : World) (id : EntityId) : Option GroupId :=
  (w.get? id).bind (·.body.namedGroup?)

/-- There is a group of the given number, and it lists the entity. -/
def Lists (w : World) (g : GroupId) (id : EntityId) : Prop :=
  ∃ group, w.group? g = some group ∧ group.isMember id = true

theorem namedGroup?_eq_of_playerState? {p : PlayerState} (hp : w.playerState? id = some p) :
    w.namedGroup? id = p.group := by
  obtain ⟨e, he, hbody⟩ := Option.bind_eq_some_iff.1 hp
  simp [namedGroup?, Body.namedGroup?, he, hbody]

theorem namedGroup?_eq_none_of_playerState? (hp : w.playerState? id = none) :
    w.namedGroup? id = none := by
  unfold namedGroup? Body.namedGroup?
  rw [← Option.bind_assoc]
  change (w.playerState? id).bind _ = none
  rw [hp]
  rfl

/-! ### Striking off a list -/

@[simp] theorem get?_dropFromNamed {named : Option GroupId} :
    (w.dropFromNamed named id).get? k = w.get? k := by
  cases named <;> rfl

theorem playerState?_dropFromNamed {named : Option GroupId} :
    (w.dropFromNamed named id).playerState? k = w.playerState? k := by
  rw [playerState?, get?_dropFromNamed]
  rfl

theorem namedGroup?_dropFromNamed {named : Option GroupId} :
    (w.dropFromNamed named id).namedGroup? k = w.namedGroup? k := by
  rw [namedGroup?, get?_dropFromNamed]
  rfl

theorem group?_dropMember :
    (w.dropMember h id).group? g =
      if h = g then (w.group? g).map (·.remove id) else w.group? g :=
  Keyed.get?_modify w.groups h g (·.remove id)

theorem lists_dropMember_iff :
    (w.dropMember h id).Lists g k ↔ w.Lists g k ∧ ¬ (h = g ∧ id = k) := by
  unfold Lists
  rw [group?_dropMember]
  by_cases hg : h = g
  · subst hg
    cases w.group? h with
    | none => simp
    | some group =>
        by_cases hk : id = k
        · simp [Group.isMember, Group.remove, Keyed.contains, hk]
        · simp [Group.isMember, Group.remove, Keyed.contains, hk]
  · simp [hg]

theorem isSome_group?_dropFromNamed {named : Option GroupId} :
    ((w.dropFromNamed named id).group? g).isSome = (w.group? g).isSome := by
  cases named with
  | none => rfl
  | some other =>
      rw [dropFromNamed, group?_dropMember]
      by_cases hg : other = g
      · rw [if_pos hg, Option.isSome_map]
      · rw [if_neg hg]

theorem lists_dropFromNamed_iff {named : Option GroupId} :
    (w.dropFromNamed named id).Lists g k ↔ w.Lists g k ∧ ¬ (named = some g ∧ id = k) := by
  cases named with
  | none => simp [dropFromNamed]
  | some h =>
      rw [Option.some.injEq]
      exact lists_dropMember_iff

/-! ### Changing a body -/

theorem get?_modifyBody {f : Body → Body} :
    (w.modifyBody id f).get? k =
      if id = k then (w.get? k).map (Entity.mapBody f) else w.get? k :=
  Keyed.get?_modify w.entities id k (Entity.mapBody f)

@[simp] theorem lists_modifyBody {f : Body → Body} :
    (w.modifyBody id f).Lists g k ↔ w.Lists g k := Iff.rfl

/-- A player's group is changed, and nobody else's. -/
theorem namedGroup?_modifyPlayer {named : Option GroupId} {p : PlayerState}
    (hp : w.playerState? id = some p) :
    (w.modifyPlayer id fun p => { p with group := named }).namedGroup? k =
      if id = k then named else w.namedGroup? k := by
  obtain ⟨e, he, hbody⟩ := Option.bind_eq_some_iff.1 hp
  unfold namedGroup? modifyPlayer
  rw [get?_modifyBody]
  by_cases hk : id = k
  · rw [if_pos hk, if_pos hk, ← hk, he]
    -- the body is that of a player, since the player's state was found in it
    cases hb : e.body with
    | unit u role =>
        cases role with
        | player p' => simp [Entity.mapBody, Body.mapPlayer, Body.namedGroup?, Body.player?,
            Role.player?, hb]
        | creature c => simp [hb, Body.player?, Role.player?] at hbody
    | _ => simp [hb, Body.player?] at hbody
  · rw [if_neg hk, if_neg hk]

/-! ### Coming and going -/

theorem get?_spawn {body : Body} :
    (w.spawn body).2.get? k =
      if (⟨w.nextEntityId⟩ : EntityId) = k then some (.ofBody ⟨w.nextEntityId⟩ body)
      else w.get? k :=
  Keyed.get?_insert w.entities ⟨w.nextEntityId⟩ k (.ofBody ⟨w.nextEntityId⟩ body)

theorem namedGroup?_spawn {body : Body} :
    (w.spawn body).2.namedGroup? k =
      if (⟨w.nextEntityId⟩ : EntityId) = k then body.namedGroup? else w.namedGroup? k := by
  unfold namedGroup?
  rw [get?_spawn]
  split
  · rfl
  · rfl

@[simp] theorem lists_spawn {body : Body} : (w.spawn body).2.Lists g k ↔ w.Lists g k := Iff.rfl

theorem despawn_of_missing (he : w.get? id = none) : (w.despawn id).2 = w := by
  rw [despawn, he]

theorem despawn_of_found {e : Entity} (he : w.get? id = some e) :
    (w.despawn id).2 =
      { w with entities := w.entities.erase id }.dropFromNamed (w.namedGroup? id) id := by
  simp only [despawn, namedGroup?, he]
  rfl

theorem fst_despawn : (w.despawn id).1 = w.get? id := by
  rw [despawn]
  cases w.get? id <;> rfl

theorem get?_despawn : (w.despawn id).2.get? k = if id = k then none else w.get? k := by
  cases he : w.get? id with
  | none =>
      rw [despawn_of_missing he]
      by_cases hk : id = k
      · rw [if_pos hk, ← hk]
        exact he
      · rw [if_neg hk]
  | some e =>
      rw [despawn_of_found he, get?_dropFromNamed]
      exact Keyed.get?_erase w.entities id k

theorem namedGroup?_despawn :
    (w.despawn id).2.namedGroup? k = if id = k then none else w.namedGroup? k := by
  unfold namedGroup?
  rw [get?_despawn]
  split
  · rfl
  · rfl

/-- Whoever leaves the world is struck off the list of the named group, and only of that. -/
theorem lists_despawn_iff :
    (w.despawn id).2.Lists g k ↔ w.Lists g k ∧ ¬ (w.namedGroup? id = some g ∧ id = k) := by
  cases he : w.get? id with
  | none =>
      rw [despawn_of_missing he]
      simp [namedGroup?, he]
  | some e =>
      rw [despawn_of_found he]
      exact lists_dropFromNamed_iff

/-- The world into which bodies have been spawned one after another. -/
def ofBodies (bodies : List Body) : World := bodies.foldl (fun w body => (w.spawn body).2) {}

/-! ### Groups -/

theorem group?_createGroup :
    w.createGroup.2.group? g =
      if (⟨w.nextGroupId⟩ : GroupId) = g then some {} else w.group? g :=
  Keyed.get?_insert w.groups ⟨w.nextGroupId⟩ g {}

/-- A new group lists nobody, so nothing changes as long as its number is new. -/
theorem lists_createGroup_iff (hnew : w.group? ⟨w.nextGroupId⟩ = none) :
    w.createGroup.2.Lists g k ↔ w.Lists g k := by
  unfold Lists
  rw [group?_createGroup]
  by_cases hg : (⟨w.nextGroupId⟩ : GroupId) = g
  · rw [if_pos hg, ← hg, hnew]
    -- neither an empty group nor a missing one lists anybody
    constructor
    · rintro ⟨group, hempty, hmember⟩
      cases hempty
      contradiction
    · rintro ⟨group, hnone, -⟩
      contradiction
  · rw [if_neg hg]

/-- Puts an entity on the list of a group. -/
def addMember (w : World) (g : GroupId) (id : EntityId) (subgroup : UInt8) : World :=
  { w with groups := w.groups.modify g (·.add id subgroup) }

section Joining

variable {subgroup : UInt8} {group : Group} {p : PlayerState}

theorem group?_addMember :
    (w.addMember g id subgroup).group? h =
      if g = h then (w.group? h).map (·.add id subgroup) else w.group? h :=
  Keyed.get?_modify w.groups g h (·.add id subgroup)

theorem isSome_group?_addMember :
    ((w.addMember g id subgroup).group? h).isSome = (w.group? h).isSome := by
  rw [group?_addMember]
  by_cases hg : g = h
  · rw [if_pos hg, Option.isSome_map]
  · rw [if_neg hg]

theorem lists_addMember_iff (hgroup : (w.group? g).isSome) :
    (w.addMember g id subgroup).Lists h k ↔ w.Lists h k ∨ (g = h ∧ id = k) := by
  unfold Lists
  rw [group?_addMember]
  by_cases hg : g = h
  · subst hg
    obtain ⟨group, hgroup⟩ := Option.isSome_iff_exists.1 hgroup
    rw [if_pos rfl, hgroup]
    by_cases hk : id = k
    · simp [Group.isMember, Group.add, Keyed.contains, hk]
    · simp [Group.isMember, Group.add, Keyed.contains, hk]
  · simp [hg]

/-- Either nothing happens, or there are both the group and the player. -/
theorem addToGroup_eq_self_or_found (w : World) (g : GroupId) (id : EntityId) (subgroup : UInt8) :
    (w.addToGroup g id subgroup).2 = w ∨
      ∃ group p, w.group? g = some group ∧ w.playerState? id = some p := by
  unfold addToGroup
  cases hgroup : w.group? g with
  | none => exact Or.inl rfl
  | some group =>
      cases hp : w.playerState? id with
      | none => exact Or.inl rfl
      | some p => exact Or.inr ⟨group, p, rfl, rfl⟩

theorem addToGroup_of_missing (h : w.group? g = none ∨ w.playerState? id = none) :
    w.addToGroup g id subgroup = (false, w) := by
  rw [addToGroup]
  rcases h with h | h
  · rw [h]
  · rw [h]
    cases w.group? g <;> rfl

theorem fst_addToGroup :
    (w.addToGroup g id subgroup).1 = ((w.group? g).isSome && (w.playerState? id).isSome) := by
  rw [addToGroup]
  cases w.group? g with
  | none => rfl
  | some group => cases w.playerState? id <;> rfl

/-- Joining a group is leaving the list of another named group, naming the new one, and being listed
by it. -/
theorem addToGroup_of_found (hgroup : w.group? g = some group)
    (hp : w.playerState? id = some p) :
    (w.addToGroup g id subgroup).2 =
      ((w.dropFromNamed (p.group.filter (· ≠ g)) id).modifyPlayer id
        fun p => { p with group := some g }).addMember g id subgroup := by
  simp only [addToGroup, hgroup, hp]
  rfl

theorem namedGroup?_addToGroup (hgroup : w.group? g = some group)
    (hp : w.playerState? id = some p) :
    (w.addToGroup g id subgroup).2.namedGroup? k =
      if id = k then some g else w.namedGroup? k := by
  rw [addToGroup_of_found hgroup hp]
  refine (namedGroup?_modifyPlayer (playerState?_dropFromNamed.trans hp)).trans ?_
  rw [namedGroup?_dropFromNamed]

theorem lists_addToGroup_iff (hgroup : w.group? g = some group)
    (hp : w.playerState? id = some p) :
    (w.addToGroup g id subgroup).2.Lists h k ↔
      (w.Lists h k ∧ ¬ (p.group.filter (· ≠ g) = some h ∧ id = k)) ∨ (g = h ∧ id = k) := by
  rw [addToGroup_of_found hgroup hp]
  -- leaving another group does not take the new one away
  have hfound : ((w.dropFromNamed (p.group.filter (· ≠ g)) id).group? g).isSome := by
    rw [isSome_group?_dropFromNamed, hgroup]
    rfl
  exact (lists_addMember_iff hfound).trans (or_congr_left lists_dropFromNamed_iff)

end Joining

theorem removeFromGroup_of_missing (hp : w.playerState? id = none) :
    w.removeFromGroup id = w := by
  rw [removeFromGroup, hp]

theorem removeFromGroup_of_found {p : PlayerState} (hp : w.playerState? id = some p) :
    w.removeFromGroup id =
      (w.dropFromNamed p.group id).modifyPlayer id fun p => { p with group := none } := by
  rw [removeFromGroup, hp]

theorem namedGroup?_removeFromGroup :
    (w.removeFromGroup id).namedGroup? k = if id = k then none else w.namedGroup? k := by
  cases hp : w.playerState? id with
  | none =>
      rw [removeFromGroup_of_missing hp]
      by_cases hk : id = k
      · rw [if_pos hk, ← hk]
        exact namedGroup?_eq_none_of_playerState? hp
      · rw [if_neg hk]
  | some p =>
      rw [removeFromGroup_of_found hp,
        namedGroup?_modifyPlayer (playerState?_dropFromNamed.trans hp), namedGroup?_dropFromNamed]

/-- Whoever leaves a group is struck off the list of the named group, and only of that. -/
theorem lists_removeFromGroup_iff :
    (w.removeFromGroup id).Lists g k ↔ w.Lists g k ∧ ¬ (w.namedGroup? id = some g ∧ id = k) := by
  cases hp : w.playerState? id with
  | none =>
      rw [removeFromGroup_of_missing hp, namedGroup?_eq_none_of_playerState? hp]
      simp
  | some p =>
      rw [removeFromGroup_of_found hp, namedGroup?_eq_of_playerState? hp]
      exact lists_dropFromNamed_iff

end World

end Rapport
