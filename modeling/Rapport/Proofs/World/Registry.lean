import Rapport.Proofs.World.Run

/-!
# The registry of groups

Membership in a group is written down twice, with the player and with the group.  Where no player is
spawned into a group and no edit touches the group that a player names (`Operation.KeepsGroups`),
the two agree in every world that a run reaches: `World.RegistryAgrees` is kept by each operation,
provided that new numbers are free.  `World.SoundRegistry` spells out what that means for the
members of a group.
-/

namespace Rapport

/-- A spawned body names no group, and an edit keeps the kind of an entity and the group that it
names. -/
def Operation.KeepsGroups (w : World) : Operation → Prop
  | .spawn body => body.namedGroup? = none
  | .edit id body => ∀ e, w.get? id = some e →
      body.kind = e.body.kind ∧ body.namedGroup? = e.body.namedGroup?
  | _ => True

theorem Operation.KeepsGroups.keepsKind {w : World} {op : Operation} (h : op.KeepsGroups w) :
    op.KeepsKind w := by
  cases op with
  | edit id body => exact fun e he => (h e he).1
  | _ => trivial

namespace World

variable {w : World} {op : Operation}

/-- A player names exactly the groups that list the player. -/
def RegistryAgrees (w : World) : Prop :=
  ∀ id g, w.namedGroup? id = some g ↔ w.Lists g id

theorem registryAgrees_empty (map : MapInfo) : ({ map } : World).RegistryAgrees := by
  intro id g
  constructor
  · intro hnamed
    cases hnamed
  · rintro ⟨group, hgroup, -⟩
    cases hgroup

/-- An edit that keeps the named group keeps what everyone names. -/
theorem namedGroup?_edit {id k : EntityId} {body : Body}
    (hnamed : ∀ e, w.get? id = some e → body.namedGroup? = e.body.namedGroup?) :
    (w.modifyBody id fun _ => body).namedGroup? k = w.namedGroup? k := by
  unfold namedGroup?
  rw [get?_modifyBody]
  by_cases hk : id = k
  · subst hk
    rw [if_pos rfl]
    cases he : w.get? id with
    | none => rfl
    | some e => exact hnamed e he
  · rw [if_neg hk]

/-- Each operation keeps the two sides of membership in agreement. -/
theorem RegistryAgrees.apply (hagrees : w.RegistryAgrees) (hw : w.Orderly)
    (hop : op.KeepsGroups w) : (w.apply op).RegistryAgrees := by
  intro k h
  -- each case brings both sides back to what they were before the operation
  have hk := hagrees k h
  cases op with
  | spawn body =>
      rw [World.apply, namedGroup?_spawn, lists_spawn, ← hk]
      split
      · rename_i hnext
        -- the number is new, so nobody stood under it before
        rw [show body.namedGroup? = none from hop, ← hnext, namedGroup?, hw.get?_next]
        rfl
      · rfl
  | despawn id =>
      rw [World.apply, namedGroup?_despawn, lists_despawn_iff, ← hk]
      by_cases hid : id = k
      · simp [hid]
      · simp [hid]
  | createGroup =>
      rw [World.apply, lists_createGroup_iff hw.group?_next]
      exact hk
  | addToGroup g id subgroup =>
      rw [World.apply]
      rcases addToGroup_eq_self_or_found w g id subgroup with hself | ⟨group, p, hgroup, hp⟩
      · rw [hself]
        exact hk
      · rw [namedGroup?_addToGroup hgroup hp, lists_addToGroup_iff hgroup hp, ← hk]
        by_cases hid : id = k
        · subst hid
          -- the player is struck off the list of the group named before, unless it is the new one
          rw [namedGroup?_eq_of_playerState? hp]
          by_cases hg : g = h
          · simp [hg]
          · have hleft : p.group = some h → p.group.filter (· ≠ g) = some h := by
              intro hnamed
              simp [hnamed, Ne.symm hg]
            simpa [hg] using hleft
        · simp [hid]
  | removeFromGroup id =>
      rw [World.apply, namedGroup?_removeFromGroup, lists_removeFromGroup_iff, ← hk]
      by_cases hid : id = k
      · simp [hid]
      · simp [hid]
  | edit id body =>
      rw [World.apply, namedGroup?_edit fun e he => (hop e he).2, lists_modifyBody]
      exact hk

theorem exists_player_of_namedGroup? {id : EntityId} {g : GroupId}
    (hnamed : w.namedGroup? id = some g) :
    ∃ e p, w.get? id = some e ∧ e.body.player? = some p ∧ p.group = some g := by
  obtain ⟨e, he, hbody⟩ := Option.bind_eq_some_iff.1 hnamed
  obtain ⟨p, hp, hgroup⟩ := Option.bind_eq_some_iff.1 hbody
  exact ⟨e, p, he, hp, hgroup⟩

end World

/-- Only the body of a player has the state of one. -/
theorem Body.kind_of_player? {body : Body} {p : PlayerState} (hp : body.player? = some p) :
    body.kind = .player := by
  cases body with
  | unit u role =>
      cases role with
      | player p' => rfl
      | creature c => cases hp
  | _ => cases hp

/-- What the two sides of membership have to do with each other. -/
structure World.SoundRegistry (w : World) : Prop where
  /-- A player names a group exactly if the group is there and lists the player. -/
  named_iff_listed : ∀ {id e p}, w.get? id = some e → e.body.player? = some p → ∀ g,
    p.group = some g ↔ ∃ group, w.group? g = some group ∧ group.isMember id = true
  /-- Whoever is listed is a player of the world. -/
  player_of_listed : ∀ {g group id}, w.group? g = some group → group.isMember id = true →
    ∃ e p, w.get? id = some e ∧ e.id = id ∧ e.kind = .player ∧ e.body.player? = some p
  /-- Nobody is listed by two groups. -/
  eq_of_listed : ∀ {id g g' group group'}, w.group? g = some group → group.isMember id = true →
    w.group? g' = some group' → group'.isMember id = true → g = g'

theorem World.RegistryAgrees.sound {w : World} (hagrees : w.RegistryAgrees) (hw : w.Orderly) :
    w.SoundRegistry := by
  constructor
  · intro id e p he hp g
    have hnamed : w.namedGroup? id = p.group := by
      simp [World.namedGroup?, Body.namedGroup?, he, hp]
    rw [← hnamed]
    exact hagrees id g
  · intro g group id hgroup hmember
    obtain ⟨e, p, he, hp, -⟩ :=
      World.exists_player_of_namedGroup? ((hagrees id g).2 ⟨group, hgroup, hmember⟩)
    exact ⟨e, p, he, hw.own_id he, (hw.own_kind he).trans (Body.kind_of_player? hp), hp⟩
  · intro id g g' group group' hgroup hmember hgroup' hmember'
    have hnamed := (hagrees id g).2 ⟨group, hgroup, hmember⟩
    have hnamed' := (hagrees id g').2 ⟨group', hgroup', hmember'⟩
    exact Option.some.inj (hnamed.symm.trans hnamed')

/-- A run that respects the registry reaches orderly worlds in which the registry agrees. -/
theorem Run.orderly_and_registryAgrees {ops : List Operation} {w : World}
    (hrun : Run Operation.KeepsGroups ops w) (hspawned : spawned ops < UInt64.size)
    (hfounded : founded ops < UInt32.size) : w.Orderly ∧ w.RegistryAgrees := by
  refine hrun.invariant (P := fun w => w.Orderly ∧ w.RegistryAgrees) hspawned hfounded ?_ ?_
  · intro map
    exact ⟨World.orderly_empty map, World.registryAgrees_empty map⟩
  · rintro w op ⟨hw, hagrees⟩ hop hroom
    exact ⟨hw.apply hop.keepsKind hroom, hagrees.apply hw hop⟩

/-- Whatever order players and groups come and go in, the registry of every world on the way is
sound. -/
theorem Run.soundRegistry {ops : List Operation} {w : World}
    (hrun : Run Operation.KeepsGroups ops w) (hspawned : spawned ops < UInt64.size)
    (hfounded : founded ops < UInt32.size) : w.SoundRegistry := by
  obtain ⟨hw, hagrees⟩ := hrun.orderly_and_registryAgrees hspawned hfounded
  exact hagrees.sound hw

/-- Two players and a creature arrive.  The first player goes from one group to another and there
into another subgroup, while the creature is kept out and edited.  The second player leaves the
group that the first has left already, joins the other one, and goes while in it. -/
def passage : List Operation :=
  [.spawn (.newPlayer 1 .alliance), .spawn (.newPlayer 1 .horde), .spawn (.newCreature 2),
    .createGroup, .createGroup, .addToGroup ⟨0⟩ ⟨0⟩ 0, .addToGroup ⟨0⟩ ⟨1⟩ 0,
    .addToGroup ⟨1⟩ ⟨0⟩ 0, .addToGroup ⟨1⟩ ⟨0⟩ 3, .addToGroup ⟨1⟩ ⟨2⟩ 0,
    .edit ⟨2⟩ (.newCreature 3), .removeFromGroup ⟨1⟩, .addToGroup ⟨1⟩ ⟨1⟩ 2, .despawn ⟨1⟩]

/-- The world that is left. -/
def afterPassage : World := passage.foldl World.apply {}

/-- The first player names the second group and is the only one on its list.  The other group has
nobody on its list. -/
theorem soundRegistry_passage :
    spawned passage < UInt64.size ∧ founded passage < UInt32.size ∧
      afterPassage.namedGroup? ⟨0⟩ = some ⟨1⟩ ∧ afterPassage.group? ⟨0⟩ = some {} ∧
      afterPassage.group? ⟨1⟩ = some { members := .ofList [(⟨0⟩, 3)] } ∧
      afterPassage.get? ⟨1⟩ = none ∧ afterPassage.SoundRegistry := by
  have hrun : Run Operation.KeepsGroups passage afterPassage := by
    -- only spawning and editing are subject to a condition
    refine (Run.start {} : Run Operation.KeepsGroups [] {}).append ?_
    refine ⟨rfl, rfl, rfl, trivial, trivial, trivial, trivial, trivial, trivial, trivial, ?_,
      trivial, trivial, trivial, trivial⟩
    intro e he
    cases he
    exact ⟨rfl, rfl⟩
  have hspawned : spawned passage < UInt64.size := by decide
  have hfounded : founded passage < UInt32.size := by decide
  exact ⟨hspawned, hfounded, rfl, rfl, rfl, rfl, Run.soundRegistry hrun hspawned hfounded⟩

end Rapport
