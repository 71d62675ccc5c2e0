import Rapport.Proofs.World.Operations

/-!
# Runs of a world

The simulation changes its world by a handful of operations (`Operation`), and a run is a sequence
of them from an empty world.  What may be done when is a parameter of `Run`.

Numbers are handed out in order and are never used twice, as long as the counters do not overflow.
`World.Orderly` is the invariant behind that: everything is stored under its own number, which is
below the next one.  `Run.orderly` carries it along runs that spawn fewer than `UInt64.size`
entities and found fewer than `UInt32.size` groups, the bounds of the two counters.
-/

namespace Rapport

/-- What the simulation does to its world. -/
inductive Operation
  | spawn (body : Body)
  | despawn (id : EntityId)
  | createGroup
  | addToGroup (group : GroupId) (id : EntityId) (subgroup : UInt8)
  | removeFromGroup (id : EntityId)
  /-- Changes the body of an entity into another one, in place. -/
  | edit (id : EntityId) (body : Body)

namespace Operation

/-- Whether the operation takes the number of the next entity. -/
def isSpawn : Operation → Bool
  | .spawn _ => true
  | _ => false

/-- Whether the operation takes the number of the next group. -/
def isFounding : Operation → Bool
  | .createGroup => true
  | _ => false

/-- An edit leaves an entity the kind of thing that it is. -/
def KeepsKind (w : World) : Operation → Prop
  | .edit id body => ∀ e, w.get? id = some e → body.kind = e.body.kind
  | _ => True

end Operation

/-- The world after an operation. -/
def World.apply (w : World) : Operation → World
  | .spawn body => (w.spawn body).2
  | .despawn id => (w.despawn id).2
  | .createGroup => w.createGroup.2
  | .addToGroup group id subgroup => (w.addToGroup group id subgroup).2
  | .removeFromGroup id => w.removeFromGroup id
  | .edit id body => w.modifyBody id fun _ => body

/-- The operations lead from an empty world to `w`, and each was permitted when its turn came. -/
inductive Run (permitted : World → Operation → Prop) : List Operation → World → Prop
  | start (map : MapInfo) : Run permitted [] { map }
  | step {ops : List Operation} {w : World} (op : Operation) :
      Run permitted ops w → permitted w op → Run permitted (ops ++ [op]) (w.apply op)

/-- Each of the operations is permitted when its turn comes, starting from a world. -/
def PermittedFrom (permitted : World → Operation → Prop) (w : World) : List Operation → Prop
  | [] => True
  | op :: ops => permitted w op ∧ PermittedFrom permitted (w.apply op) ops

/-- A run goes on as long as what follows is permitted. -/
theorem Run.append {permitted : World → Operation → Prop} {ops more : List Operation} {w : World}
    (hrun : Run permitted ops w) (hmore : PermittedFrom permitted w more) :
    Run permitted (ops ++ more) (more.foldl World.apply w) := by
  induction more generalizing ops w with
  | nil => rwa [List.append_nil]
  | cons op more ih =>
      have hstep := ih (hrun.step op hmore.1) hmore.2
      rwa [List.append_assoc, List.singleton_append] at hstep

/-- The entity after a change of its body within the same kind. -/
def Entity.SameThing (e e' : Entity) : Prop :=
  e'.id = e.id ∧ e'.kind = e.kind ∧ e'.body.kind = e.body.kind

theorem Entity.SameThing.refl (e : Entity) : e.SameThing e := ⟨rfl, rfl, rfl⟩

theorem Body.kind_mapPlayer (f : PlayerState → PlayerState) (body : Body) :
    (body.mapPlayer f).kind = body.kind := by
  cases body with
  | unit u role => cases role <;> rfl
  | _ => rfl

namespace World

variable {w : World} {op : Operation} {id k : EntityId} {g : GroupId}

/-! ### What one operation can do -/

@[simp] theorem nextEntityId_dropFromNamed {named : Option GroupId} :
    (w.dropFromNamed named id).nextEntityId = w.nextEntityId := by
  cases named <;> rfl

@[simp] theorem nextGroupId_dropFromNamed {named : Option GroupId} :
    (w.dropFromNamed named id).nextGroupId = w.nextGroupId := by
  cases named <;> rfl

/-- Only a spawned entity takes a number, and only a new group takes one of a group. -/
theorem counters_apply (w : World) (op : Operation) :
    (w.apply op).nextEntityId = (if op.isSpawn then w.nextEntityId + 1 else w.nextEntityId) ∧
      (w.apply op).nextGroupId =
        if op.isFounding then w.nextGroupId + 1 else w.nextGroupId := by
  cases op with
  | despawn id =>
      -- the operation does not open before it is known whether it finds what it asks for
      rw [apply]
      cases he : w.get? id with
      | none =>
          rw [despawn_of_missing he]
          exact ⟨rfl, rfl⟩
      | some e =>
          rw [despawn_of_found he]
          exact ⟨nextEntityId_dropFromNamed, nextGroupId_dropFromNamed⟩
  | addToGroup g id subgroup =>
      rw [apply]
      rcases addToGroup_eq_self_or_found w g id subgroup with hself | ⟨group, p, hgroup, hp⟩
      · rw [hself]
        exact ⟨rfl, rfl⟩
      · rw [addToGroup_of_found hgroup hp]
        exact ⟨nextEntityId_dropFromNamed, nextGroupId_dropFromNamed⟩
  | removeFromGroup id =>
      rw [apply]
      cases hp : w.playerState? id with
      | none =>
          rw [removeFromGroup_of_missing hp]
          exact ⟨rfl, rfl⟩
      | some p =>
          rw [removeFromGroup_of_found hp]
          exact ⟨nextEntityId_dropFromNamed, nextGroupId_dropFromNamed⟩
  | _ => exact ⟨rfl, rfl⟩

theorem exists_sameThing_of_modifyBody {f : Body → Body} {e' : Entity}
    (hkind : ∀ e, w.get? id = some e → (f e.body).kind = e.body.kind)
    (h : (w.modifyBody id f).get? k = some e') : ∃ e, w.get? k = some e ∧ e.SameThing e' := by
  rw [get?_modifyBody] at h
  by_cases hk : id = k
  · rw [if_pos hk] at h
    obtain ⟨e, he, rfl⟩ := Option.map_eq_some_iff.1 h
    exact ⟨e, he, rfl, rfl, hkind e (hk ▸ he)⟩
  · rw [if_neg hk] at h
    exact ⟨e', h, .refl e'⟩

theorem exists_sameThing_of_modifyPlayer {f : PlayerState → PlayerState} {e' : Entity}
    (h : (w.modifyPlayer id f).get? k = some e') : ∃ e, w.get? k = some e ∧ e.SameThing e' :=
  exists_sameThing_of_modifyBody (fun e _ => Body.kind_mapPlayer f e.body) h

/-- Whatever is stored after an operation is newly spawned, or was stored there before and is the
same thing still. -/
theorem get?_apply_cases {e' : Entity} (hkind : op.KeepsKind w)
    (h : (w.apply op).get? id = some e') :
    (∃ body, op = .spawn body ∧ id = ⟨w.nextEntityId⟩ ∧ e' = .ofBody id body) ∨
      ∃ e, w.get? id = some e ∧ e.SameThing e' := by
  cases op with
  | spawn body =>
      rw [apply, get?_spawn] at h
      by_cases hid : (⟨w.nextEntityId⟩ : EntityId) = id
      · rw [if_pos hid, hid, Option.some.injEq] at h
        exact Or.inl ⟨body, rfl, hid.symm, h.symm⟩
      · rw [if_neg hid] at h
        exact Or.inr ⟨e', h, .refl e'⟩
  | despawn k =>
      rw [apply, get?_despawn] at h
      by_cases hk : k = id
      · rw [if_pos hk] at h
        contradiction
      · rw [if_neg hk] at h
        exact Or.inr ⟨e', h, .refl e'⟩
  | createGroup => exact Or.inr ⟨e', h, .refl e'⟩
  | addToGroup g k subgroup =>
      refine Or.inr ?_
      -- the only entity that changes is the player who joins, and in nothing but the named group
      rw [apply] at h
      rcases addToGroup_eq_self_or_found w g k subgroup with hself | ⟨group, p, hgroup, hp⟩
      · rw [hself] at h
        exact ⟨e', h, .refl e'⟩
      · rw [addToGroup_of_found hgroup hp] at h
        obtain ⟨e, he, hsame⟩ := exists_sameThing_of_modifyPlayer h
        exact ⟨e, get?_dropFromNamed.symm.trans he, hsame⟩
  | removeFromGroup k =>
      refine Or.inr ?_
      rw [apply] at h
      cases hp : w.playerState? k with
      | none =>
          rw [removeFromGroup_of_missing hp] at h
          exact ⟨e', h, .refl e'⟩
      | some p =>
          rw [removeFromGroup_of_found hp] at h
          obtain ⟨e, he, hsame⟩ := exists_sameThing_of_modifyPlayer h
          exact ⟨e, get?_dropFromNamed.symm.trans he, hsame⟩
  | edit k body => exact Or.inr (exists_sameThing_of_modifyBody (f := fun _ => body) hkind h)

/-- Whatever group there is after an operation is newly founded, or was there before. -/
theorem group?_apply_cases (h : ((w.apply op).group? g).isSome) :
    (op = .createGroup ∧ g = ⟨w.nextGroupId⟩) ∨ (w.group? g).isSome := by
  cases op with
  | despawn k =>
      refine Or.inr ?_
      rw [apply] at h
      cases he : w.get? k with
      | none => rwa [despawn_of_missing he] at h
      | some e =>
          rw [despawn_of_found he, isSome_group?_dropFromNamed] at h
          exact h
  | createGroup =>
      rw [apply, group?_createGroup] at h
      by_cases hg : (⟨w.nextGroupId⟩ : GroupId) = g
      · exact Or.inl ⟨rfl, hg.symm⟩
      · rw [if_neg hg] at h
        exact Or.inr h
  | addToGroup other k subgroup =>
      refine Or.inr ?_
      rw [apply] at h
      rcases addToGroup_eq_self_or_found w other k subgroup with hself | ⟨group, p, hgroup, hp⟩
      · rwa [hself] at h
      · rw [addToGroup_of_found hgroup hp, isSome_group?_addMember] at h
        exact isSome_group?_dropFromNamed.symm.trans h
  | removeFromGroup k =>
      refine Or.inr ?_
      rw [apply] at h
      cases hp : w.playerState? k with
      | none => rwa [removeFromGroup_of_missing hp] at h
      | some p =>
          rw [removeFromGroup_of_found hp] at h
          exact isSome_group?_dropFromNamed.symm.trans h
  | _ => exact Or.inr h

/-! ### Orderly worlds -/

/-- Everything is stored under its own number, which is below the next one, and every entity counts
as what its body makes it. -/
structure Orderly (w : World) : Prop where
  own_id : ∀ {id e}, w.get? id = some e → e.id = id
  own_kind : ∀ {id e}, w.get? id = some e → e.kind = e.body.kind
  entity_lt : ∀ {id e}, w.get? id = some e → id.val.toNat < w.nextEntityId.toNat
  group_lt : ∀ {g}, (w.group? g).isSome → g.val.toNat < w.nextGroupId.toNat

theorem orderly_empty (map : MapInfo) : ({ map } : World).Orderly where
  own_id h := by cases h
  own_kind h := by cases h
  entity_lt h := by cases h
  group_lt h := by cases h

/-- The next number of an orderly world is free. -/
theorem Orderly.get?_next (hw : w.Orderly) : w.get? ⟨w.nextEntityId⟩ = none := by
  cases he : w.get? ⟨w.nextEntityId⟩ with
  | none => rfl
  | some e => exact absurd (hw.entity_lt he) (Nat.lt_irrefl _)

theorem Orderly.group?_next (hw : w.Orderly) : w.group? ⟨w.nextGroupId⟩ = none := by
  cases hg : w.group? ⟨w.nextGroupId⟩ with
  | none => rfl
  | some group =>
      have hlt := hw.group_lt (g := ⟨w.nextGroupId⟩) (by rw [hg]; rfl)
      exact absurd hlt (Nat.lt_irrefl _)

/-- The operation does not wrap a counter around. -/
structure HasRoomFor (w : World) (op : Operation) : Prop where
  entity : op.isSpawn = true → w.nextEntityId.toNat + 1 < UInt64.size
  group : op.isFounding = true → w.nextGroupId.toNat + 1 < UInt32.size

theorem toNat_counters_apply (hroom : w.HasRoomFor op) :
    (w.apply op).nextEntityId.toNat = w.nextEntityId.toNat + (if op.isSpawn then 1 else 0) ∧
      (w.apply op).nextGroupId.toNat =
        w.nextGroupId.toNat + if op.isFounding then 1 else 0 := by
  obtain ⟨hentity, hgroup⟩ := counters_apply w op
  rw [hentity, hgroup]
  constructor
  · cases hspawn : op.isSpawn with
    | false => rfl
    | true => simpa [UInt64.toNat_add] using Nat.mod_eq_of_lt (hroom.entity hspawn)
  · cases hfounding : op.isFounding with
    | false => rfl
    | true => simpa [UInt32.toNat_add] using Nat.mod_eq_of_lt (hroom.group hfounding)

/-- An operation keeps a world orderly, as long as it does not wrap a counter around. -/
theorem Orderly.apply (hw : w.Orderly) (hkind : op.KeepsKind w) (hroom : w.HasRoomFor op) :
    (w.apply op).Orderly := by
  obtain ⟨hentityNat, hgroupNat⟩ := toNat_counters_apply hroom
  constructor
  · intro id e' h
    rcases get?_apply_cases hkind h with ⟨body, -, -, rfl⟩ | ⟨e, he, hid, -, -⟩
    · rfl
    · rw [hid, hw.own_id he]
  · intro id e' h
    rcases get?_apply_cases hkind h with ⟨body, -, -, rfl⟩ | ⟨e, he, -, hkindEq, hbody⟩
    · rfl
    · rw [hkindEq, hbody, hw.own_kind he]
  · intro id e' h
    rw [hentityNat]
    rcases get?_apply_cases hkind h with ⟨body, rfl, rfl, -⟩ | ⟨e, he, -⟩
    · simp [Operation.isSpawn]
    · have := hw.entity_lt he
      omega
  · intro g h
    rw [hgroupNat]
    rcases group?_apply_cases h with ⟨rfl, rfl⟩ | hbefore
    · simp [Operation.isFounding]
    · have := hw.group_lt hbefore
      omega

end World

/-! ### Along a run -/

/-- The number of entities spawned in the course of some operations. -/
def spawned (ops : List Operation) : Nat := ops.countP Operation.isSpawn

/-- The number of groups founded in the course of some operations. -/
def founded (ops : List Operation) : Nat := ops.countP Operation.isFounding

theorem spawned_concat (ops : List Operation) (op : Operation) :
    spawned (ops ++ [op]) = spawned ops + if op.isSpawn then 1 else 0 := by
  rw [spawned, List.countP_append, List.countP_singleton]
  rfl

theorem founded_concat (ops : List Operation) (op : Operation) :
    founded (ops ++ [op]) = founded ops + if op.isFounding then 1 else 0 := by
  rw [founded, List.countP_append, List.countP_singleton]
  rfl

theorem spawned_le_concat (ops : List Operation) (op : Operation) :
    spawned ops ≤ spawned (ops ++ [op]) :=
  spawned_concat ops op ▸ Nat.le_add_right _ _

theorem founded_le_concat (ops : List Operation) (op : Operation) :
    founded ops ≤ founded (ops ++ [op]) :=
  founded_concat ops op ▸ Nat.le_add_right _ _

/-- While the counters say how often they were used, there is room for what stays within bounds. -/
theorem World.hasRoomFor_of_counters {ops : List Operation} {w : World} {op : Operation}
    (hcounters : w.nextEntityId.toNat = spawned ops ∧ w.nextGroupId.toNat = founded ops)
    (hspawned : spawned (ops ++ [op]) < UInt64.size)
    (hfounded : founded (ops ++ [op]) < UInt32.size) : w.HasRoomFor op := by
  rw [spawned_concat] at hspawned
  rw [founded_concat] at hfounded
  constructor
  · intro hspawn
    rw [if_pos hspawn] at hspawned
    omega
  · intro hfounding
    rw [if_pos hfounding] at hfounded
    omega

namespace Run

variable {permitted : World → Operation → Prop} {ops : List Operation} {w : World}

/-- The counters say how many numbers have been handed out, as long as they have not wrapped. -/
theorem counters (hrun : Run permitted ops w) (hspawned : spawned ops < UInt64.size)
    (hfounded : founded ops < UInt32.size) :
    w.nextEntityId.toNat = spawned ops ∧ w.nextGroupId.toNat = founded ops := by
  induction hrun with
  | start map => exact ⟨rfl, rfl⟩
  | @step ops w op _ _ ih =>
      -- the counts only grow, so the bounds held one operation earlier too
      have hcounters := ih (Nat.lt_of_le_of_lt (spawned_le_concat ops op) hspawned)
        (Nat.lt_of_le_of_lt (founded_le_concat ops op) hfounded)
      have hroom := World.hasRoomFor_of_counters hcounters hspawned hfounded
      obtain ⟨hentity, hgroup⟩ := World.toNat_counters_apply hroom
      rw [hentity, hgroup, spawned_concat, founded_concat, hcounters.1, hcounters.2]
      exact ⟨rfl, rfl⟩

/-- An invariant that every permitted operation keeps, as long as it does not wrap a counter around,
holds in every world that a run within the bounds of the counters reaches. -/
theorem invariant {P : World → Prop} (hrun : Run permitted ops w)
    (hspawned : spawned ops < UInt64.size) (hfounded : founded ops < UInt32.size)
    (hstart : ∀ map, P { map })
    (hstep : ∀ w op, P w → permitted w op → w.HasRoomFor op → P (w.apply op)) : P w := by
  induction hrun with
  | start map => exact hstart map
  | @step ops w op hrun hop ih =>
      have hspawned' := Nat.lt_of_le_of_lt (spawned_le_concat ops op) hspawned
      have hfounded' := Nat.lt_of_le_of_lt (founded_le_concat ops op) hfounded
      have hcounters := hrun.counters hspawned' hfounded'
      exact hstep w op (ih hspawned' hfounded') hop
        (World.hasRoomFor_of_counters hcounters hspawned hfounded)

/-- Every world that a run reaches is orderly. -/
theorem orderly (hrun : Run Operation.KeepsKind ops w) (hspawned : spawned ops < UInt64.size)
    (hfounded : founded ops < UInt32.size) : w.Orderly :=
  hrun.invariant hspawned hfounded World.orderly_empty fun _ _ hw hop hroom => hw.apply hop hroom

/-- Bodies are spawned in a run of their own. -/
theorem ofBodies (bodies : List Body) :
    Run Operation.KeepsKind (bodies.map .spawn) (World.ofBodies bodies) := by
  have hpermitted (w : World) : PermittedFrom Operation.KeepsKind w (bodies.map .spawn) := by
    induction bodies generalizing w with
    | nil => trivial
    | cons body bodies ih => exact ⟨trivial, ih _⟩
  have hrun := (Run.start {} : Run Operation.KeepsKind [] {}).append (hpermitted {})
  rwa [List.nil_append, List.foldl_map] at hrun

end Run

theorem World.orderly_ofBodies {bodies : List Body} (hlength : bodies.length < UInt64.size) :
    (World.ofBodies bodies).Orderly := by
  have hspawned : spawned (bodies.map .spawn) = bodies.length := by
    rw [spawned, List.countP_map]
    exact List.countP_eq_length.2 fun _ _ => rfl
  have hfounded : founded (bodies.map .spawn) = 0 := by
    rw [founded, List.countP_map]
    exact List.countP_eq_zero.2 fun _ _ => Bool.false_ne_true
  exact (Run.ofBodies bodies).orderly (hspawned ▸ hlength) (hfounded ▸ by decide)

end Rapport
