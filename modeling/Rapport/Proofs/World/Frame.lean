import Rapport.Proofs.Comparison
import Rapport.Proofs.World.Run

/-!
# Operations on one entity

Most operations work on an entity that is there already (`Operation.subject?`).  Such an operation
leaves alone whatever has nothing to do with that entity: all other entities stay as they are, and
so do their places in groups (`World.differAt_apply`).
-/

namespace Rapport

/-- The entity that an operation works on, if it is one that is there already. -/
def Operation.subject? : Operation → Option EntityId
  | .despawn id => some id
  | .addToGroup _ id _ => some id
  | .removeFromGroup id => some id
  | .edit id _ => some id
  | _ => none

/-- Two states of a group that have the same members in the same subgroups, up to one entity. -/
def Group.AgreeBut (d : EntityId) (g g' : Group) : Prop :=
  ∀ k, k ≠ d → g'.subgroup? k = g.subgroup? k

/-- Two worlds that differ in nothing but one entity and its places in groups. -/
structure World.DifferAt (w w' : World) (d : EntityId) : Prop where
  entities : ∀ k, k ≠ d → w'.get? k = w.get? k
  groups : ∀ g, Option.Rel (Group.AgreeBut d) (w.group? g) (w'.group? g)
  map : w'.map = w.map

namespace World

variable {w w' w'' : World} {d : EntityId}

/-! ### Operations on one entity -/

theorem DifferAt.refl (w : World) (d : EntityId) : w.DifferAt w d where
  entities _ _ := rfl
  groups _ := .refl (fun _ _ _ => rfl) _
  map := rfl

theorem DifferAt.trans (h : w.DifferAt w' d) (h' : w'.DifferAt w'' d) : w.DifferAt w'' d where
  entities k hk := (h'.entities k hk).trans (h.entities k hk)
  groups g := by
    rcases (h.groups g).none_or_some with ⟨hg, hg'⟩ | ⟨x, x', hg, hg', hx⟩
    · have hrel := h'.groups g
      rw [hg'] at hrel
      rwa [hg]
    · rcases (h'.groups g).none_or_some with ⟨hnone, -⟩ | ⟨y, x'', hy, hg'', hx'⟩
      · rw [hg'] at hnone
        contradiction
      · obtain rfl : x' = y := Option.some.inj (hg'.symm.trans hy)
        rw [hg, hg'']
        exact .some fun k hk => (hx' k hk).trans (hx k hk)
  map := h'.map.trans h.map

theorem group?_modifyGroup {f : Group → Group} {g h : GroupId} :
    ({ w with groups := w.groups.modify h f } : World).group? g =
      if h = g then (w.group? g).map f else w.group? g :=
  Keyed.get?_modify w.groups h g f

/-- A change of the groups that leaves every entity but one in its places. -/
theorem differAt_modifyGroup (w : World) (h : GroupId) {f : Group → Group}
    (hf : ∀ g, Group.AgreeBut d g (f g)) :
    w.DifferAt { w with groups := w.groups.modify h f } d where
  entities _ _ := rfl
  groups g := by
    rw [group?_modifyGroup]
    split
    · cases w.group? g with
      | none => exact .none
      | some x => exact .some (hf x)
    · exact .refl (fun _ _ _ => rfl) _
  map := rfl

theorem differAt_dropFromNamed (w : World) (named : Option GroupId) (d : EntityId) :
    w.DifferAt (w.dropFromNamed named d) d := by
  cases named with
  | none => exact .refl w d
  | some h =>
      refine differAt_modifyGroup w h fun g k hk => ?_
      exact (Keyed.get?_erase g.members d k).trans (if_neg (Ne.symm hk))

theorem differAt_addMember (w : World) (g : GroupId) (d : EntityId) (subgroup : UInt8) :
    w.DifferAt (w.addMember g d subgroup) d := by
  refine differAt_modifyGroup w g fun x k hk => ?_
  exact (Keyed.get?_insert x.members d k subgroup).trans (if_neg (Ne.symm hk))

theorem differAt_modifyBody (w : World) (d : EntityId) (f : Body → Body) :
    w.DifferAt (w.modifyBody d f) d where
  entities _ hk := get?_modifyBody.trans (if_neg (Ne.symm hk))
  groups _ := .refl (fun _ _ _ => rfl) _
  map := rfl

theorem differAt_erase (w : World) (d : EntityId) :
    w.DifferAt { w with entities := w.entities.erase d } d where
  entities k hk := (Keyed.get?_erase w.entities d k).trans (if_neg (Ne.symm hk))
  groups _ := .refl (fun _ _ _ => rfl) _
  map := rfl

/-- An operation on an entity leaves everything but this entity and its places in groups as it
is. -/
theorem differAt_apply {op : Operation} (hop : op.subject? = some d) :
    w.DifferAt (w.apply op) d := by
  cases op with
  | spawn body => contradiction
  | createGroup => contradiction
  | despawn id =>
      cases hop
      rw [apply]
      cases he : w.get? d with
      | none =>
          rw [despawn_of_missing he]
          exact .refl w d
      | some e =>
          rw [despawn_of_found he]
          exact (differAt_erase w d).trans (differAt_dropFromNamed _ _ d)
  | addToGroup g id subgroup =>
      cases hop
      rw [apply]
      rcases addToGroup_eq_self_or_found w g d subgroup with hself | ⟨group, p, hgroup, hp⟩
      · rw [hself]
        exact .refl w d
      · rw [addToGroup_of_found hgroup hp]
        exact ((differAt_dropFromNamed w _ d).trans (differAt_modifyBody _ d _)).trans
          (differAt_addMember _ g d subgroup)
  | removeFromGroup id =>
      cases hop
      rw [apply]
      cases hp : w.playerState? d with
      | none =>
          rw [removeFromGroup_of_missing hp]
          exact .refl w d
      | some p =>
          rw [removeFromGroup_of_found hp]
          exact (differAt_dropFromNamed w _ d).trans (differAt_modifyBody _ d _)
  | edit id body =>
      cases hop
      exact differAt_modifyBody w d _

end World

end Rapport
