import Rapport.Proofs.World.Frame

/-!
# Operations on different entities commute

An operation on an entity goes by that entity and its places in groups (`World.AgreesAt.apply`,
`World.AgreesAt.reply`), and it changes nothing else (`World.differAt_apply`).  Two operations on
different entities therefore do not notice each other.  In either order they lead to one and the
same world and give back the same (`World.operations_commute`), also where one entity joins the
group that the other leaves.

Nothing is asked of the registry.  Players may name groups that are not there or do not list them,
and groups may list whom they like.
-/

namespace Rapport

/-- What an operation gives back. -/
inductive Reply
  | nothing
  | newEntity (id : EntityId)
  | newGroup (id : GroupId)
  /-- Whether a player joined a group. -/
  | joined (done : Bool)
  /-- The entity that was taken out of the world, if there was one. -/
  | removed (e : Option Entity)
  deriving DecidableEq

namespace World

/-- What an operation on a world gives back. -/
def reply (w : World) : Operation → Reply
  | .spawn body => .newEntity (w.spawn body).1
  | .despawn id => .removed (w.despawn id).1
  | .createGroup => .newGroup w.createGroup.1
  | .addToGroup group id subgroup => .joined (w.addToGroup group id subgroup).1
  | .removeFromGroup _ => .nothing
  | .edit _ _ => .nothing

/-- The place of an entity in a group, nothing if there is no such group. -/
def place? (w : World) (g : GroupId) (id : EntityId) : Option (Option UInt8) :=
  (w.group? g).map (·.subgroup? id)

/-- Two worlds have the same entity under a number and give it the same places in groups. -/
structure AgreesAt (w w' : World) (d : EntityId) : Prop where
  entity : w'.get? d = w.get? d
  place : ∀ g, w'.place? g d = w.place? g d

variable {w w' w'' : World} {op op' : Operation} {d k : EntityId} {g h : GroupId}

/-- A change of one group that gives an entity a place whatever place it had. -/
theorem place?_modifyGroup {f : Group → Group} {place : Option UInt8}
    (hf : ∀ x, (f x).subgroup? d = place) :
    ({ w with groups := w.groups.modify h f } : World).place? g d =
      if h = g then (w.place? g d).map fun _ => place else w.place? g d := by
  rw [place?, place?, group?_modifyGroup]
  by_cases hg : h = g
  · rw [if_pos hg, if_pos hg, Option.map_map, Option.map_map]
    exact congrArg (Option.map · _) (funext hf)
  · rw [if_neg hg, if_neg hg]

/-! ### Agreement -/

namespace AgreesAt

theorem symm (h : w.AgreesAt w' d) : w'.AgreesAt w d :=
  ⟨h.entity.symm, fun g => (h.place g).symm⟩

theorem trans (h : w.AgreesAt w' d) (h' : w'.AgreesAt w'' d) : w.AgreesAt w'' d :=
  ⟨h'.entity.trans h.entity, fun g => (h'.place g).trans (h.place g)⟩

/-- A group is there in both worlds or in neither, and gives the entity one place. -/
theorem group_cases (h : w.AgreesAt w' d) (g : GroupId) :
    (w.group? g = none ∧ w'.group? g = none) ∨
      ∃ x x', w.group? g = some x ∧ w'.group? g = some x' ∧ x'.subgroup? d = x.subgroup? d := by
  have hplace := h.place g
  unfold place? at hplace
  cases hg : w.group? g with
  | none =>
      rw [hg, Option.map_none, Option.map_eq_none_iff] at hplace
      exact Or.inl ⟨rfl, hplace⟩
  | some x =>
      rw [hg, Option.map_some, Option.map_eq_some_iff] at hplace
      obtain ⟨x', hg', hx⟩ := hplace
      exact Or.inr ⟨x, x', rfl, hg', hx⟩

theorem playerState? (h : w.AgreesAt w' d) : w'.playerState? d = w.playerState? d := by
  rw [World.playerState?, World.playerState?, h.entity]

theorem namedGroup? (h : w.AgreesAt w' d) : w'.namedGroup? d = w.namedGroup? d := by
  rw [World.namedGroup?, World.namedGroup?, h.entity]

/-! ### Each step at the entity keeps the agreement there -/

theorem modifyGroup (h : w.AgreesAt w' d) (g : GroupId) {f : Group → Group}
    {place : Option UInt8} (hf : ∀ x, (f x).subgroup? d = place) :
    ({ w with groups := w.groups.modify g f } : World).AgreesAt
      { w' with groups := w'.groups.modify g f } d := by
  refine ⟨h.entity, fun other => ?_⟩
  rw [place?_modifyGroup hf, place?_modifyGroup hf, h.place]

theorem dropFromNamed (h : w.AgreesAt w' d) (named : Option GroupId) :
    (w.dropFromNamed named d).AgreesAt (w'.dropFromNamed named d) d := by
  cases named with
  | none => exact h
  | some g => exact h.modifyGroup g fun x => (Keyed.get?_erase x.members d d).trans (if_pos rfl)

theorem addMember (h : w.AgreesAt w' d) (g : GroupId) (subgroup : UInt8) :
    (w.addMember g d subgroup).AgreesAt (w'.addMember g d subgroup) d :=
  h.modifyGroup g fun x => (Keyed.get?_insert x.members d d subgroup).trans (if_pos rfl)

theorem modifyBody (h : w.AgreesAt w' d) (f : Body → Body) :
    (w.modifyBody d f).AgreesAt (w'.modifyBody d f) d := by
  refine ⟨?_, h.place⟩
  rw [get?_modifyBody, get?_modifyBody, h.entity]

theorem erase (h : w.AgreesAt w' d) :
    ({ w with entities := w.entities.erase d } : World).AgreesAt
      { w' with entities := w'.entities.erase d } d := by
  have hgone (w : World) : (w.entities.erase d).get? d = none :=
    (Keyed.get?_erase w.entities d d).trans (if_pos rfl)
  exact ⟨(hgone w').trans (hgone w).symm, h.place⟩

/-- What an operation makes of its entity depends on nothing else. -/
theorem apply (h : w.AgreesAt w' d) (hop : op.subject? = some d) :
    (w.apply op).AgreesAt (w'.apply op) d := by
  cases op with
  | spawn body => contradiction
  | createGroup => contradiction
  | despawn id =>
      cases hop
      rw [World.apply, World.apply]
      cases he : w.get? d with
      | none =>
          rw [despawn_of_missing he, despawn_of_missing (h.entity.trans he)]
          exact h
      | some e =>
          rw [despawn_of_found he, despawn_of_found (h.entity.trans he), h.namedGroup?]
          exact h.erase.dropFromNamed _
  | addToGroup g id subgroup =>
      cases hop
      rw [World.apply, World.apply]
      cases hp : w.playerState? d with
      | none =>
          have hp' := h.playerState?.trans hp
          rw [addToGroup_of_missing (Or.inr hp), addToGroup_of_missing (Or.inr hp')]
          exact h
      | some p =>
          have hp' := h.playerState?.trans hp
          rcases h.group_cases g with ⟨hg, hg'⟩ | ⟨x, x', hg, hg', -⟩
          · rw [addToGroup_of_missing (Or.inl hg), addToGroup_of_missing (Or.inl hg')]
            exact h
          · rw [addToGroup_of_found hg hp, addToGroup_of_found hg' hp']
            exact ((h.dropFromNamed _).modifyBody _).addMember g subgroup
  | removeFromGroup id =>
      cases hop
      rw [World.apply, World.apply]
      cases hp : w.playerState? d with
      | none =>
          rw [removeFromGroup_of_missing hp, removeFromGroup_of_missing (h.playerState?.trans hp)]
          exact h
      | some p =>
          rw [removeFromGroup_of_found hp, removeFromGroup_of_found (h.playerState?.trans hp)]
          exact (h.dropFromNamed _).modifyBody _
  | edit id body =>
      cases hop
      exact h.modifyBody _

/-- What an operation gives back depends on nothing but its entity either. -/
theorem reply (h : w.AgreesAt w' d) (hop : op.subject? = some d) : w'.reply op = w.reply op := by
  cases op with
  | despawn id =>
      cases hop
      rw [World.reply, World.reply, fst_despawn, fst_despawn, h.entity]
  | addToGroup g id subgroup =>
      cases hop
      rw [World.reply, World.reply, fst_addToGroup, fst_addToGroup, h.playerState?]
      rcases h.group_cases g with ⟨hg, hg'⟩ | ⟨x, x', hg, hg', -⟩
      · rw [hg, hg']
      · rw [hg, hg']
        rfl
  | removeFromGroup id => rfl
  | edit id body => rfl
  | _ => contradiction

end AgreesAt

/-- Away from the entity where two worlds differ they agree. -/
theorem DifferAt.agreesAt (h : w.DifferAt w' d) (hk : k ≠ d) : w.AgreesAt w' k := by
  refine ⟨h.entities k hk, fun g => ?_⟩
  rw [place?, place?]
  rcases (h.groups g).none_or_some with ⟨hg, hg'⟩ | ⟨x, x', hg, hg', hx⟩
  · rw [hg, hg']
  · rw [hg, hg', Option.map_some, Option.map_some, hx k hk]

/-- Worlds that agree at every number are equal, up to counters and the map. -/
theorem eq_of_agreesAt (h : ∀ k, w.AgreesAt w' k) (hentity : w'.nextEntityId = w.nextEntityId)
    (hgroup : w'.nextGroupId = w.nextGroupId) (hmap : w'.map = w.map) : w' = w := by
  have hentities : w'.entities = w.entities := Keyed.ext_get? fun k => (h k).entity
  have hgroups : w'.groups = w.groups := by
    refine Keyed.ext_get? fun g => ?_
    change w'.group? g = w.group? g
    rcases (h ⟨0⟩).group_cases g with ⟨hg, hg'⟩ | ⟨x, x', hg, hg', -⟩
    · rw [hg, hg']
    · -- the two states of the group agree in the place of every member
      have hmembers : x'.members = x.members := by
        refine Keyed.ext_get? fun k => ?_
        have hplace := (h k).place g
        rw [place?, place?, hg, hg', Option.map_some, Option.map_some, Option.some.injEq] at hplace
        exact hplace
      rw [hg, hg']
      exact congrArg some (congrArg Group.mk hmembers)
  cases w
  cases w'
  cases hentities
  cases hgroups
  cases hentity
  cases hgroup
  cases hmap
  rfl

/-- No new number is given out for an entity that is there already. -/
theorem counters_apply_of_subject? (w : World) (hop : op.subject? = some d) :
    (w.apply op).nextEntityId = w.nextEntityId ∧ (w.apply op).nextGroupId = w.nextGroupId := by
  obtain ⟨hentity, hgroup⟩ := counters_apply w op
  rw [hentity, hgroup]
  cases op <;> first | contradiction | exact ⟨rfl, rfl⟩

/-- Whether an operation comes before one on another entity or after it makes no difference to its
own entity. -/
theorem agreesAt_apply_apply (hne : d ≠ k) (hop : op.subject? = some d)
    (hop' : op'.subject? = some k) :
    ((w.apply op).apply op').AgreesAt ((w.apply op').apply op) d := by
  have hlater : (w.apply op).AgreesAt ((w.apply op).apply op') d :=
    (differAt_apply hop').agreesAt hne
  have hearlier : w.AgreesAt (w.apply op') d := (differAt_apply hop').agreesAt hne
  exact hlater.symm.trans (hearlier.apply hop)

/-- Two operations on different entities lead to the same world in either order, and each of them
gives back the same whether it comes first or second. -/
theorem operations_commute (hne : d ≠ k) (hop : op.subject? = some d)
    (hop' : op'.subject? = some k) :
    (w.apply op').apply op = (w.apply op).apply op' ∧
      (w.apply op').reply op = w.reply op ∧ (w.apply op).reply op' = w.reply op' := by
  have hframe : w.DifferAt (w.apply op) d := differAt_apply hop
  have hframe' : w.DifferAt (w.apply op') k := differAt_apply hop'
  refine ⟨?_, (hframe'.agreesAt hne).reply hop, (hframe.agreesAt hne.symm).reply hop'⟩
  have hagree : ∀ i, ((w.apply op).apply op').AgreesAt ((w.apply op').apply op) i := by
    intro i
    by_cases hd : i = d
    · subst hd
      exact agreesAt_apply_apply hne hop hop'
    by_cases hk : i = k
    · subst hk
      exact (agreesAt_apply_apply hne.symm hop' hop).symm
    -- both orders leave everybody else alone
    · have hfirst := (hframe.agreesAt hd).trans ((differAt_apply hop').agreesAt hk)
      have hsecond := (hframe'.agreesAt hk).trans ((differAt_apply hop).agreesAt hd)
      exact hfirst.symm.trans hsecond
  have hkeep (w : World) := w.counters_apply_of_subject? hop
  have hkeep' (w : World) := w.counters_apply_of_subject? hop'
  refine eq_of_agreesAt hagree ?_ ?_ ?_
  · rw [(hkeep _).1, (hkeep' _).1, (hkeep' _).1, (hkeep _).1]
  · rw [(hkeep _).2, (hkeep' _).2, (hkeep' _).2, (hkeep _).2]
  · rw [(differAt_apply hop).map, hframe'.map, (differAt_apply hop').map, hframe.map]

end World

/-- Two players and two groups that are at odds: group 0 lists the player who names group 1, and the
player who names group 0 is on the list of the other. -/
def quarrel : World :=
  let w := World.ofBodies [.unit {} (.player { group := some ⟨0⟩ }),
    .unit {} (.player { group := some ⟨1⟩ })]
  { w with groups := .ofList [(⟨0⟩, { members := .ofList [(⟨1⟩, 0)] }),
      (⟨1⟩, { members := .ofList [(⟨0⟩, 2), (⟨1⟩, 0)] })] }

/-- The quarrel once the second player has left the world and the first has joined that one's
group. -/
def settledQuarrel : World := (quarrel.apply (.despawn ⟨1⟩)).apply (.addToGroup ⟨1⟩ ⟨0⟩ 3)

/-- The first player joins the group of the second, before or after that one leaves the world.  In
the end that group lists the first player only, who names it, and the other group still lists the
one who has left. -/
theorem operations_commute_quarrel :
    quarrel.namedGroup? ⟨0⟩ = some ⟨0⟩ ∧ quarrel.place? ⟨0⟩ ⟨0⟩ = some none ∧
      (Operation.addToGroup ⟨1⟩ ⟨0⟩ 3).subject? = some ⟨0⟩ ∧
      (Operation.despawn ⟨1⟩).subject? = some ⟨1⟩ ∧ (⟨0⟩ : EntityId) ≠ ⟨1⟩ ∧
      settledQuarrel = (quarrel.apply (.addToGroup ⟨1⟩ ⟨0⟩ 3)).apply (.despawn ⟨1⟩) ∧
      (quarrel.apply (.despawn ⟨1⟩)).reply (.addToGroup ⟨1⟩ ⟨0⟩ 3) = .joined true ∧
      (quarrel.apply (.addToGroup ⟨1⟩ ⟨0⟩ 3)).reply (.despawn ⟨1⟩) =
        .removed (quarrel.get? ⟨1⟩) ∧
      settledQuarrel.namedGroup? ⟨0⟩ = some ⟨1⟩ ∧
      settledQuarrel.group? ⟨1⟩ = some { members := .ofList [(⟨0⟩, 3)] } ∧
      settledQuarrel.get? ⟨1⟩ = none ∧ settledQuarrel.place? ⟨0⟩ ⟨1⟩ = some (some 0) := by
  have hjoins : (Operation.addToGroup ⟨1⟩ ⟨0⟩ 3).subject? = some ⟨0⟩ := rfl
  have hleaves : (Operation.despawn ⟨1⟩).subject? = some ⟨1⟩ := rfl
  have hne : (⟨0⟩ : EntityId) ≠ ⟨1⟩ := by decide
  obtain ⟨hworld, hjoined, hremoved⟩ := World.operations_commute (w := quarrel) hne hjoins hleaves
  exact ⟨rfl, rfl, hjoins, hleaves, hne, hworld, hjoined.trans rfl, hremoved.trans rfl, rfl, rfl,
    rfl, rfl⟩

end Rapport
