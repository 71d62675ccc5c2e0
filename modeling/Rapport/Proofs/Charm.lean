import Rapport.Visibility
import Rapport.Proofs.Attack.Group
import Rapport.Proofs.Comparison

/-!
# Ignoring charms

Membership can be asked for with charms ignored, and then no charm has any part in the answer:
between two worlds that differ in nothing but in who charms whom (`World.DifferInCharms`), no answer
about groups, sides or guilds differs (`View.membership_ignoring_charms`).

That takes in creatures that no player controls.  They go by how they regard each other, and a
reaction does ask who is in control, charmers first; but it asks that only about a target under a
player's control, and toward such a target creatures go by the common rule instead.
-/

namespace Rapport

/-- The unit with another charmer, or with none. -/
def LiveUnit.withCharmer (u : LiveUnit) (charmer : Option EntityId) : LiveUnit :=
  { u with state := { u.state with charmer } }

/-- The entity with another charmer, or with none.  Only units have charmers. -/
def Entity.withCharmer (e : Entity) (charmer : Option EntityId) : Entity :=
  e.mapBody (Body.mapUnit fun u => { u with charmer })

/-- Two worlds that differ in nothing but in who charms whom. -/
structure World.DifferInCharms (w w' : World) : Prop where
  entities : ∀ id, ∃ charmer, w'.get? id = (w.get? id).map (·.withCharmer charmer)
  elsewhere : w' = { w with entities := w'.entities }

/-- Two views of such worlds, with the same static data and configuration. -/
structure View.DifferInCharms (v v' : View) : Prop where
  world : v.world.DifferInCharms v'.world
  elsewhere : v' = { v with world := v'.world }

theorem Entity.exists_withCharmer_eq_self (e : Entity) : ∃ charmer, e.withCharmer charmer = e := by
  obtain ⟨id, kind, body⟩ := e
  cases body with
  | unit u role => exact ⟨u.charmer, rfl⟩
  | _ => exact ⟨none, rfl⟩

/-- Charming a unit changes nothing but charms. -/
theorem World.differInCharms_modifyUnit (w : World) (id : EntityId) (charmer : Option EntityId) :
    w.DifferInCharms (w.modifyUnit id fun u => { u with charmer }) := by
  refine ⟨fun k => ?_, rfl⟩
  rw [modifyUnit, get?_modifyBody]
  by_cases hk : id = k
  · rw [if_pos hk]
    exact ⟨charmer, rfl⟩
  · rw [if_neg hk]
    cases w.get? k with
    | none => exact ⟨none, rfl⟩
    | some e =>
        obtain ⟨own, hown⟩ := e.exists_withCharmer_eq_self
        exact ⟨own, congrArg some hown.symm⟩

theorem LiveUnit.resembles_withCharmer (a : LiveUnit) (charmer : Option EntityId) :
    a.Resembles (a.withCharmer charmer) :=
  ⟨rfl, rfl, rfl, rfl, rfl, rfl, player?_rel rfl rfl⟩

namespace View

variable {v v' : View} {a b : LiveUnit}

theorem DifferInCharms.sameSetting (h : v.DifferInCharms v') : v.SameSetting v' where
  data := by rw [h.elsewhere]
  groups := by rw [h.world.elsewhere]

theorem DifferInCharms.units (h : v.DifferInCharms v') (id : EntityId) :
    Option.Rel (fun a a' => ∃ charmer, a' = a.withCharmer charmer) (v.unit? id) (v'.unit? id) := by
  obtain ⟨charmer, he⟩ := h.world.entities id
  -- the unit that an entity is has the charmer of the entity
  have hunit (e : Entity) :
      (e.withCharmer charmer).unit? = e.unit?.map (·.withCharmer charmer) := by
    obtain ⟨_, _, body⟩ := e
    cases body <;> rfl
  have hmap : v'.unit? id = (v.unit? id).map (·.withCharmer charmer) := by
    rw [unit?, unit?, he]
    cases v.world.get? id with
    | none => rfl
    | some e => exact hunit e
  rw [hmap]
  cases v.unit? id with
  | none => exact .none
  | some a => exact .some ⟨charmer, rfl⟩

/-- Who is in control of a unit besides its charmer depends on no charm. -/
theorem DifferInCharms.controller? (h : v.DifferInCharms v') (a : LiveUnit)
    (charmer : Option EntityId) :
    Option.Rel LivePlayer.Resembles (v.controller? a true)
      (v'.controller? (a.withCharmer charmer) true) := by
  have hplayers (id : EntityId) :
      Option.Rel LivePlayer.Resembles (v.player? id) (v'.player? id) := by
    refine (h.units id).bind ?_
    rintro u _ ⟨charmer, rfl⟩
    exact (u.resembles_withCharmer charmer).player
  exact controller?_rel hplayers (a.resembles_withCharmer charmer).player rfl

/-- With charms ignored, groups, sides and guilds are the same in two worlds that differ in nothing
but in who charms whom, and so is who sees exact health, where the configuration leaves that to the
group. -/
theorem membership_ignoring_charms (h : v.DifferInCharms v') :
    (∀ id, (v'.unit? id).isSome = (v.unit? id).isSome) ∧
    ∀ {a a' b b'}, v.Counterparts v' a a' → v.Counterparts v' b b' →
      (∀ party, v'.isInGroup a' b' party true = v.isInGroup a b party true) ∧
      v'.isInTeam a' b' true = v.isInTeam a b true ∧
      v'.isInGuild a' b' true = v.isInGuild a b true ∧
      (v.config.fogOfWar.health ≠ 1 → v.config.fogOfWar.health ≠ 2 →
        v'.isHealthVisible a' b' = v.isHealthVisible a b) := by
  refine ⟨fun id => isSome_unit?_eq_of_rel (h.units id), ?_⟩
  intro a _ b _ hcounterA hcounterB
  obtain ⟨c, rfl⟩ := hcounterA.rel h.units
  obtain ⟨d, rfl⟩ := hcounterB.rel h.units
  have ha := a.resembles_withCharmer c
  have hb := b.resembles_withCharmer d
  have hactrl := h.controller? a c
  have hbctrl := h.controller? b d
  have hgroup : ∀ party, v'.isInGroup (a.withCharmer c) (b.withCharmer d) party true =
      v.isInGroup a b party true :=
    isInGroup_congr ha hb hactrl hbctrl h.sameSetting
  refine ⟨hgroup, ?_, ?_, ?_⟩
  · refine belongTogether_congr ha hb hactrl hbctrl fun hp hq => ?_
    rw [hp.team, hq.team]
  · refine belongTogether_congr ha hb hactrl hbctrl fun hp hq => ?_
    rw [hp.guild, hq.guild]
  · intro hteam heveryone
    have hconfig : v'.config = v.config := by rw [h.elsewhere]
    have hpolicy : v.config.fogOfWar.healthPolicy = .group := by
      rw [FogOfWar.healthPolicy, if_neg hteam, if_neg heveryone]
    unfold isHealthVisible
    rw [hconfig, hpolicy]
    -- whether a unit oversees the game is not a matter of its charmer
    exact congrArg ((b.isGameMaster || ·)) (hgroup false)

end View

/-- The expedition, with its first player charmed by the creature. -/
def enthralled : View :=
  let v := expedition ranger
  { v with world := v.world.modifyUnit ranger.id fun u => { u with charmer := some siren.id } }

/-- The charm takes the player out of the group, unless charms are ignored. -/
theorem membership_ignoring_charms_enthralled :
    (expedition ranger).DifferInCharms enthralled ∧
      (expedition ranger).Counterparts enthralled ranger.toUnit charmedRanger.toUnit ∧
      (expedition ranger).Counterparts enthralled squire.toUnit squire.toUnit ∧
      (expedition ranger).isInGroup ranger.toUnit squire.toUnit false false = true ∧
      enthralled.isInGroup charmedRanger.toUnit squire.toUnit false false = false ∧
      enthralled.isInGroup charmedRanger.toUnit squire.toUnit false true = true ∧
      enthralled.isHealthVisible charmedRanger.toUnit squire.toUnit = true := by
  have hcharms : (expedition ranger).DifferInCharms enthralled :=
    ⟨World.differInCharms_modifyUnit _ _ _, rfl⟩
  have hranger : (expedition ranger).Counterparts enthralled ranger.toUnit charmedRanger.toUnit :=
    ⟨ranger.id, rfl, rfl⟩
  have hsquire : (expedition ranger).Counterparts enthralled squire.toUnit squire.toUnit :=
    ⟨squire.id, rfl, rfl⟩
  obtain ⟨hgroup, -, -, hhealth⟩ := (View.membership_ignoring_charms hcharms).2 hranger hsquire
  refine ⟨hcharms, hranger, hsquire, rfl, rfl, ?_, ?_⟩
  · rw [hgroup]
    rfl
  · rw [hhealth (by decide) (by decide)]
    rfl

end Rapport
