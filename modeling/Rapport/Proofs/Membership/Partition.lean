import Rapport.Proofs.Pet

/-!
# Membership as a partition

Sides and guilds divide the units of a world among themselves, and groups and subgroups divide the
units under players' control: belonging together is reflexive, symmetric and transitive there
(`View.equivalence_belongTogether`).

Two shortcuts stand in the way of transitivity.  A unit belongs with itself whoever controls it, and
two units of one player belong together whatever the relation asks for.  Both go by numbers, and so
they are harmless in a world that stores its entities under their own numbers: equal numbers then
mean equal units and equal players.  Nothing is asked of the registry of groups.  Groups may be
missing, or list others than those who name them.
-/

namespace Rapport

/-- Being in one subgroup is having the same one. -/
theorem Group.sameSubgroup_iff {g : Group} {a b : EntityId} :
    g.sameSubgroup a b = true ↔ ∃ s, g.subgroup? a = some s ∧ g.subgroup? b = some s := by
  unfold sameSubgroup
  cases g.subgroup? a with
  | none => simp
  | some s =>
      cases g.subgroup? b with
      | none => simp
      | some t =>
          constructor
          · intro h
            exact ⟨s, rfl, (beq_iff_eq.1 h) ▸ rfl⟩
          · rintro ⟨s', hs, ht⟩
            exact beq_iff_eq.2 (Option.some.inj (hs.trans ht.symm))

namespace View

variable {v : View} {a b c : LiveUnit} {p q r : LivePlayer} {i j : EntityId} {ignoreCharms : Bool}

/-! ### Sharing a group -/

/-- Two players share a group that both name, that is there and that lists them both. -/
theorem shareGroup_iff {party : Bool} :
    v.shareGroup p q party = true ↔
      ∃ id g, p.state.group = some id ∧ q.state.group = some id ∧ v.world.group? id = some g ∧
        g.isMember p.id = true ∧ g.isMember q.id = true ∧
        (party = true → g.sameSubgroup p.id q.id = true) := by
  have hparty (same : Bool) : (!party || same) = true ↔ (party = true → same = true) := by
    cases party <;> simp
  unfold shareGroup groupOf?
  cases hp : p.state.group with
  | none => simp
  | some id => simp [Option.any_eq_true, hparty, and_assoc]

theorem shareGroup_symm {party : Bool} (h : v.shareGroup p q party = true) :
    v.shareGroup q p party = true := by
  obtain ⟨id, g, hp, hq, hg, hpMember, hqMember, hsub⟩ := shareGroup_iff.1 h
  refine shareGroup_iff.2 ⟨id, g, hq, hp, hg, hqMember, hpMember, fun hparty => ?_⟩
  obtain ⟨s, hps, hqs⟩ := Group.sameSubgroup_iff.1 (hsub hparty)
  exact Group.sameSubgroup_iff.2 ⟨s, hqs, hps⟩

theorem shareGroup_trans {party : Bool} (hpq : v.shareGroup p q party = true)
    (hqr : v.shareGroup q r party = true) : v.shareGroup p r party = true := by
  obtain ⟨id, g, hp, hq, hg, hpMember, -, hpqSub⟩ := shareGroup_iff.1 hpq
  obtain ⟨id', g', hq', hr, hg', -, hrMember, hqrSub⟩ := shareGroup_iff.1 hqr
  -- both pairs speak of the one group that the player in the middle names
  obtain rfl : id = id' := Option.some.inj (hq.symm.trans hq')
  obtain rfl : g = g' := Option.some.inj (hg.symm.trans hg')
  refine shareGroup_iff.2 ⟨id, g, hp, hr, hg, hpMember, hrMember, fun hparty => ?_⟩
  obtain ⟨s, hps, hqs⟩ := Group.sameSubgroup_iff.1 (hpqSub hparty)
  obtain ⟨t, hqt, hrt⟩ := Group.sameSubgroup_iff.1 (hqrSub hparty)
  obtain rfl : s = t := Option.some.inj (hqs.symm.trans hqt)
  exact Group.sameSubgroup_iff.2 ⟨s, hps, hrt⟩

/-- Whoever shares a subgroup shares the group. -/
theorem shareGroup_of_party (h : v.shareGroup p q true = true) : v.shareGroup p q false = true := by
  obtain ⟨id, g, hp, hq, hg, hpMember, hqMember, -⟩ := shareGroup_iff.1 h
  exact shareGroup_iff.2 ⟨id, g, hp, hq, hg, hpMember, hqMember, fun hparty => nomatch hparty⟩

/-! ### Players of a world -/

theorem player_eq_of_id_eq (hown : v.world.StoresUnderOwnIds) (hp : v.player? i = some p)
    (hq : v.player? j = some q) (hid : p.id = q.id) : p = q := by
  have hunits : p.toUnit = q.toUnit :=
    unit_eq_of_id_eq hown (player?_eq_some_iff.1 hp) (player?_eq_some_iff.1 hq) hid
  cases p
  cases q
  cases hunits
  rfl

/-- The player in control of a unit of the world is a player of the world. -/
theorem exists_player?_of_controller? (ha : v.unit? i = some a)
    (hp : v.controller? a ignoreCharms = some p) : ∃ k, v.player? k = some p := by
  unfold controller? at hp
  split at hp
  next master _ => exact ⟨master, hp⟩
  next _ => exact ⟨i, by rw [player?, ha]; exact hp⟩

/-- A player of a world whose kinds match counts as a player. -/
theorem kind_of_player? (hkinds : v.world.KindsMatch) (hp : v.player? i = some p) :
    p.kind = .player := by
  obtain ⟨e, he, hunit⟩ := Option.bind_eq_some_iff.1 (player?_eq_some_iff.1 hp)
  have hkind := hkinds i e he
  obtain ⟨_, _, body⟩ := e
  cases body with
  | unit state role =>
      cases hunit
      exact hkind
  | _ => contradiction

/-! ### Belonging together -/

section

variable {related : LivePlayer → LivePlayer → Bool}

theorem belongTogether_self : v.belongTogether related a a ignoreCharms = true :=
  belongTogether_iff.2 (Or.inl rfl)

theorem belongTogether_symm (hsymm : ∀ {p q}, related p q = true → related q p = true)
    (h : v.belongTogether related a b ignoreCharms = true) :
    v.belongTogether related b a ignoreCharms = true := by
  rcases belongTogether_iff.1 h with hid | ⟨p, q, hctrl, hpair⟩
  · exact belongTogether_iff.2 (Or.inl hid.symm)
  · have hpair' : q.id = p.id ∨ related q p = true := hpair.imp Eq.symm hsymm
    exact belongTogether_iff.2 (Or.inr ⟨q, p, controllers?_swap hctrl, hpair'⟩)

theorem belongTogether_trans (hown : v.world.StoresUnderOwnIds)
    (htrans : ∀ {p q r}, related p q = true → related q r = true → related p r = true)
    {i j k : EntityId} (ha : v.unit? i = some a) (hb : v.unit? j = some b) (hc : v.unit? k = some c)
    (hab : v.belongTogether related a b ignoreCharms = true)
    (hbc : v.belongTogether related b c ignoreCharms = true) :
    v.belongTogether related a c ignoreCharms = true := by
  rcases belongTogether_iff.1 hab with hid | ⟨p, q, hpq, hpair⟩
  · rwa [unit_eq_of_id_eq hown ha hb hid]
  rcases belongTogether_iff.1 hbc with hid | ⟨q', r, hqr, hpair'⟩
  · rwa [← unit_eq_of_id_eq hown hb hc hid]
  obtain ⟨⟨haControlled, -⟩, hp, hq⟩ := controllers?_eq_some_iff.1 hpq
  obtain ⟨⟨-, hcControlled⟩, hq', hr⟩ := controllers?_eq_some_iff.1 hqr
  -- the unit in the middle has one player in control
  obtain rfl : q = q' := Option.some.inj (hq.symm.trans hq')
  refine belongTogether_iff.2 (Or.inr ⟨p, r, ?_, ?_⟩)
  · exact controllers?_eq_some_iff.2 ⟨⟨haControlled, hcControlled⟩, hp, hr⟩
  obtain ⟨_, hpStored⟩ := exists_player?_of_controller? ha hp
  obtain ⟨_, hqStored⟩ := exists_player?_of_controller? hb hq
  obtain ⟨_, hrStored⟩ := exists_player?_of_controller? hc hr
  rcases hpair with hid | hpair
  · rwa [player_eq_of_id_eq hown hpStored hqStored hid]
  rcases hpair' with hid | hpair'
  · rw [← player_eq_of_id_eq hown hqStored hrStored hid]
    exact Or.inr hpair
  · exact Or.inr (htrans hpair hpair')

end

/-- The units of the world. -/
abbrev Units (v : View) := { u : LiveUnit // ∃ id, v.unit? id = some u }

/-- The units of the world that are under players' control. -/
abbrev ControlledUnits (v : View) := { u : v.Units // u.val.isPlayerControlled = true }

/-- Belonging together through a symmetric and transitive relation between players is an equivalence
on the units of the world. -/
theorem equivalence_belongTogether (hown : v.world.StoresUnderOwnIds)
    {related : LivePlayer → LivePlayer → Bool}
    (hsymm : ∀ {p q}, related p q = true → related q p = true)
    (htrans : ∀ {p q r}, related p q = true → related q r = true → related p r = true)
    (ignoreCharms : Bool) :
    Equivalence fun a b : v.Units => v.belongTogether related a b ignoreCharms = true where
  refl _ := belongTogether_self
  symm h := belongTogether_symm hsymm h
  trans := by
    rintro ⟨a, _, ha⟩ ⟨b, _, hb⟩ ⟨c, _, hc⟩ hab hbc
    exact belongTogether_trans hown htrans ha hb hc hab hbc

/-- Whoever is in one subgroup is in one group. -/
theorem isInGroup_of_party (h : v.isInGroup a b true ignoreCharms = true) :
    v.isInGroup a b false ignoreCharms = true := by
  have hbelong (h : v.belongTogether (v.shareGroup · · true) a b ignoreCharms = true) :
      v.belongTogether (v.shareGroup · · false) a b ignoreCharms = true := by
    rcases belongTogether_iff.1 h with hid | ⟨p, q, hctrl, hpair⟩
    · exact belongTogether_iff.2 (Or.inl hid)
    · exact belongTogether_iff.2 (Or.inr ⟨p, q, hctrl, hpair.imp id shareGroup_of_party⟩)
  unfold isInGroup at h ⊢
  -- players with a group of their own, creatures that go by friendship, and everyone else
  split at h
  · split at h
    next hown => rw [if_pos hown]; exact shareGroup_of_party h
    next hown => rw [if_neg hown]; exact hbelong h
  · split at h
    next hwild => rw [if_pos hwild]; exact h
    next hwild => rw [if_neg hwild]; exact hbelong h
  · exact hbelong h

/-- Sides and guilds partition the units of a world, with charms ignored or not.  Groups and
subgroups partition its units under players' control, and every subgroup lies in one group. -/
theorem membership_partitions (hown : v.world.StoresUnderOwnIds) :
    (∀ ignoreCharms,
      Equivalence fun a b : v.Units => v.isInTeam a b ignoreCharms = true) ∧
    (∀ ignoreCharms,
      Equivalence fun a b : v.Units => v.isInGuild a b ignoreCharms = true) ∧
    (∀ party,
      Equivalence fun a b : v.ControlledUnits => v.isInGroup a.val b.val party false = true) ∧
    ∀ {a b ignoreCharms}, v.isInGroup a b true ignoreCharms = true →
      v.isInGroup a b false ignoreCharms = true := by
  refine ⟨?_, ?_, ?_, isInGroup_of_party⟩
  · refine equivalence_belongTogether hown ?_ ?_
    · intro p q h
      exact beq_iff_eq.2 (beq_iff_eq.1 h).symm
    · intro p q r hpq hqr
      exact beq_iff_eq.2 ((beq_iff_eq.1 hpq).trans (beq_iff_eq.1 hqr))
  · refine equivalence_belongTogether hown ?_ ?_
    · intro p q h
      simp only [Bool.and_eq_true, beq_iff_eq] at h ⊢
      exact ⟨h.2 ▸ h.1, h.2.symm⟩
    · intro p q r hpq hqr
      simp only [Bool.and_eq_true, beq_iff_eq] at hpq hqr ⊢
      exact ⟨hpq.1, hpq.2.trans hqr.2⟩
  · intro party
    have hunits : Equivalence fun a b : v.Units =>
        v.belongTogether (v.shareGroup · · party) a b false = true := by
      refine equivalence_belongTogether hown ?_ ?_ false
      · exact shareGroup_symm
      · exact shareGroup_trans
    -- between units under players' control groups go by the common rule
    have hgroup (a b : v.ControlledUnits) : v.isInGroup a.val b.val party false =
        v.belongTogether (v.shareGroup · · party) a.val b.val false :=
      isInGroup_of_isPlayerControlled (Or.inl a.property) party
    constructor
    · intro a
      rw [hgroup]
      exact hunits.refl a.val
    · intro a b h
      rw [hgroup] at h ⊢
      exact hunits.symm h
    · intro a b c hab hbc
      rw [hgroup] at hab hbc ⊢
      exact hunits.trans hab hbc

end View

/-- A player of group 0 and of guild 7. -/
def abbot : LivePlayer :=
  ⟨⟨0⟩, .player, { flags := .only .playerControlled }, { group := some ⟨0⟩, guild := some 7 }⟩

/-- A pet of the first player. -/
def mule : LiveUnit :=
  ⟨⟨1⟩, .creature, { flags := .only .playerControlled, owner := some abbot.id }, .creature {}⟩

/-- Another player of the group, on the other side and without a guild. -/
def novice : LivePlayer :=
  ⟨⟨2⟩, .player, { flags := .only .playerControlled }, { group := some ⟨0⟩, team := .horde }⟩

/-- A player of the guild who names the group and is not on its list. -/
def straggler : LivePlayer :=
  ⟨⟨3⟩, .player, { flags := .only .playerControlled }, { group := some ⟨0⟩, guild := some 7 }⟩

/-- A player without a group and without a guild. -/
def hermit : LivePlayer := ⟨⟨4⟩, .player, { flags := .only .playerControlled }, {}⟩

/-- The four players and the pet.  The list of the group lacks one of those who name the group, and
has on it somebody who is not there. -/
def pilgrimage : View :=
  let v := View.ofUnits {}
    [abbot.toUnit, mule, novice.toUnit, straggler.toUnit, hermit.toUnit]
  let group : Group := { members := .ofList [(abbot.id, 0), (novice.id, 1), (⟨7⟩, 1)] }
  { v with world := { v.world with groups := .ofList [(⟨0⟩, group)] } }

/-- The pet is in the group of the other player because its owner is, and on the side and in the
guild of the straggler for the same reason.  The two without a guild are not in one guild. -/
theorem membership_partitions_pilgrimage :
    pilgrimage.world.StoresUnderOwnIds ∧
      pilgrimage.isInGroup mule abbot.toUnit false false = true ∧
      pilgrimage.isInGroup abbot.toUnit novice.toUnit false false = true ∧
      pilgrimage.isInGroup mule novice.toUnit false false = true ∧
      pilgrimage.isInGroup mule novice.toUnit true false = false ∧
      pilgrimage.isInGroup mule straggler.toUnit false false = false ∧
      pilgrimage.isInTeam mule straggler.toUnit false = true ∧
      pilgrimage.isInTeam mule novice.toUnit false = false ∧
      pilgrimage.isInGuild straggler.toUnit mule false = true ∧
      pilgrimage.isInGuild straggler.toUnit novice.toUnit false = false ∧
      pilgrimage.isInGuild hermit.toUnit hermit.toUnit false = true ∧
      pilgrimage.isInGuild hermit.toUnit novice.toUnit false = false := by
  let v := View.ofUnits {}
    [abbot.toUnit, mule, novice.toUnit, straggler.toUnit, hermit.toUnit]
  -- the groups have no part in where entities are stored
  have horderly : v.world.Orderly := World.orderly_ofBodies (by decide)
  have hown : pilgrimage.world.StoresUnderOwnIds := fun _ _ he => horderly.own_id he
  let owner : pilgrimage.ControlledUnits := ⟨⟨abbot.toUnit, abbot.id, rfl⟩, rfl⟩
  let pet : pilgrimage.ControlledUnits := ⟨⟨mule, mule.id, rfl⟩, rfl⟩
  let companion : pilgrimage.ControlledUnits := ⟨⟨novice.toUnit, novice.id, rfl⟩, rfl⟩
  let absentee : pilgrimage.Units := ⟨straggler.toUnit, straggler.id, rfl⟩
  let loner : pilgrimage.Units := ⟨hermit.toUnit, hermit.id, rfl⟩
  obtain ⟨hteams, hguilds, hgroups, -⟩ := View.membership_partitions hown
  have howner : pilgrimage.isInGroup mule abbot.toUnit false false = true := rfl
  have hother : pilgrimage.isInGroup abbot.toUnit novice.toUnit false false = true := rfl
  have hpet : pilgrimage.isInGroup mule novice.toUnit false false = true :=
    (hgroups false).trans (x := pet) (y := owner) (z := companion) howner hother
  have hownerSide : pilgrimage.isInTeam mule abbot.toUnit false = true := rfl
  have hsameSide : pilgrimage.isInTeam abbot.toUnit straggler.toUnit false = true := rfl
  have hside : pilgrimage.isInTeam mule straggler.toUnit false = true :=
    (hteams false).trans (x := pet.val) (y := owner.val) (z := absentee) hownerSide hsameSide
  have hpetGuild : pilgrimage.isInGuild mule straggler.toUnit false = true := rfl
  have hguild : pilgrimage.isInGuild straggler.toUnit mule false = true :=
    (hguilds false).symm (x := pet.val) (y := absentee) hpetGuild
  have hself : pilgrimage.isInGuild hermit.toUnit hermit.toUnit false = true :=
    (hguilds false).refl loner
  exact ⟨hown, howner, hother, hpet, rfl, rfl, hside, rfl, hguild, rfl, hself, rfl⟩

end Rapport
