import Rapport.Proofs.Control

/-!
# Two views compared

What a change of the world does to an answer is a statement about two views, one from before the
change and one from after it, and about each unit as it is in both (`View.Counterparts`).

Most answers read little of what there is.  Whom a unit regards how that no player controls, and who
belongs together, comes down to what `LiveUnit.Resembles` and `LivePlayer.Resembles` compare, to
static data and groups (`View.SameSetting`), and to the players in control.  Where all that stays,
the answers stay (`View.uncontrolledReaction_congr`, `View.isInGroup_congr`), whatever else changes.
-/

/-! ### Related options -/

section RelatedOptions

variable {α α' β β' : Type}

/-- Of two related options both are empty, or both hold values, and these are related. -/
theorem Option.Rel.none_or_some {R : α → β → Prop} {x : Option α} {y : Option β}
    (h : Option.Rel R x y) :
    (x = Option.none ∧ y = Option.none) ∨
      ∃ a b, x = Option.some a ∧ y = Option.some b ∧ R a b := by
  cases h with
  | none => exact Or.inl ⟨rfl, rfl⟩
  | some h => exact Or.inr ⟨_, _, rfl, rfl, h⟩

theorem Option.Rel.refl {R : α → α → Prop} (hR : ∀ a, R a a) (x : Option α) :
    Option.Rel R x x := by
  cases x with
  | some a => exact .some (hR a)
  | none => exact .none

theorem Option.Rel.mono {R S : α → β → Prop} {x : Option α} {y : Option β}
    (h : Option.Rel R x y) (hRS : ∀ {a b}, R a b → S a b) : Option.Rel S x y := by
  cases h with
  | some h => exact .some (hRS h)
  | none => exact .none

/-- What follows from related values is related, if it is so value by value. -/
theorem Option.Rel.bind {R : α → α' → Prop} {S : β → β' → Prop} {x : Option α} {x' : Option α'}
    {f : α → Option β} {f' : α' → Option β'} (h : Option.Rel R x x')
    (hf : ∀ {a a'}, R a a' → Option.Rel S (f a) (f' a')) :
    Option.Rel S (x.bind f) (x'.bind f') := by
  cases h with
  | some h => exact hf h
  | none => exact .none

/-- Two functions that are related value by value give related options. -/
theorem Option.Rel.map_of_forall {R : β → β' → Prop} {f : α → β} {f' : α → β'}
    (hf : ∀ a, R (f a) (f' a)) (x : Option α) : Option.Rel R (x.map f) (x.map f') := by
  cases x with
  | some a => exact .some (hf a)
  | none => exact .none

theorem Option.Rel.of_map_eq {f : α → β} {x y : Option α} (h : y.map f = x.map f) :
    Option.Rel (fun a b => f b = f a) x y := by
  cases x with
  | none =>
      rw [Option.map_eq_none_iff.1 h]
      exact .none
  | some a =>
      obtain ⟨b, rfl, hb⟩ := Option.map_eq_some_iff.1 h
      exact .some hb

theorem Option.Rel.or {R : α → β → Prop} {x y : Option α} {x' y' : Option β}
    (hx : Option.Rel R x x') (hy : Option.Rel R y y') : Option.Rel R (x.or y) (x'.or y') := by
  cases hx with
  | some h => exact .some h
  | none => exact hy

/-- A test that related values pass or fail alike. -/
theorem Option.Rel.any_eq {R : α → α' → Prop} {x : Option α} {x' : Option α'}
    {f : α → Bool} {f' : α' → Bool} (h : Option.Rel R x x')
    (hf : ∀ {a a'}, R a a' → f' a' = f a) : x'.any f' = x.any f := by
  cases h with
  | some h => exact hf h
  | none => rfl

theorem Option.Rel.all_eq {R : α → α' → Prop} {x : Option α} {x' : Option α'}
    {f : α → Bool} {f' : α' → Bool} (h : Option.Rel R x x')
    (hf : ∀ {a a'}, R a a' → f' a' = f a) : x'.all f' = x.all f := by
  cases h with
  | some h => exact hf h
  | none => rfl

end RelatedOptions

namespace Rapport

/-! ### Two states of one thing -/

/-- Two states of one player that agree in what membership reads of a player. -/
structure LivePlayer.Resembles (p p' : LivePlayer) : Prop where
  id : p'.id = p.id
  group : p'.state.group = p.state.group
  guild : p'.state.guild = p.state.guild
  team : p'.state.team = p.state.team

/-- Two states of one unit that agree in what templates and membership read of a unit, except for
the players in control. -/
structure LiveUnit.Resembles (a a' : LiveUnit) : Prop where
  id : a'.id = a.id
  kind : a'.kind = a.kind
  controlled : a'.isPlayerControlled = a.isPlayerControlled
  template : a'.state.factionTemplate = a.state.factionTemplate
  persuades : a'.state.persuaded = a.state.persuaded
  persuaded : a'.state.flags.has .persuaded = a.state.flags.has .persuaded
  player : Option.Rel LivePlayer.Resembles a.player? a'.player?

/-- A unit of one number and role is a player in both states or in none. -/
theorem LiveUnit.player?_rel {a a' : LiveUnit} (hid : a'.id = a.id) (hrole : a'.role = a.role) :
    Option.Rel LivePlayer.Resembles a.player? a'.player? := by
  obtain ⟨_, _, _, role⟩ := a
  obtain ⟨_, _, _, _⟩ := a'
  cases hid
  cases hrole
  cases role with
  | player p => exact .some ⟨rfl, rfl, rfl, rfl⟩
  | creature c => exact .none

namespace View

/-- Two views go by the same static data and have the same groups. -/
structure SameSetting (v v' : View) : Prop where
  data : v'.data = v.data
  groups : v'.world.groups = v.world.groups

/-- One unit as two views have it. -/
def Counterparts (v v' : View) (a a' : LiveUnit) : Prop :=
  ∃ id, v.unit? id = some a ∧ v'.unit? id = some a'

variable {v v' : View} {a a' b b' : LiveUnit} {p p' q q' : LivePlayer}

theorem Counterparts.swap (h : v.Counterparts v' a a') : v'.Counterparts v a' a := by
  obtain ⟨id, ha, ha'⟩ := h
  exact ⟨id, ha', ha⟩

theorem Counterparts.rel {R : LiveUnit → LiveUnit → Prop} (h : v.Counterparts v' a a')
    (hunits : ∀ id, Option.Rel R (v.unit? id) (v'.unit? id)) : R a a' := by
  obtain ⟨id, ha, ha'⟩ := h
  have hrel := hunits id
  rw [ha, ha'] at hrel
  exact Option.rel_some_some.1 hrel

/-- Numbers lead to units in one view just as in the other, if all units are related. -/
theorem isSome_unit?_eq_of_rel {R : LiveUnit → LiveUnit → Prop} {id : EntityId}
    (h : Option.Rel R (v.unit? id) (v'.unit? id)) : (v'.unit? id).isSome = (v.unit? id).isSome := by
  rcases h.none_or_some with ⟨ha, ha'⟩ | ⟨a, a', ha, ha', -⟩
  · rw [ha, ha']
  · rw [ha, ha']
    rfl

/-- Who is in control is found by one look-up at most. -/
theorem controller?_rel {S : LivePlayer → LivePlayer → Prop} {ignoreCharms : Bool}
    (hplayers : ∀ id, Option.Rel S (v.player? id) (v'.player? id))
    (hself : Option.Rel S a.player? a'.player?)
    (hmaster : (if ignoreCharms then a'.state.owner else a'.state.master) =
      if ignoreCharms then a.state.owner else a.state.master) :
    Option.Rel S (v.controller? a ignoreCharms) (v'.controller? a' ignoreCharms) := by
  unfold controller?
  rw [hmaster]
  split
  · exact hplayers _
  · exact hself

section

variable {S : LivePlayer → LivePlayer → Prop} {ignoreCharms : Bool}
  (hactrl : Option.Rel S (v.controller? a ignoreCharms) (v'.controller? a' ignoreCharms))
  (hbctrl : Option.Rel S (v.controller? b ignoreCharms) (v'.controller? b' ignoreCharms))

include hactrl hbctrl

/-- What two players in control decide, and is settled in a given way without one of them, is the
same if the players decide the same. -/
theorem decided_congr {α : Type} {f f' : LivePlayer → LivePlayer → α} {d : α}
    (hf : ∀ {p p' q q'}, S p p' → S q q' → f' p' q' = f p q) :
    (match v'.controller? a' ignoreCharms, v'.controller? b' ignoreCharms with
      | some p, some q => f' p q
      | _, _ => d) =
    match v.controller? a ignoreCharms, v.controller? b ignoreCharms with
      | some p, some q => f p q
      | _, _ => d := by
  rcases hactrl.none_or_some with ⟨hp, hp'⟩ | ⟨p, p', hp, hp', hpp⟩
  · rw [hp, hp']
  · rcases hbctrl.none_or_some with ⟨hq, hq'⟩ | ⟨q, q', hq, hq', hqq⟩
    · rw [hp, hp', hq, hq']
    · rw [hp, hp', hq, hq']
      exact hf hpp hqq

theorem controllers?_rel (ha : a'.isPlayerControlled = a.isPlayerControlled)
    (hb : b'.isPlayerControlled = b.isPlayerControlled) :
    Option.Rel (fun x x' => S x.1 x'.1 ∧ S x.2 x'.2) (v.controllers? a b ignoreCharms)
      (v'.controllers? a' b' ignoreCharms) := by
  unfold controllers?
  rw [ha, hb]
  split
  next =>
    rcases hactrl.none_or_some with ⟨hp, hp'⟩ | ⟨p, p', hp, hp', hpp⟩
    · rw [hp, hp']
      exact .none
    · rcases hbctrl.none_or_some with ⟨hq, hq'⟩ | ⟨q, q', hq, hq', hqq⟩
      · rw [hp, hp', hq, hq']
        exact .none
      · rw [hp, hp', hq, hq']
        exact .some ⟨hpp, hqq⟩
  next => exact .none

end

/-! ### Templates -/

section

variable (hv : v.SameSetting v') (ha : a.Resembles a') (hb : b.Resembles b')

include hv ha

theorem templateOf?_congr : v'.templateOf? a' = v.templateOf? a := by
  rw [templateOf?, templateOf?, template?, template?, hv.data, ha.template]

include hb

theorem isPersuaded_congr : v'.isPersuaded a' b' = v.isPersuaded a b := by
  rw [isPersuaded, isPersuaded, hb.persuaded, hb.id, ha.persuades, templateOf?_congr hv hb, hv.data]

theorem afterPersuasion_congr (rank : Rank) :
    v'.afterPersuasion a' b' rank = v.afterPersuasion a b rank := by
  rw [afterPersuasion, afterPersuasion, isPersuaded_congr hv ha hb]

omit ha hb hv in
/-- Toward a unit that no player controls a template goes by the other template alone. -/
theorem templateReactionToUnit_of_not_isPlayerControlled (t : Option FactionTemplate)
    (hcontrolled : b.isPlayerControlled = false) :
    v.templateReactionToUnit t b = FactionTemplate.reactionOrNeutral t (v.templateOf? b) := by
  unfold templateReactionToUnit FactionTemplate.reactionOrNeutral reputationReaction?
  rw [hcontrolled]
  rfl

/-- Between two units that no player controls nothing changes, as long as they resemble what they
were. -/
theorem uncontrolledReaction_congr (hcontrolled : b.isPlayerControlled = false) :
    v'.uncontrolledReaction a' b' = v.uncontrolledReaction a b := by
  unfold uncontrolledReaction reactionByTemplate
  rw [templateReactionToUnit_of_not_isPlayerControlled _ hcontrolled,
    templateReactionToUnit_of_not_isPlayerControlled _ (hb.controlled.trans hcontrolled),
    templateOf?_congr hv ha, templateOf?_congr hv hb, afterPersuasion_congr hv ha hb, ha.id, hb.id]

end

/-! ### Membership -/

theorem shareGroup_congr (hv : v.SameSetting v') (hp : p.Resembles p') (hq : q.Resembles q')
    (party : Bool) : v'.shareGroup p' q' party = v.shareGroup p q party := by
  have hgroup : v'.groupOf? p' = v.groupOf? p := by
    rw [groupOf?, groupOf?, hp.group]
    unfold World.group?
    rw [hv.groups]
  rw [shareGroup, shareGroup, hgroup, hp.group, hq.group, hp.id, hq.id]

theorem belongTogether_rel {S : LivePlayer → LivePlayer → Prop} {ignoreCharms : Bool}
    {related related' : LivePlayer → LivePlayer → Bool} (ha : a'.id = a.id) (hb : b'.id = b.id)
    (hctrl : Option.Rel (fun x x' => S x.1 x'.1 ∧ S x.2 x'.2) (v.controllers? a b ignoreCharms)
      (v'.controllers? a' b' ignoreCharms))
    (hrelated : ∀ {p p' q q'}, S p p' → S q q' →
      (p'.id == q'.id || related' p' q') = (p.id == q.id || related p q)) :
    v'.belongTogether related' a' b' ignoreCharms = v.belongTogether related a b ignoreCharms := by
  rw [belongTogether, belongTogether, ha, hb,
    hctrl.any_eq fun hpair => hrelated hpair.1 hpair.2]

section

variable {ignoreCharms : Bool} (ha : a.Resembles a') (hb : b.Resembles b')
  (hactrl : Option.Rel LivePlayer.Resembles (v.controller? a ignoreCharms)
    (v'.controller? a' ignoreCharms))
  (hbctrl : Option.Rel LivePlayer.Resembles (v.controller? b ignoreCharms)
    (v'.controller? b' ignoreCharms))

include ha hb hactrl hbctrl

theorem belongTogether_congr {related related' : LivePlayer → LivePlayer → Bool}
    (hrelated : ∀ {p p' q q'}, p.Resembles p' → q.Resembles q' → related' p' q' = related p q) :
    v'.belongTogether related' a' b' ignoreCharms = v.belongTogether related a b ignoreCharms :=
  belongTogether_rel ha.id hb.id (controllers?_rel hactrl hbctrl ha.controlled hb.controlled)
    fun hp hq => by rw [hp.id, hq.id, hrelated hp hq]

theorem isInGroup_congr (hv : v.SameSetting v') (party : Bool) :
    v'.isInGroup a' b' party ignoreCharms = v.isInGroup a b party ignoreCharms := by
  have hbelong : v'.belongTogether (v'.shareGroup · · party) a' b' ignoreCharms =
      v.belongTogether (v.shareGroup · · party) a b ignoreCharms :=
    belongTogether_congr ha hb hactrl hbctrl fun hp hq => shareGroup_congr hv hp hq party
  unfold isInGroup
  rw [ha.kind, ha.id, hb.id]
  cases hkind : a.kind with
  | player =>
      rcases ha.player.none_or_some with ⟨hp, hp'⟩ | ⟨p, p', hp, hp', hpp⟩
      · rw [hp, hp']
        exact hbelong
      · rcases hb.player.none_or_some with ⟨hq, hq'⟩ | ⟨q, q', hq, hq', hqq⟩
        · rw [hp, hp', hq, hq']
          exact hbelong
        · rw [hp, hp', hq, hq']
          simp only [hbelong, shareGroup_congr hv hpp hqq]
  | creature =>
      simp only [ha.controlled, hb.controlled, hbelong]
      split
      next hwild =>
        rw [Bool.and_eq_true, Bool.not_eq_true', Bool.not_eq_true'] at hwild
        rw [uncontrolledReaction_congr hv ha hb hwild.2]
      next => rfl
  | _ => exact hbelong

end

end View

end Rapport
