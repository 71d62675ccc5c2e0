import Mathlib.Logic.Relation
import Rapport.Proofs.Membership.Partition

/-!
# Questions that lead to further questions

Reactions and groups hang together.  What two units under players' control make of each other may
turn on whether their players are in one group, and whether two creatures are in one group may turn
on how the one regards the other.  Nothing in a world keeps units from charming and owning each
other in a circle, or players from counting as creatures, so it takes an argument that such
questions end.

`View.Asks` says when one question leads to another.  `View.ruling` writes down the rules for one
question at a time: either they settle it, or another question is to be answered first.
`View.inquire` answers questions by these rules, with a bound on how many are open at a time, and
keeps a list of those that come up.

* the answers of a view are what the rules make of each other (`View.outcome_ruling`), and the rules
  put another question exactly where it is asked (`View.asked?_ruling_iff`);
* every question leads further down (`View.depth_lt_of_asks`): units under a player's control lead to
  a group, a group leads to units that no player controls, and these lead to nothing;
* so every inquiry ends, with the answer of the view, whatever the world (`View.inquiry_ends`).
-/

namespace Rapport

/-- What is asked of two units: how the one regards the other, or whether they are in one group. -/
inductive Question
  | reaction (a b : LiveUnit)
  | group (a b : LiveUnit) (party ignoreCharms : Bool)

namespace Question

/-- What answers a question. -/
def Answer : Question → Type
  | .reaction .. => Rank
  | .group .. => Bool

/-- How many further questions, one below the other, a question can lead to. -/
def depth : Question → Nat
  | .reaction a _ => if a.isPlayerControlled then 2 else 0
  | .group .. => 1

theorem depth_lt_three (j : Question) : j.depth < 3 := by
  cases j with
  | reaction a b =>
      rw [depth]
      split <;> omega
  | group a b party ignoreCharms => exact Nat.lt_succ_of_lt (Nat.lt_succ_self 1)

end Question

/-- What the rules make of a question. -/
inductive Ruling (α : Type)
  | settled (answer : α)
  /-- Another question has to be answered first, and its answer decides. -/
  | asks (k : Question) (decision : k.Answer → α)

namespace Ruling

variable {α : Type}

/-- The question that has to be answered first, if there is one. -/
def asked? : Ruling α → Option Question
  | .settled _ => none
  | .asks k _ => some k

/-- What a ruling comes to, given the answers to all questions. -/
def outcome (answers : (k : Question) → k.Answer) : Ruling α → α
  | .settled answer => answer
  | .asks k decision => decision (answers k)

end Ruling

namespace View

variable {v : View} {a b : LiveUnit} {p q : LivePlayer} {party ignoreCharms : Bool}
  {j k : Question} {asked : List Question}

/-! ### One question after another -/

/-- One question leads to another. -/
inductive Asks (v : View) : Question → Question → Prop
  /-- A reaction between units of two players who do not duel at one place turns on the group of the
  players. -/
  | players {a b : LiveUnit} {p q : LivePlayer} : a.id ≠ b.id →
      v.controllers? a b false = some (p, q) → p.id ≠ q.id → p.sharesDuelArbiter q = false →
      Asks v (.reaction a b) (.group p.toUnit q.toUnit false false)
  /-- The group of what counts as a creature and another unit turns on the reaction between them, if
  no player controls either. -/
  | creatures {a b : LiveUnit} {party ignoreCharms : Bool} : a.kind = .creature →
      a.isPlayerControlled = false → b.isPlayerControlled = false →
      Asks v (.group a b party ignoreCharms) (.reaction a b)

/-- The questions that a question leads to, one after another until no further one is asked. -/
inductive Trail (v : View) : Question → List Question → Prop
  | ends {j : Question} : (∀ k, ¬ v.Asks j k) → Trail v j []
  | leads {j k : Question} {asked : List Question} : v.Asks j k → Trail v k asked →
      Trail v j (k :: asked)

/-! ### The rules -/

/-- The rules between two players; where they settle nothing, the given rank stands. -/
def playersRuling (p q : LivePlayer) (otherwise : Rank) : Ruling Rank :=
  if p.id = q.id then .settled .friendly
  else if p.sharesDuelArbiter q then .settled (if p.sameDuelSide q then .friendly else .hostile)
  else
    .asks (.group p.toUnit q.toUnit false false) fun (grouped : Bool) =>
      if grouped then .friendly
      else if p.isFreeForAll && q.isFreeForAll then .hostile
      else otherwise

/-- The rules on reactions. -/
def reactionRuling (v : View) (a b : LiveUnit) : Ruling Rank :=
  if a.id = b.id then .settled .friendly
  else if a.isPlayerControlled then
    let byStance := (v.controllerStance? a b).getD (v.reactionByTemplate a b)
    if b.isPlayerControlled then
      match v.controller? a false, v.controller? b false with
      | some p, some q => playersRuling p q byStance
      | _, _ => .settled .neutral
    else .settled byStance
  else .settled (v.reactionByTemplate a b)

/-- The rules on groups. -/
def groupRuling (v : View) (a b : LiveUnit) (party ignoreCharms : Bool) : Ruling Bool :=
  let common := v.belongTogether (v.shareGroup · · party) a b ignoreCharms
  match a.kind with
  | .player =>
    match a.player?, b.player? with
    | some p, some q =>
      .settled (if ignoreCharms && a.id != b.id then v.shareGroup p q party else common)
    | _, _ => .settled common
  | .creature =>
    if !a.isPlayerControlled && !b.isPlayerControlled then .asks (.reaction a b) Rank.isFriend
    else .settled common
  | _ => .settled common

/-- The rules on a question. -/
def ruling (v : View) : (j : Question) → Ruling j.Answer
  | .reaction a b => v.reactionRuling a b
  | .group a b party ignoreCharms => v.groupRuling a b party ignoreCharms

/-- Where two players control the units, the rules between the players come first. -/
theorem reactionRuling_of_controllers (hctrl : v.controllers? a b false = some (p, q))
    (hid : a.id ≠ b.id) :
    v.reactionRuling a b =
      playersRuling p q ((v.controllerStance? a b).getD (v.reactionByTemplate a b)) := by
  obtain ⟨⟨ha, hb⟩, hp, hq⟩ := controllers?_eq_some_iff.1 hctrl
  simp [reactionRuling, hid, ha, hb, hp, hq]

/-- Every other reaction is settled at once, and as the view has it. -/
theorem reactionRuling_eq_settled (h : a.id = b.id ∨ v.controllers? a b false = none) :
    v.reactionRuling a b = .settled (v.reaction a b) := by
  unfold reactionRuling reaction
  by_cases hid : a.id = b.id
  · simp [hid]
  have hctrl : v.controllers? a b false = none := h.resolve_left hid
  cases ha : a.isPlayerControlled with
  | false => simp [hid]
  | true =>
      cases hb : b.isPlayerControlled with
      | false => simp [hid]
      | true =>
          -- both units are under control, so one of the players is missing
          rw [controllers?, ha, hb, Bool.and_self, if_pos rfl] at hctrl
          unfold controlledReaction?
          cases hp : v.controller? a false with
          | none => simp [hid]
          | some p =>
              cases hq : v.controller? b false with
              | none => simp [hid]
              | some q =>
                  rw [hp, hq] at hctrl
                  contradiction

/-- If no player controls either unit, what counts as a creature goes by how it regards the
other. -/
theorem groupRuling_of_creature (hkind : a.kind = .creature) (ha : a.isPlayerControlled = false)
    (hb : b.isPlayerControlled = false) :
    v.groupRuling a b party ignoreCharms = .asks (.reaction a b) Rank.isFriend := by
  simp [groupRuling, hkind, ha, hb]

/-- Every other question of a group is settled at once, and as the view has it. -/
theorem groupRuling_eq_settled
    (h : ¬ (a.kind = .creature ∧ a.isPlayerControlled = false ∧ b.isPlayerControlled = false)) :
    v.groupRuling a b party ignoreCharms = .settled (v.isInGroup a b party ignoreCharms) := by
  unfold groupRuling isInGroup
  cases hkind : a.kind with
  | player => cases a.player? <;> cases b.player? <;> simp
  | creature =>
      have hcontrolled : (!a.isPlayerControlled && !b.isPlayerControlled) = false := by
        rw [hkind] at h
        simpa using h
      simp [hcontrolled]
  | _ => simp

theorem asked?_playersRuling {r : Rank} :
    (playersRuling p q r).asked? = some k ↔
      p.id ≠ q.id ∧ p.sharesDuelArbiter q = false ∧ k = .group p.toUnit q.toUnit false false := by
  unfold playersRuling
  by_cases hid : p.id = q.id
  · simp [hid, Ruling.asked?]
  · cases p.sharesDuelArbiter q with
    | true => simp [hid, Ruling.asked?]
    | false =>
        rw [if_neg hid, if_neg Bool.false_ne_true]
        simpa [hid, Ruling.asked?] using eq_comm

theorem asked?_reactionRuling :
    (v.reactionRuling a b).asked? = some k ↔ v.Asks (.reaction a b) k := by
  by_cases hid : a.id = b.id
  · rw [reactionRuling_eq_settled (Or.inl hid)]
    constructor
    · intro h
      cases h
    · intro h
      cases h with
      | players hne hctrl hplayers hshared => exact absurd hid hne
  cases hctrl : v.controllers? a b false with
  | none =>
      rw [reactionRuling_eq_settled (Or.inr hctrl)]
      constructor
      · intro h
        cases h
      · intro h
        cases h with
        | players hne hctrl' hplayers hshared =>
            rw [hctrl] at hctrl'
            contradiction
  | some players =>
      obtain ⟨p, q⟩ := players
      rw [reactionRuling_of_controllers hctrl hid, asked?_playersRuling]
      constructor
      · rintro ⟨hplayers, hshared, rfl⟩
        exact .players hid hctrl hplayers hshared
      · intro h
        cases h with
        | players hne hctrl' hplayers hshared =>
            cases hctrl.symm.trans hctrl'
            exact ⟨hplayers, hshared, rfl⟩

theorem asked?_groupRuling :
    (v.groupRuling a b party ignoreCharms).asked? = some k ↔
      v.Asks (.group a b party ignoreCharms) k := by
  by_cases hwild :
      a.kind = .creature ∧ a.isPlayerControlled = false ∧ b.isPlayerControlled = false
  · obtain ⟨hkind, ha, hb⟩ := hwild
    rw [groupRuling_of_creature hkind ha hb]
    constructor
    · intro h
      cases h
      exact .creatures hkind ha hb
    · intro h
      cases h with
      | creatures _ _ _ => rfl
  · rw [groupRuling_eq_settled hwild]
    constructor
    · intro h
      cases h
    · intro h
      cases h with
      | creatures hkind ha hb => exact absurd ⟨hkind, ha, hb⟩ hwild

/-- The rules put another question first exactly where it is asked. -/
theorem asked?_ruling_iff : (v.ruling j).asked? = some k ↔ v.Asks j k := by
  cases j with
  | reaction a b => exact asked?_reactionRuling
  | group a b party ignoreCharms => exact asked?_groupRuling

/-! ### The answers -/

/-- The answer that the view gives to a question. -/
def answer (v : View) : (j : Question) → j.Answer
  | .reaction a b => v.reaction a b
  | .group a b party ignoreCharms => v.isInGroup a b party ignoreCharms

theorem outcome_playersRuling (r : Rank) :
    (playersRuling p q r).outcome v.answer = (v.betweenPlayers? p q).getD r := by
  unfold playersRuling betweenPlayers?
  by_cases hid : p.id = q.id
  · simp [hid, Ruling.outcome]
  · cases p.sharesDuelArbiter q with
    | true => simp [hid, Ruling.outcome]
    | false =>
        cases hgroup : v.isInGroup p.toUnit q.toUnit false false with
        | true => simp [hid, Ruling.outcome, answer, hgroup]
        | false =>
            cases p.isFreeForAll && q.isFreeForAll <;> simp [hid, Ruling.outcome, answer, hgroup]

theorem outcome_reactionRuling : (v.reactionRuling a b).outcome v.answer = v.reaction a b := by
  by_cases hid : a.id = b.id
  · rw [reactionRuling_eq_settled (Or.inl hid)]
    rfl
  cases hctrl : v.controllers? a b false with
  | none =>
      rw [reactionRuling_eq_settled (Or.inr hctrl)]
      rfl
  | some players =>
      rw [reactionRuling_of_controllers hctrl hid, outcome_playersRuling,
        reaction_of_controllers hctrl hid, Option.getD_or]

theorem outcome_groupRuling :
    (v.groupRuling a b party ignoreCharms).outcome v.answer =
      v.isInGroup a b party ignoreCharms := by
  by_cases hwild :
      a.kind = .creature ∧ a.isPlayerControlled = false ∧ b.isPlayerControlled = false
  · obtain ⟨hkind, ha, hb⟩ := hwild
    rw [groupRuling_of_creature hkind ha hb]
    change (v.reaction a b).isFriend = _
    rw [reaction_of_not_isPlayerControlled v b ha]
    simp [isInGroup, hkind, ha, hb]
  · rw [groupRuling_eq_settled hwild]
    rfl

/-- The answers of the view are what the rules make of each other. -/
theorem outcome_ruling (v : View) (j : Question) : (v.ruling j).outcome v.answer = v.answer j := by
  cases j with
  | reaction a b => exact outcome_reactionRuling
  | group a b party ignoreCharms => exact outcome_groupRuling

/-! ### The way down -/

theorem depth_lt_of_asks (h : v.Asks j k) : k.depth < j.depth := by
  cases h with
  | players hid hctrl hne hshared =>
      have ha := (controllers?_eq_some_iff.1 hctrl).1.1
      simp [Question.depth, ha]
  | creatures hkind ha hb => simp [Question.depth, ha]

/-- No chain of questions goes on for ever. -/
theorem wellFounded_asks (v : View) : WellFounded fun k j => v.Asks j k :=
  Subrelation.wf depth_lt_of_asks (measure Question.depth).wf

theorem not_isPlayerControlled_of_asks (h : v.Asks j (.reaction a b)) :
    a.isPlayerControlled = false := by
  cases h with
  | creatures hkind ha hb => exact ha

theorem not_asks_of_not_isPlayerControlled (ha : a.isPlayerControlled = false) (k : Question) :
    ¬ v.Asks (.reaction a b) k := by
  intro h
  cases h with
  | players hid hctrl hne hshared =>
      rw [(controllers?_eq_some_iff.1 hctrl).1.1] at ha
      contradiction

/-- Where everything counts as what it is, no reaction leads to another one: it leads to the group
of two players at most, who go by the common rule. -/
theorem not_transGen_of_kindsMatch (hkinds : v.world.KindsMatch) {i : EntityId}
    (ha : v.unit? i = some a) (c d : LiveUnit) :
    ¬ Relation.TransGen v.Asks (.reaction a b) (.reaction c d) := by
  intro h
  obtain ⟨_, hfirst, hrest⟩ := Relation.TransGen.head'_iff.1 h
  cases hfirst with
  | @players _ _ p q hid hctrl hne hshared =>
      obtain ⟨_, hp⟩ := exists_player?_of_controller? ha (controllers?_eq_some_iff.1 hctrl).2.1
      rcases Relation.ReflTransGen.cases_head hrest with hsame | ⟨_, hnext, -⟩
      · cases hsame
      · cases hnext with
        | creatures hkind hp' hq' =>
            have hcreature : p.kind = .creature := hkind
            rw [kind_of_player? hkinds hp] at hcreature
            contradiction

/-- What is on the trail of a question lies below it. -/
theorem Trail.transGen_of_mem (h : v.Trail j asked) (hk : k ∈ asked) :
    Relation.TransGen v.Asks j k := by
  induction h with
  | ends _ => contradiction
  | leads hfirst _ ih =>
      rcases List.mem_cons.1 hk with rfl | hk
      · exact .single hfirst
      · exact (ih hk).head hfirst

/-! ### Inquiries -/

/-- Answers a question by the rules, with no more than a number of questions open at a time, and
lists the further questions in the order in which they come up. -/
def inquire (v : View) : Nat → (j : Question) → Option (j.Answer × List Question)
  | 0, _ => none
  | n + 1, j =>
    match v.ruling j with
    | .settled answer => some (answer, [])
    | .asks k decision =>
      (v.inquire n k).map fun (answer, asked) => (decision answer, k :: asked)

/-- With room for the question and all that lie below it, a question is answered, and as the view
answers it. -/
theorem exists_trail_inquire_eq (v : View) (j : Question) :
    ∃ asked, v.Trail j asked ∧
      ∀ n, j.depth < n → v.inquire n j = some (v.answer j, asked) := by
  induction j using (wellFounded_asks v).induction with
  | _ j ih =>
      have houtcome := outcome_ruling v j
      have hasked := @asked?_ruling_iff v j
      cases hr : v.ruling j with
      | settled answer =>
          rw [hr] at houtcome hasked
          refine ⟨[], .ends fun k hk => Option.some_ne_none k (hasked.2 hk).symm, fun n hn => ?_⟩
          obtain ⟨m, rfl⟩ := Nat.exists_eq_succ_of_ne_zero (Nat.ne_zero_of_lt hn)
          rw [← houtcome, inquire, hr]
          rfl
      | asks k decision =>
          rw [hr] at houtcome hasked
          have hk : v.Asks j k := hasked.1 rfl
          obtain ⟨asked, htrail, hbelow⟩ := ih k hk
          refine ⟨k :: asked, .leads hk htrail, fun n hn => ?_⟩
          obtain ⟨m, rfl⟩ := Nat.exists_eq_succ_of_ne_zero (Nat.ne_zero_of_lt hn)
          have hm : k.depth < m := Nat.lt_of_lt_of_le (depth_lt_of_asks hk) (Nat.le_of_lt_succ hn)
          rw [← houtcome, inquire, hr]
          simp only [hbelow m hm]
          rfl

/-- Every question is answered with no more than three questions open at a time, and as the view
answers it, and those that come up are the ones that it leads to.  Any reaction among them is that
of a unit that no player controls, and leads to no further question.  Where everything counts as
what it is, none comes up on the way of another reaction. -/
theorem inquiry_ends (v : View) (j : Question) :
    ∃ asked, v.Trail j asked ∧
      (∀ n, 3 ≤ n → v.inquire n j = some (v.answer j, asked)) ∧
      (∀ a b, .reaction a b ∈ asked →
        a.isPlayerControlled = false ∧ ∀ k, ¬ v.Asks (.reaction a b) k) ∧
      (v.world.KindsMatch → ∀ i a b, v.unit? i = some a → j = .reaction a b →
        ∀ c d, .reaction c d ∉ asked) := by
  obtain ⟨asked, htrail, hasked⟩ := exists_trail_inquire_eq v j
  refine ⟨asked, htrail, fun n hn => hasked n (Nat.lt_of_lt_of_le j.depth_lt_three hn), ?_, ?_⟩
  · intro a b hmem
    obtain ⟨_, -, hlast⟩ := Relation.TransGen.tail'_iff.1 (htrail.transGen_of_mem hmem)
    have ha : a.isPlayerControlled = false := not_isPlayerControlled_of_asks hlast
    exact ⟨ha, not_asks_of_not_isPlayerControlled ha⟩
  · rintro hkinds i a b ha rfl c d hmem
    exact not_transGen_of_kindsMatch hkinds ha c d (htrail.transGen_of_mem hmem)

end View

/-- A player whom nobody controls, and who counts as a creature. -/
def mummer : LivePlayer := ⟨⟨0⟩, .creature, {}, {}⟩

/-- Another such player. -/
def guiser : LivePlayer := ⟨⟨1⟩, .creature, {}, {}⟩

/-- A pet of the first. -/
def monkey : LiveUnit :=
  ⟨⟨2⟩, .creature, { flags := .only .playerControlled, owner := some mummer.id }, .creature {}⟩

/-- A pet of the second. -/
def bear : LiveUnit :=
  ⟨⟨3⟩, .creature, { flags := .only .playerControlled, owner := some guiser.id }, .creature {}⟩

/-- The two players were creatures when they were spawned, and their bodies have been changed. -/
def masquerade : View where
  world := ((World.ofBodies [.newCreature 0, .newCreature 0, monkey.body, bear.body]).modifyBody
    mummer.id fun _ => mummer.toUnit.body).modifyBody guiser.id fun _ => guiser.toUnit.body
  data := {}
  config := {}

/-- A player charmed by nobody else than that player. -/
def narcissist : LivePlayer :=
  ⟨⟨0⟩, .player, { flags := .only .playerControlled, charmer := some ⟨0⟩ }, {}⟩

/-- A player who is charmed in the same way and owned by a creature that is not there. -/
def egoist : LivePlayer :=
  ⟨⟨1⟩, .player,
    { flags := .only .playerControlled, charmer := some ⟨1⟩, owner := some ⟨9⟩ }, {}⟩

/-- A creature that the narcissist has charmed. -/
def admirer : LiveUnit :=
  ⟨⟨2⟩, .creature, { flags := .only .playerControlled, charmer := some narcissist.id },
    .creature {}⟩

/-- The narcissist, the egoist and the admirer. -/
def hallOfMirrors : View := .ofUnits {} [narcissist.toUnit, egoist.toUnit, admirer]

/-- How the monkey regards the bear turns on the group of their owners, which turns on how the one
owner regards the other.  How the admirer regards the egoist turns on the group of the two players,
and on nothing further although each is charmed by nobody else. -/
theorem inquiry_ends_masquerade :
    masquerade.unit? monkey.id = some monkey ∧ masquerade.unit? bear.id = some bear ∧
      masquerade.inquire 3 (.reaction monkey bear) =
        some (Rank.neutral, [.group mummer.toUnit guiser.toUnit false false,
          .reaction mummer.toUnit guiser.toUnit]) ∧
      mummer.toUnit.isPlayerControlled = false ∧
      (∀ k, ¬ masquerade.Asks (.reaction mummer.toUnit guiser.toUnit) k) ∧
      hallOfMirrors.world.KindsMatch ∧ hallOfMirrors.unit? admirer.id = some admirer ∧
      hallOfMirrors.inquire 3 (.reaction admirer egoist.toUnit) =
        some (Rank.neutral, [.group narcissist.toUnit egoist.toUnit false false]) ∧
      ∀ c d, Question.reaction c d ∉ [Question.group narcissist.toUnit egoist.toUnit false false] := by
  have hmasked : masquerade.inquire 3 (.reaction monkey bear) =
      some (Rank.neutral, [.group mummer.toUnit guiser.toUnit false false,
        .reaction mummer.toUnit guiser.toUnit]) := rfl
  have hmirrored : hallOfMirrors.inquire 3 (.reaction admirer egoist.toUnit) =
      some (Rank.neutral, [.group narcissist.toUnit egoist.toUnit false false]) := rfl
  have horderly : hallOfMirrors.world.Orderly := World.orderly_ofBodies (by decide)
  obtain ⟨asked, -, hasked, hnested, -⟩ := View.inquiry_ends masquerade (.reaction monkey bear)
  obtain rfl : [.group mummer.toUnit guiser.toUnit false false,
      .reaction mummer.toUnit guiser.toUnit] = asked :=
    congrArg Prod.snd (Option.some.inj (hmasked.symm.trans (hasked 3 (Nat.le_refl 3))))
  obtain ⟨hfree, hlast⟩ := hnested mummer.toUnit guiser.toUnit
    (List.mem_cons_of_mem _ List.mem_cons_self)
  obtain ⟨asked, -, hasked, -, hapart⟩ :=
    View.inquiry_ends hallOfMirrors (.reaction admirer egoist.toUnit)
  obtain rfl : [.group narcissist.toUnit egoist.toUnit false false] = asked :=
    congrArg Prod.snd (Option.some.inj (hmirrored.symm.trans (hasked 3 (Nat.le_refl 3))))
  exact ⟨rfl, rfl, hmasked, hfree, hlast, horderly.kindsMatch, rfl, hmirrored,
    hapart horderly.kindsMatch admirer.id admirer egoist.toUnit rfl rfl⟩

end Rapport
