import Rapport.Proofs.Attack.Peace
import Rapport.Proofs.Comparison

/-!
# Groups of creatures

Two creatures that no player controls are in one group if the first regards the second as a friend,
whether or not groups are divided and charms ignored.  The second is not asked.  Between such
creatures friendship is a matter of their templates and of persuasion (`View.isFriend_of_isWild`):
hatred forbids it from one side, liking speaks for it from either side, and persuasion only moves
the one who looks.  So friendship goes unreturned in two cases, and groups are mutual exactly apart
from these (`View.Unreturned`, `View.group_of_creatures`).
-/

namespace Rapport

/-- A creature that no player controls. -/
structure LiveUnit.IsWild (u : LiveUnit) : Prop where
  creature : u.kind = .creature
  uncontrolled : u.isPlayerControlled = false

namespace View

variable {v : View} {a b : LiveUnit}

/-- Whether a unit's template hates that of another. -/
def hates (v : View) (a b : LiveUnit) : Bool :=
  (v.templateOf? a).any fun s => (v.templateOf? b).any s.hates

/-- Whether a unit's template likes that of another. -/
def likes (v : View) (a b : LiveUnit) : Bool :=
  (v.templateOf? a).any fun s => (v.templateOf? b).any s.likes

/-- Whether anything speaks for a unit's being friendly to another. -/
def isInclined (v : View) (a b : LiveUnit) : Bool :=
  v.likes a b || v.likes b a || v.isPersuaded a b

/-! ### Friendship between creatures -/

theorem reactionOrNeutral_templateOf? :
    FactionTemplate.reactionOrNeutral (v.templateOf? a) (v.templateOf? b) =
      if v.hates a b then .hostile else if v.likes a b || v.likes b a then .friendly
      else .neutral := by
  unfold hates likes
  cases v.templateOf? a with
  | none => cases v.templateOf? b <;> rfl
  | some s =>
      cases v.templateOf? b with
      | none => rfl
      | some t => rfl

/-- Persuasion makes friends of those who are regarded neutrally, and does not undo friendship. -/
theorem isFriend_afterPersuasion (r : Rank) :
    (v.afterPersuasion a b r).isFriend =
      (r.isFriend || decide (r = .neutral) && v.isPersuaded a b) := by
  unfold afterPersuasion
  cases v.isPersuaded a b <;> cases r <;> rfl

theorem isFriend_of_isWild (ha : a.IsWild) (hb : b.IsWild) (hne : a.id ≠ b.id) :
    v.isFriend a b = (!v.hates a b && v.isInclined a b) := by
  rw [isFriend, reaction_of_not_isPlayerControlled v b ha.uncontrolled, uncontrolledReaction,
    if_neg hne, reactionByTemplate,
    templateReactionToUnit_of_not_isPlayerControlled _ hb.uncontrolled,
    reactionOrNeutral_templateOf?, isFriend_afterPersuasion, isInclined]
  cases v.hates a b <;> cases v.likes a b || v.likes b a <;> rfl

/-- Creatures that no player controls go by friendship. -/
theorem isInGroup_of_isWild (ha : a.IsWild) (hb : b.IsWild) (party ignoreCharms : Bool) :
    v.isInGroup a b party ignoreCharms = v.isFriend a b := by
  unfold isInGroup
  rw [ha.creature, ha.uncontrolled, hb.uncontrolled, isFriend,
    reaction_of_not_isPlayerControlled v b ha.uncontrolled]
  rfl

/-! ### Friendship that is not returned -/

/-- A creature is friendly to another that is not friendly to it. -/
inductive Unreturned (v : View) (a b : LiveUnit) : Prop
  /-- The other hates it. -/
  | hatred : v.hates a b = false → v.isInclined a b = true → v.hates b a = true → Unreturned v a b
  /-- It is friendly for no other reason than persuasion, and the other has not been persuaded. -/
  | persuasion : v.hates a b = false → (v.likes a b = false ∧ v.likes b a = false) →
      v.isPersuaded a b = true → v.isPersuaded b a = false → Unreturned v a b

theorem unreturned_iff (ha : a.IsWild) (hb : b.IsWild) (hne : a.id ≠ b.id) :
    v.Unreturned a b ↔ v.isFriend a b = true ∧ v.isFriend b a = false := by
  rw [isFriend_of_isWild ha hb hne, isFriend_of_isWild hb ha hne.symm]
  constructor
  · intro h
    cases h with
    | hatred hab hinclined hba =>
        rw [hab, hinclined, hba]
        exact ⟨rfl, rfl⟩
    | persuasion hab hlikes hpersuaded hnot =>
        unfold isInclined
        rw [hab, hlikes.1, hlikes.2, hpersuaded, hnot]
        exact ⟨rfl, Bool.and_false _⟩
  · rintro ⟨hfriend, hreturned⟩
    rw [Bool.and_eq_true, Bool.not_eq_true'] at hfriend
    obtain ⟨hab, hinclined⟩ := hfriend
    cases hba : v.hates b a with
    | true => exact .hatred hab hinclined hba
    | false =>
        -- what is left of the reasons counts from one side only
        rw [hba, Bool.not_false, Bool.true_and, isInclined, Bool.or_eq_false_iff,
          Bool.or_eq_false_iff] at hreturned
        obtain ⟨⟨hbalikes, hablikes⟩, hnot⟩ := hreturned
        rw [isInclined, hablikes, hbalikes] at hinclined
        exact .persuasion hab ⟨hablikes, hbalikes⟩ hinclined hnot

/-- Two creatures that no player controls are in one group as far as the first is concerned if it
regards the second as a friend.  That they are in one group exactly if both regard each other as
friends holds exactly if the first is not friendly in vain, and the two agree on the matter exactly
if neither is. -/
theorem group_of_creatures (v : View) (ha : a.IsWild) (hb : b.IsWild) (hne : a.id ≠ b.id)
    (party ignoreCharms : Bool) :
    v.isInGroup a b party ignoreCharms = v.isFriend a b ∧
      ((v.isInGroup a b party ignoreCharms = true ↔
          v.isFriend a b = true ∧ v.isFriend b a = true) ↔ ¬ v.Unreturned a b) ∧
      (v.isInGroup a b party ignoreCharms = v.isInGroup b a party ignoreCharms ↔
        ¬ v.Unreturned a b ∧ ¬ v.Unreturned b a) := by
  rw [unreturned_iff ha hb hne, unreturned_iff hb ha hne.symm,
    isInGroup_of_isWild ha hb party ignoreCharms, isInGroup_of_isWild hb ha party ignoreCharms]
  refine ⟨rfl, ?_, ?_⟩
  · cases v.isFriend a b <;> cases v.isFriend b a <;> simp
  · cases v.isFriend a b <;> cases v.isFriend b a <;> simp

end View

/-- The stray is in a group with the hunter, who is not in one with it: the hunter hates the stray
and is liked by it. -/
theorem stray_grouped_with_hunter :
    stray.IsWild ∧ hunter.IsWild ∧ stray.id ≠ hunter.id ∧
      moor.unit? stray.id = some stray ∧ moor.unit? hunter.id = some hunter ∧
      moor.isInGroup stray hunter false false = true ∧ moor.isFriend hunter stray = false ∧
      moor.isInGroup hunter stray false false = false :=
  ⟨⟨rfl, rfl⟩, ⟨rfl, rfl⟩, by decide, rfl, rfl, rfl, rfl, rfl⟩

/-- Bearers of template 8 like their own kind. -/
def packData : FactionData where
  templates := .ofList
    [(8, { id := 8, factionGroup := .only .monster, friendGroup := .only .monster })]

/-- A creature of the pack. -/
def alpha : LiveUnit := ⟨⟨0⟩, .creature, { factionTemplate := 8 }, .creature {}⟩

/-- Another creature of the pack. -/
def cub : LiveUnit := ⟨⟨1⟩, .creature, { factionTemplate := 8 }, .creature {}⟩

/-- The two creatures, which bear one template. -/
def pack : View := .ofUnits packData [alpha, cub]

/-- Creatures of one kind that like each other are in one group for both of them. -/
theorem group_of_creatures_pack :
    alpha.IsWild ∧ cub.IsWild ∧ alpha.id ≠ cub.id ∧ pack.isInGroup alpha cub true false = true ∧
      pack.isInGroup cub alpha true false = true := by
  have halpha : alpha.IsWild := ⟨rfl, rfl⟩
  have hcub : cub.IsWild := ⟨rfl, rfl⟩
  have hne : alpha.id ≠ cub.id := by decide
  have hfriends : pack.isFriend alpha cub = true ∧ pack.isFriend cub alpha = true := ⟨rfl, rfl⟩
  have hreturned : ¬ pack.Unreturned alpha cub := by
    rw [View.unreturned_iff halpha hcub hne, hfriends.2]
    simp
  have hanswered : ¬ pack.Unreturned cub alpha := by
    rw [View.unreturned_iff hcub halpha hne.symm, hfriends.1]
    simp
  obtain ⟨-, hmutual, hsymm⟩ := View.group_of_creatures pack halpha hcub hne true false
  have hgroup : pack.isInGroup alpha cub true false = true := (hmutual.2 hreturned).2 hfriends
  exact ⟨halpha, hcub, hne, hgroup, (hsymm.2 ⟨hreturned, hanswered⟩).symm.trans hgroup⟩

end Rapport
