import Rapport.Proofs.Attack

/-!
# Answers of entities of any kind

Two results about questions that may be asked of every entity.

Enemies and friends go by the rank (`enemies_and_friends_by_rank`).  Each kind has its own way to
the three answers, and some have no opinion to begin with; having none counts as neutral, which is
neither an enemy's rank nor a friend's.

A game object whose owner is there speaks for the owner as long as units are concerned
(`answersAlike_gameObject`): each of the five questions about a unit is passed on with all that
comes with it.  Corpses are another matter.  Only units have a view of them, so a game object is
neutral where its owner may not be, and it agrees with the owner exactly on those corpses toward
which the owner is neutral (`gameObject_answers_as_owner`).
-/

namespace Rapport

namespace View

variable {v : View}

/-! ### Enemies and friends -/

section

variable {target : LiveUnit}

/-- A question about a rank that is answered with no where there is no opinion, and with no of
neutral, is a question about the rank with neutral in place of no opinion. -/
theorem any_rank_eq {α : Type} {asks : Rank → Bool} (hneutral : asks .neutral = false)
    (rank : α → Rank) (x : Option α) :
    (x.any fun a => asks (rank a)) = asks ((x.map rank).getD .neutral) := by
  cases x with
  | none => exact hneutral.symm
  | some _ => rfl

theorem templateReactionToUnit_eq_getD (t : Option FactionTemplate) :
    v.templateReactionToUnit t target =
      (t.map fun t => v.templateReactionToUnit (some t) target).getD .neutral := by
  cases t <;> rfl

/-- An owner's opinion and a template of its own are two ways to one rank. -/
theorem gameObject_rank_eq {asks : Rank → Bool} (hneutral : asks .neutral = false)
    (o : LiveGameObject) :
    (match v.holder? o.toLiveThing with
      | some owner => asks (v.reaction owner target)
      | none =>
        (v.thingTemplate? o.toLiveThing).any fun t =>
          asks (v.templateReactionToUnit (some t) target)) =
      asks (v.gameObjectReaction o target) := by
  unfold gameObjectReaction
  cases v.holder? o.toLiveThing with
  | some _ => rfl
  | none =>
      rw [templateReactionToUnit_eq_getD]
      exact any_rank_eq hneutral _ _

theorem subjectIsEnemy_eq (s : LiveObject) :
    v.subjectIsEnemy s target = (v.subjectReaction s target).isEnemy := by
  cases s with
  | unit _ => rfl
  | gameObject o => exact gameObject_rank_eq rfl o
  | dynamicObject _ => exact any_rank_eq rfl _ _
  | corpse _ => rfl

theorem subjectIsFriend_eq (s : LiveObject) :
    v.subjectIsFriend s target = (v.subjectReaction s target).isFriend := by
  cases s with
  | unit _ => rfl
  | gameObject o => exact gameObject_rank_eq rfl o
  | dynamicObject _ => exact any_rank_eq rfl _ _
  | corpse _ => rfl

/-- Whatever kind an entity is of, its enemies are the units that it regards below `unfriendly`, its
friends are those that it regards above `neutral`, and nobody is both. -/
theorem enemies_and_friends_by_rank (v : View) (s : LiveObject) (target : LiveUnit) :
    (v.subjectIsEnemy s target = true ↔ v.subjectReaction s target < .unfriendly) ∧
      (v.subjectIsFriend s target = true ↔ .neutral < v.subjectReaction s target) ∧
      ¬ (v.subjectIsEnemy s target = true ∧ v.subjectIsFriend s target = true) := by
  rw [subjectIsEnemy_eq, subjectIsFriend_eq]
  refine ⟨Rank.isEnemy_iff, Rank.isFriend_iff, ?_⟩
  rintro ⟨henemy, hfriend⟩
  rw [Rank.isFriend_of_isEnemy henemy] at hfriend
  contradiction

end

/-! ### Game objects and their owners -/

/-- Two entities give the same answer to every question about a unit. -/
structure AnswersAlike (v : View) (s t : LiveObject) : Prop where
  reaction : ∀ target, v.subjectReaction s target = v.subjectReaction t target
  isEnemy : ∀ target, v.subjectIsEnemy s target = v.subjectIsEnemy t target
  isFriend : ∀ target, v.subjectIsFriend s target = v.subjectIsFriend t target
  canAttackSpell : ∀ target spell isArea,
    v.subjectCanAttackSpell s target spell isArea = v.subjectCanAttackSpell t target spell isArea
  canAssistSpell : ∀ target spell,
    v.subjectCanAssistSpell s target spell = v.subjectCanAssistSpell t target spell

theorem answersAlike_gameObject {o : LiveGameObject} {u : LiveUnit}
    (h : v.holder? o.toLiveThing = some u) : v.AnswersAlike (.gameObject o) (.unit u) where
  reaction target := by simp only [subjectReaction, gameObjectReaction, h]
  isEnemy target := by simp only [subjectIsEnemy, gameObjectIsEnemy, h]
  isFriend target := by simp only [subjectIsFriend, gameObjectIsFriend, h]
  canAttackSpell target spell isArea :=
    (StandsFor.gameObject h).canAttackSpell_eq spell isArea
  canAssistSpell target spell := by
    simp only [subjectCanAssistSpell, gameObjectCanAssistSpell, h]

/-- Whatever is no unit is neutral toward every corpse. -/
theorem subjectReactionToCorpse_of_unit?_eq_none {s : LiveObject} (h : s.unit? = none)
    (c : LiveCorpse) : v.subjectReactionToCorpse s c = .neutral := by
  cases s with
  | unit u => cases h
  | gameObject _ => rfl
  | dynamicObject _ => rfl
  | corpse _ => rfl

/-- A game object answers as its owner does, except toward the corpses that leave the owner anything
but neutral. -/
theorem gameObject_answers_as_owner {o : LiveGameObject} {u : LiveUnit}
    (h : v.holder? o.toLiveThing = some u) :
    v.AnswersAlike (.gameObject o) (.unit u) ∧
      ∀ c, v.subjectReactionToCorpse (.gameObject o) c = v.subjectReactionToCorpse (.unit u) c ↔
        v.reactionToCorpse u c = .neutral := by
  refine ⟨answersAlike_gameObject h, fun c => ?_⟩
  rw [subjectReactionToCorpse_of_unit?_eq_none rfl]
  exact eq_comm

end View

/-- Bearers of template 5 like their own kind. -/
def watchData : FactionData where
  templates := .ofList
    [(5, { id := 5, factionGroup := .only .alliance, friendGroup := .only .alliance })]

/-- A creature, a game object that it owns, and a corpse, all three under template 5. -/
def graveyard : View where
  world := .ofBodies
    [.newCreature 5, .gameObject { holder := some ⟨0⟩, factionTemplate := 5 },
      .corpse { factionTemplate := 5 }]
  data := watchData
  config := {}

/-- The owner. -/
def sexton : LiveUnit := ⟨⟨0⟩, .creature, { factionTemplate := 5 }, .creature {}⟩

/-- The game object that the creature owns. -/
def lantern : LiveGameObject := ⟨⟨⟨1⟩, { holder := some sexton.id, factionTemplate := 5 }⟩⟩

/-- The corpse, which nobody has left. -/
def remains : LiveCorpse := ⟨⟨⟨2⟩, { factionTemplate := 5 }⟩⟩

/-- The owner is friendly toward the corpse, and the game object is neutral. -/
theorem owned_object_neutral_to_friendly_corpse :
    graveyard.object? lantern.id = some (.gameObject lantern) ∧
      graveyard.object? remains.id = some (.corpse remains) ∧
      graveyard.holder? lantern.toLiveThing = some sexton ∧
      graveyard.subjectReactionToCorpse (.unit sexton) remains = .friendly ∧
      graveyard.subjectReactionToCorpse (.gameObject lantern) remains = .neutral :=
  ⟨rfl, rfl, rfl, rfl, rfl⟩

/-- The game object calls its owner a friend, as the owner does, and does not share the owner's view
of the corpse. -/
theorem gameObject_answers_as_owner_graveyard :
    graveyard.holder? lantern.toLiveThing = some sexton ∧
      graveyard.subjectIsFriend (.gameObject lantern) sexton = true ∧
      graveyard.subjectReactionToCorpse (.gameObject lantern) remains ≠
        graveyard.subjectReactionToCorpse (.unit sexton) remains := by
  have howner : graveyard.holder? lantern.toLiveThing = some sexton := rfl
  obtain ⟨halike, hcorpse⟩ := View.gameObject_answers_as_owner howner
  have hfriendly : graveyard.reactionToCorpse sexton remains = .friendly := rfl
  refine ⟨howner, (halike.isFriend sexton).trans rfl, fun hsame => ?_⟩
  have hneutral := (hcorpse remains).1 hsame
  rw [hfriendly] at hneutral
  cases hneutral

end Rapport
