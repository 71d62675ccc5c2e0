import Mathlib.Logic.Relation
import Rapport.Faction
import Rapport.Proofs.Flag.Bits
import Rapport.Proofs.Standing

/-!
# Reactions between templates

A template is hostile to what it hates, and hate is one-sided; liking counts from either side, so
two templates of which neither is hostile to the other regard each other alike.

A template can be given further signals: groups, and factions in the free places of its lists.  A
list counts only if its first place is taken, so a faction put there may bring the rest of the list
into force, but it puts nothing out of force (`listsFaction_set`).  Hence more hate never raises a
reaction, and more liking on either side never lowers it and leaves hostility alone
(`FactionTemplate.reactionTo_law`).
-/

namespace Rapport

/-- A word that meets another meets every larger one. -/
theorem FlagSet.Within.meets {φ : Type} {r s t : FlagSet φ} (h : s.Within t)
    (hmeets : r.meets s = true) : r.meets t = true := by
  rw [FlagSet.meets, bne_iff_ne] at hmeets ⊢
  intro hzero
  refine hmeets ?_
  calc r.bits &&& s.bits
    _ = r.bits &&& (s.bits &&& t.bits) := congrArg (r.bits &&& ·) h.symm
    _ = (r.bits &&& t.bits) &&& s.bits := by rw [UInt32.and_comm s.bits, UInt32.and_assoc]
    _ = 0 := by rw [hzero, UInt32.zero_and]

/-- Taking a free place of a list strikes no faction off it. -/
theorem listsFaction_set {list : Vector FactionId 4} {place : Nat} (hplace : place < 4)
    (hfree : list[place] = 0) (added : FactionId) {faction : FactionId}
    (h : listsFaction list faction = true) :
    listsFaction (list.set place added) faction = true := by
  simp only [listsFaction, Bool.and_eq_true, bne_iff_ne, Vector.contains_iff_mem, ne_eq] at h ⊢
  obtain ⟨⟨hfirst, hfaction⟩, hmem⟩ := h
  obtain ⟨i, hi, hlisted⟩ := Vector.mem_iff_getElem.1 hmem
  -- neither the first place nor the place of the faction is free
  have hne : place ≠ 0 := fun heq => hfirst (by simpa [heq] using hfree)
  have hother : place ≠ i := fun heq => hfaction (by rw [← hlisted, ← hfree]; simp [heq])
  refine ⟨⟨?_, hfaction⟩, ?_⟩
  · rwa [Vector.getElem_set_ne hplace (by omega) hne]
  · refine Vector.mem_iff_getElem.2 ⟨i, hi, ?_⟩
    rw [Vector.getElem_set_ne hplace hi hother, hlisted]

namespace FactionTemplate

open Relation (ReflTransGen)

variable {a a' b b' : FactionTemplate}

/-- One further signal of hate. -/
inductive HatesMore (a : FactionTemplate) : FactionTemplate → Prop
  | group {groups : FlagSet FactionGroup} :
      a.enemyGroup.Within groups → HatesMore a { a with enemyGroup := groups }
  | faction {place : Nat} (hplace : place < 4) (added : FactionId) :
      a.enemyFactions[place] = 0 →
        HatesMore a { a with enemyFactions := a.enemyFactions.set place added }

/-- One further signal of liking. -/
inductive LikesMore (a : FactionTemplate) : FactionTemplate → Prop
  | group {groups : FlagSet FactionGroup} :
      a.friendGroup.Within groups → LikesMore a { a with friendGroup := groups }
  | faction {place : Nat} (hplace : place < 4) (added : FactionId) :
      a.friendFactions[place] = 0 →
        LikesMore a { a with friendFactions := a.friendFactions.set place added }

/-! ### What decides a reaction -/

theorem reactionTo_of_hates (h : a.hates b = true) : a.reactionTo b = .hostile := if_pos h

theorem reactionTo_of_not_hates (h : a.hates b = false) :
    a.reactionTo b = if a.likes b || b.likes a then .friendly else .neutral := by
  rw [reactionTo, h, if_neg Bool.false_ne_true]

/-- Only hate makes hostile. -/
theorem reactionTo_eq_hostile_iff : a.reactionTo b = .hostile ↔ a.hates b = true := by
  refine ⟨fun hhostile => ?_, reactionTo_of_hates⟩
  cases hhates : a.hates b with
  | true => rfl
  | false =>
      rw [reactionTo_of_not_hates hhates] at hhostile
      split at hhostile <;> contradiction

theorem reactionTo_cases (a b : FactionTemplate) :
    a.reactionTo b = .hostile ∨ a.reactionTo b = .neutral ∨ a.reactionTo b = .friendly := by
  rw [reactionTo]
  split
  · exact .inl rfl
  · split
    · exact .inr (.inr rfl)
    · exact .inr (.inl rfl)

theorem hostile_le_reactionTo (a b : FactionTemplate) : .hostile ≤ a.reactionTo b := by
  rcases reactionTo_cases a b with h | h | h <;> rw [h] <;> decide

/-- Two templates that do not hate each other regard each other alike. -/
theorem reactionTo_comm (h : a.hates b = false) (h' : b.hates a = false) :
    a.reactionTo b = b.reactionTo a := by
  rw [reactionTo_of_not_hates h, reactionTo_of_not_hates h', Bool.or_comm]

/-- Where hate is as before and liking is not gone, the reaction is at least as good. -/
theorem reactionTo_mono (hhates : a'.hates b' = a.hates b)
    (hlikes : (a.likes b || b.likes a) = true → (a'.likes b' || b'.likes a') = true) :
    a.reactionTo b ≤ a'.reactionTo b' := by
  cases h : a.hates b with
  | true =>
      rw [reactionTo_of_hates h]
      exact hostile_le_reactionTo a' b'
  | false =>
      rw [reactionTo_of_not_hates h, reactionTo_of_not_hates (hhates.trans h)]
      split
      next hliked =>
        rw [if_pos (hlikes hliked)]
        exact Rank.le_refl _
      next => split <;> decide

/-! ### One further signal -/

namespace HatesMore

theorem hates (h : HatesMore a a') (hhates : a.hates b = true) : a'.hates b = true := by
  rw [FactionTemplate.hates, Bool.or_eq_true] at hhates ⊢
  cases h with
  | group hwithin => exact hhates.imp_left hwithin.meets
  | faction hplace added hfree => exact hhates.imp_right (listsFaction_set hplace hfree added)

/-- More hate does not change who likes whom. -/
theorem likes_eq (h : HatesMore a a') : a'.likes b = a.likes b ∧ b.likes a' = b.likes a := by
  cases h <;> exact ⟨rfl, rfl⟩

theorem reactionTo_le (h : HatesMore a a') : a'.reactionTo b ≤ a.reactionTo b := by
  cases hhates : a'.hates b with
  | true =>
      rw [reactionTo_of_hates hhates]
      exact hostile_le_reactionTo a b
  | false =>
      have hbefore : a.hates b = false := Bool.eq_false_iff.2 fun hbefore =>
        Bool.false_ne_true (hhates.symm.trans (h.hates hbefore))
      refine reactionTo_mono (hbefore.trans hhates.symm) fun hlikes => ?_
      rwa [h.likes_eq.1, h.likes_eq.2] at hlikes

/-- What a template hates is nothing to those who regard it. -/
theorem reactionTo_eq (h : HatesMore b b') : a.reactionTo b' = a.reactionTo b := by
  cases h <;> rfl

end HatesMore

namespace LikesMore

theorem likes (h : LikesMore a a') (hlikes : a.likes b = true) : a'.likes b = true := by
  rw [FactionTemplate.likes, Bool.or_eq_true] at hlikes ⊢
  cases h with
  | group hwithin => exact hlikes.imp_left hwithin.meets
  | faction hplace added hfree => exact hlikes.imp_right (listsFaction_set hplace hfree added)

/-- More liking does not change who hates whom. -/
theorem hates_eq (h : LikesMore a a') : a'.hates b = a.hates b ∧ b.hates a' = b.hates a := by
  cases h <;> exact ⟨rfl, rfl⟩

/-- More liking does not change who likes the template. -/
theorem liked_eq (h : LikesMore a a') : b.likes a' = b.likes a := by
  cases h <;> rfl

theorem le_reactionTo (h : LikesMore a a') : a.reactionTo b ≤ a'.reactionTo b := by
  refine reactionTo_mono h.hates_eq.1 fun hlikes => ?_
  rw [Bool.or_eq_true] at hlikes ⊢
  rw [h.liked_eq]
  exact hlikes.imp_left h.likes

theorem le_reactionTo_right (h : LikesMore b b') : a.reactionTo b ≤ a.reactionTo b' := by
  refine reactionTo_mono h.hates_eq.2 fun hlikes => ?_
  rw [Bool.or_eq_true] at hlikes ⊢
  rw [h.liked_eq]
  exact hlikes.imp_right h.likes

end LikesMore

/-! ### Any number of further signals -/

theorem reactionTo_le_of_hatesMore (h : ReflTransGen HatesMore a a') :
    a'.reactionTo b ≤ a.reactionTo b := by
  induction h with
  | refl => exact Rank.le_refl _
  | tail _ hstep ih => exact Rank.le_trans hstep.reactionTo_le ih

theorem reactionTo_eq_of_hatesMore (h : ReflTransGen HatesMore b b') :
    a.reactionTo b' = a.reactionTo b := by
  induction h with
  | refl => rfl
  | tail _ hstep ih => exact hstep.reactionTo_eq.trans ih

theorem le_reactionTo_of_likesMore (h : ReflTransGen LikesMore a a') :
    a.reactionTo b ≤ a'.reactionTo b ∧ b.reactionTo a ≤ b.reactionTo a' := by
  induction h with
  | refl => exact ⟨Rank.le_refl _, Rank.le_refl _⟩
  | tail _ hstep ih =>
      exact ⟨Rank.le_trans ih.1 hstep.le_reactionTo, Rank.le_trans ih.2 hstep.le_reactionTo_right⟩

theorem hates_eq_of_likesMore (h : ReflTransGen LikesMore a a') :
    a'.hates b = a.hates b ∧ b.hates a' = b.hates a := by
  induction h with
  | refl => exact ⟨rfl, rfl⟩
  | tail _ hstep ih => exact ⟨hstep.hates_eq.1.trans ih.1, hstep.hates_eq.2.trans ih.2⟩

/-- Templates disagree about each other only where one is hostile to the other.  However many
signals of hate are added, no reaction rises; and however many signals of liking are added on either
side, no reaction falls, and hostility stays or stays away. -/
theorem reactionTo_law (a b : FactionTemplate) :
    (a.reactionTo b = .hostile ∨ a.reactionTo b = .neutral ∨ a.reactionTo b = .friendly) ∧
      (a.reactionTo b ≠ .hostile → b.reactionTo a ≠ .hostile →
        a.reactionTo b = b.reactionTo a) ∧
      (∀ a' b', ReflTransGen HatesMore a a' → ReflTransGen HatesMore b b' →
        a'.reactionTo b' ≤ a.reactionTo b) ∧
      ∀ a' b', ReflTransGen LikesMore a a' → ReflTransGen LikesMore b b' →
        a.reactionTo b ≤ a'.reactionTo b' ∧
          (a'.reactionTo b' = .hostile ↔ a.reactionTo b = .hostile) := by
  refine ⟨reactionTo_cases a b, fun hab hba => ?_, fun a' b' ha hb => ?_, fun a' b' ha hb => ?_⟩
  · rw [ne_eq, reactionTo_eq_hostile_iff, Bool.not_eq_true] at hab hba
    exact reactionTo_comm hab hba
  · rw [reactionTo_eq_of_hatesMore hb]
    exact reactionTo_le_of_hatesMore ha
  · constructor
    · exact Rank.le_trans (le_reactionTo_of_likesMore ha).1 (le_reactionTo_of_likesMore hb).2
    · rw [reactionTo_eq_hostile_iff, reactionTo_eq_hostile_iff, (hates_eq_of_likesMore hb).2,
        (hates_eq_of_likesMore ha).1]

end FactionTemplate

/-- The template of a village: its list of enemies names faction 20, but not in the first place. -/
def village : FactionTemplate :=
  { id := 1, faction := 10, factionGroup := ⟨0x80000002⟩, enemyFactions := #v[0, 20, 0, 0] }

/-- The template of its neighbours. -/
def neighbours : FactionTemplate := { id := 2, faction := 20, factionGroup := ⟨0x4⟩ }

/-- The village and its neighbours are neutral.  A first enemy brings the village's list into force,
and then they are hostile; if the neighbours like a group without a name, they are friendly. -/
theorem reactionTo_law_village :
    village.reactionTo neighbours = .neutral ∧
      { village with enemyFactions := #v[30, 20, 0, 0] }.reactionTo neighbours = .hostile ∧
      { village with enemyFactions := #v[30, 20, 0, 0] }.reactionTo neighbours ≤
        village.reactionTo neighbours ∧
      village.reactionTo { neighbours with friendGroup := ⟨0x80000000⟩ } = .friendly ∧
      village.reactionTo neighbours ≤
        village.reactionTo { neighbours with friendGroup := ⟨0x80000000⟩ } ∧
      village.reactionTo neighbours = neighbours.reactionTo village := by
  obtain ⟨-, hagree, hhate, hlike⟩ := FactionTemplate.reactionTo_law village neighbours
  have hplace : 0 < 4 := by decide
  have hfirst : FactionTemplate.HatesMore village
      { village with enemyFactions := #v[30, 20, 0, 0] } := .faction hplace 30 rfl
  have hgroup : FactionTemplate.LikesMore neighbours
      { neighbours with friendGroup := ⟨0x80000000⟩ } := .group rfl
  have hhates : FactionTemplate.hates { village with enemyFactions := #v[30, 20, 0, 0] }
      neighbours = true := by
    simp [FactionTemplate.hates, listsFaction, neighbours]
  exact ⟨rfl, FactionTemplate.reactionTo_of_hates hhates, hhate _ _ (.single hfirst) .refl, rfl,
    (hlike _ _ .refl (.single hgroup)).1, hagree (by decide) (by decide)⟩

end Rapport
