import Rapport.Visibility
import Rapport.Proofs.Reputation

/-!
# Peaceful dealings and reputation

Friendship, assistance, cooperation and talk all want to be regarded well, on one side or on both,
and nothing else that they ask for has to do with reputation.  What is granted between two units is
therefore still granted where no player's reputation is worse (`View.grants_of_noBetter`), and game
objects are not withheld there either (`View.canInteractObject_of_noBetter`).
-/

namespace Rapport

/-- The questions about peaceful dealings of two units. -/
inductive PeaceQuery
  /-- Whether the unit regards the other as a friend. -/
  | friendship
  /-- Whether the unit may help the other. -/
  | assistance
  | cooperation
  /-- Whether the unit can talk to the other at all. -/
  | interaction
  /-- Whether the unit can talk to the other at this moment. -/
  | interactionNow

namespace View

/-- The answer to a question about peaceful dealings. -/
def grants (v : View) : PeaceQuery → LiveUnit → LiveUnit → Bool
  | .friendship => v.isFriend
  | .assistance => v.canAssist
  | .cooperation => v.canCooperate
  | .interaction => v.canInteract
  | .interactionNow => v.canInteractNow

variable {v v' : View} {a a' b b' : LiveUnit}

section

variable (hv : UpToReputation Reputation.NoBetter v v')
  (ha : a.UpToReputation Reputation.NoBetter a') (hb : b.UpToReputation Reputation.NoBetter b')

include hv hb

/-- Who shows that they take part in fights between players has nothing to do with reputation. -/
theorem showsPvp_eq : v'.showsPvp b' = v.showsPvp b := by
  have hmaster : Option.Rel (LiveUnit.UpToReputation Reputation.NoBetter) (v.master? b)
      (v'.master? b') := by
    rw [master?, master?, hb.state_eq]
    exact hv.linked _
  unfold showsPvp
  rcases hmaster.none_or_some with ⟨hm, hm'⟩ | ⟨m, m', hm, hm', hmm⟩
  · rw [hm, hm']
    cases hb <;> rfl
  · rw [hm, hm']
    cases hb <;> cases hmm <;> rfl

include ha

/-- Whoever is regarded better than some rank in the first view is so in the second. -/
theorem reaction_gt_of_noBetter {r : Rank} (h : decide (v.reaction a b > r) = true) :
    decide (v'.reaction a' b' > r) = true := by
  rw [decide_eq_true_eq] at h ⊢
  exact Nat.lt_of_lt_of_le h (reaction_mono hv ha hb)

theorem canAssist_of_noBetter (h : v.canAssist a b = true) : v'.canAssist a' b' = true := by
  have hselectable :
      (!b'.state.flags.has .uninteractible) = !b.state.flags.has .uninteractible := by
    rw [hb.state_eq]
  have hfriendly : decide (.friendly ≤ v.reaction a b) = true →
      decide (.friendly ≤ v'.reaction a' b') = true := by
    rw [decide_eq_true_eq, decide_eq_true_eq]
    exact fun hfriendly => Rank.le_trans hfriendly (reaction_mono hv ha hb)
  refine and_mono (and_mono hselectable.trans hfriendly) ?_ h
  rw [ha.isPlayerControlled_eq, hb.isPlayerControlled_eq, showsPvp_eq hv hb]
  have hhelp := decided_congr (hv.controller? ha) (hv.controller? hb) (d := true)
    fun hp hq => hp.mayHelp_eq hq
  cases b.isPlayerControlled with
  | true => exact hhelp.trans
  | false => exact id

theorem canCooperate_of_noBetter (h : v.canCooperate a b = true) :
    v'.canCooperate a' b' = true := by
  have hcharms : (a'.id != b'.id && !a'.isCharmed && !b'.isCharmed) =
      (a.id != b.id && !a.isCharmed && !b.isCharmed) := by
    cases ha <;> cases hb <;> rfl
  refine and_mono hcharms.trans ?_ h
  rw [templateOf?_congr hv.toSameSetting ha.resembles,
    templateOf?_congr hv.toSameSetting hb.resembles]
  -- whom a unit may attack in the second view it may attack in the first
  have hspared : (!v.canAttack a b) = true → (!v'.canAttack a' b') = true := by
    cases hattack : v'.canAttack a' b' with
    | false => exact fun _ => rfl
    | true =>
        have hallowed : v.canAttack a b = true := allows_of_noBetter hv ha hb .plain hattack
        rw [hallowed]
        exact id
  cases v.templateOf? a with
  | none => exact id
  | some s =>
      cases v.templateOf? b with
      | none => exact id
      | some t => exact and_mono id hspared

theorem canInteract_of_noBetter (h : v.canInteract a b = true) : v'.canInteract a' b' = true := by
  have hoffer : (!b'.state.flags.has .uninteractible && !b'.state.npcFlags.isEmpty &&
      (!a'.isGhost || b'.isVisibleToGhosts)) =
      (!b.state.flags.has .uninteractible && !b.state.npcFlags.isEmpty &&
        (!a.isGhost || b.isVisibleToGhosts)) := by
    cases ha <;> cases hb <;> rfl
  exact and_mono (and_mono hoffer.trans (reaction_gt_of_noBetter hv ha hb))
    (reaction_gt_of_noBetter hv hb ha) h

theorem canInteractNow_of_noBetter (h : v.canInteractNow a b = true) :
    v'.canInteractNow a' b' = true := by
  have hmute : v'.isFormMute a' = v.isFormMute a := by
    rw [isFormMute, isFormMute, ha.state_eq, hv.data]
  have hready : (!a'.state.flags.has .taxiFlight && !a'.isCharmed &&
      (a'.state.alive || a'.isGhost) && !v.isFormMute a && b'.isAliveEnoughFor a' &&
      !b'.isCharmed && !b'.state.flags.has .petInCombat && b'.state.victim.isNone) =
      (!a.state.flags.has .taxiFlight && !a.isCharmed && (a.state.alive || a.isGhost) &&
        !v.isFormMute a && b.isAliveEnoughFor a && !b.isCharmed &&
        !b.state.flags.has .petInCombat && b.state.victim.isNone) := by
    cases ha <;> cases hb <;> rfl
  refine and_mono ?_ (canInteract_of_noBetter hv ha hb) h
  rw [hmute]
  exact hready.trans

/-- Peaceful dealings that are granted in the first view are granted in the second. -/
theorem grants_of_noBetter (query : PeaceQuery) (h : v.grants query a b = true) :
    v'.grants query a' b' = true := by
  cases query with
  | friendship => exact isFriend_of_noBetter hv ha hb h
  | assistance => exact canAssist_of_noBetter hv ha hb h
  | cooperation => exact canCooperate_of_noBetter hv ha hb h
  | interaction => exact canInteract_of_noBetter hv ha hb h
  | interactionNow => exact canInteractNow_of_noBetter hv ha hb h

omit hb in
theorem gameObjectReaction_mono (o : LiveGameObject) :
    v.gameObjectReaction o a ≤ v'.gameObjectReaction o a' := by
  have hholder : Option.Rel (LiveUnit.UpToReputation Reputation.NoBetter)
      (v.holder? o.toLiveThing) (v'.holder? o.toLiveThing) := hv.linked _
  have htemplate : v'.thingTemplate? o.toLiveThing = v.thingTemplate? o.toLiveThing := by
    rw [thingTemplate?, thingTemplate?, template?, template?, hv.data]
  unfold gameObjectReaction
  rw [htemplate]
  rcases hholder.none_or_some with ⟨hu, hu'⟩ | ⟨u, u', hu, hu', huu⟩
  · rw [hu, hu']
    exact templateReactionToUnit_mono hv (fun h => h.toNoHigher) ha _
  · rw [hu, hu']
    exact reaction_mono hv huu ha

omit hb in
/-- A game object that a unit can use in the first view it can use in the second. -/
theorem canInteractObject_of_noBetter {o : LiveGameObject} (h : v.canInteractObject a o = true) :
    v'.canInteractObject a' o = true := by
  refine and_mono ?_ ?_ h
  · rw [ha.isGhost_eq]
    exact id
  · rw [decide_eq_true_eq, decide_eq_true_eq]
    exact fun hbetter => Nat.lt_of_lt_of_le hbetter (gameObjectReaction_mono hv ha o)

end

/-! ### Treatment -/

/-- The first unit treats the second no better in the first view than in the second: it regards it
no better, attacks it if it does so in the second view, and grants it nothing that it does not grant
it there.  The two units are `a` and `b` in the first view, and `a'` and `b'` in the second. -/
structure TreatsNoBetter (v v' : View) (a b a' b' : LiveUnit) : Prop where
  reaction : v.reaction a b ≤ v'.reaction a' b'
  enemy : v'.isEnemy a' b' = true → v.isEnemy a b = true
  attack : ∀ query, v'.allows query a' b' = true → v.allows query a b = true
  peace : ∀ query, v.grants query a b = true → v'.grants query a' b' = true

theorem treatsNoBetter_of_noBetter (hv : UpToReputation Reputation.NoBetter v v')
    (ha : a.UpToReputation Reputation.NoBetter a') (hb : b.UpToReputation Reputation.NoBetter b') :
    v.TreatsNoBetter v' a b a' b' where
  reaction := reaction_mono hv ha hb
  enemy := isEnemy_of_noBetter hv ha hb
  attack := allows_of_noBetter hv ha hb
  peace := grants_of_noBetter hv ha hb

end View

end Rapport
