import Rapport.Rank

/-!
# Standings and ranks

The scale of ranks goes with the scale of standings.  Standings are added exactly and then brought
into the 32-bit range (`Standing.toInt_add`), so a higher summand never gives a lower sum; and a
higher standing never gives a lower rank (`Rank.ofStanding_mono`), because the ranks fall along the
table of their floors.
-/

namespace Rapport

namespace Rank

variable {a b c : Rank}

theorem le_refl (a : Rank) : a ≤ a := Nat.le_refl _

theorem le_trans (hab : a ≤ b) (hbc : b ≤ c) : a ≤ c := Nat.le_trans hab hbc

theorem hated_le (a : Rank) : hated ≤ a := Nat.zero_le _

/-- A higher rank, if there is one, and else a higher default. -/
theorem getD_le {x y : Option Rank} (h : Option.Rel LE.le x y) (hab : a ≤ b) :
    x.getD a ≤ y.getD b := by
  cases h with
  | some h => exact h
  | none => exact hab

/-! ### Thresholds -/

theorem isEnemy_iff : a.isEnemy = true ↔ a < .unfriendly := decide_eq_true_iff

theorem isFriend_iff : a.isFriend = true ↔ .neutral < a := decide_eq_true_iff

/-- The threshold of friends lies above that of enemies. -/
theorem isFriend_of_isEnemy (h : a.isEnemy = true) : a.isFriend = false := by
  cases hfriend : a.isFriend with
  | false => rfl
  | true =>
      rw [isEnemy_iff] at h
      rw [isFriend_iff] at hfriend
      have hthresholds : neutral < unfriendly := Nat.lt_trans hfriend h
      exact absurd hthresholds (by decide)

theorem isEnemy_of_le (h : a ≤ b) (hb : b.isEnemy = true) : a.isEnemy = true := by
  rw [isEnemy, decide_eq_true_eq] at hb ⊢
  exact Nat.lt_of_le_of_lt h hb

theorem isFriend_of_le (h : a ≤ b) (ha : a.isFriend = true) : b.isFriend = true := by
  rw [isFriend, decide_eq_true_eq] at ha ⊢
  exact Nat.lt_of_lt_of_le ha h

theorem tier_friendlier (a : Rank) : a.friendlier.tier = min 7 (a.tier + 1) := by
  cases a <;> rfl

/-! ### Floors -/

/-- The rank of the first entry whose floor a standing reaches, or `hated`. -/
def above (entries : List (Standing × Rank)) (s : Standing) : Rank :=
  match entries.find? fun entry => entry.1 ≤ s with
  | some (_, rank) => rank
  | none => .hated

theorem above_cons (entry : Standing × Rank) (entries : List (Standing × Rank)) (s : Standing) :
    above (entry :: entries) s = if entry.1 ≤ s then entry.2 else above entries s := by
  unfold above
  rw [List.find?_cons]
  by_cases h : entry.1 ≤ s <;> simp [h]

/-- No entry gives more than the highest rank among the entries. -/
theorem above_le {entries : List (Standing × Rank)} {r : Rank} (h : ∀ entry ∈ entries, entry.2 ≤ r)
    (s : Standing) : above entries s ≤ r := by
  induction entries with
  | nil => exact hated_le r
  | cons entry entries ih =>
      rw [above_cons]
      split
      · exact h entry List.mem_cons_self
      · exact ih fun other hother => h other (List.mem_cons_of_mem _ hother)

/-- Where ranks fall along the entries, a higher standing never gives a lower rank. -/
theorem above_mono {entries : List (Standing × Rank)}
    (hfall : entries.Pairwise fun upper lower => lower.2 ≤ upper.2) {s s' : Standing} (h : s ≤ s') :
    above entries s ≤ above entries s' := by
  induction entries with
  | nil => exact le_refl _
  | cons entry entries ih =>
      obtain ⟨hentry, hentries⟩ := List.pairwise_cons.1 hfall
      rw [above_cons, above_cons]
      by_cases hs : entry.1 ≤ s
      · rw [if_pos hs, if_pos (Int32.le_trans hs h)]
        exact le_refl _
      · rw [if_neg hs]
        split
        · exact above_le hentry s
        · exact ih hentries

theorem ofStanding_mono {s s' : Standing} (h : s ≤ s') : ofStanding s ≤ ofStanding s' := by
  have hfall : floors.Pairwise fun upper lower => lower.2 ≤ upper.2 := by decide
  exact above_mono hfall h

end Rank

/-! ### Sums -/

/-- A number, or the bound of the 32-bit range that it lies beyond. -/
def Standing.clamp (n : Int) : Int := max (-2147483648) (min 2147483647 n)

/-- The exact sum, brought into the 32-bit range. -/
theorem Standing.toInt_add (a b : Standing) : (a.add b).toInt = clamp (a.toInt + b.toInt) := by
  have hbounds : Int32.minValue.toInt = -2147483648 ∧ Int32.maxValue.toInt = 2147483647 := by
    decide
  rw [Standing.add, hbounds.1, hbounds.2]
  exact Int32.toInt_ofInt_of_le (by omega) (by omega)

theorem Standing.add_le_add_left {b b' : Standing} (h : b ≤ b') (a : Standing) :
    a.add b ≤ a.add b' := by
  rw [Int32.le_iff_toInt_le] at h ⊢
  rw [toInt_add, toInt_add, clamp, clamp]
  omega

end Rapport
