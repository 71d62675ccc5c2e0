import Rapport.Json.Codec

/-!
# Ranks

A rank says how one thing regards another, on a scale of eight steps from `hated` to `exalted`.
Ranks are ordered, and the questions asked of a rank are thresholds on that order: below
`unfriendly` is an enemy, above `neutral` is a friend.

A player's standing with a faction is a 32-bit number; `Rank.ofStanding` reads the rank off it.
-/

namespace Rapport

/-- How one thing regards another, lowest rank first. -/
inductive Rank
  | hated
  | hostile
  | unfriendly
  | neutral
  | friendly
  | honored
  | revered
  | exalted
  deriving DecidableEq

/-- A player's standing with a faction. -/
abbrev Standing := Int32

namespace Rank

/-- Things without an opinion of each other are neutral. -/
instance : Inhabited Rank := ⟨.neutral⟩

/-- The scale, from the lowest rank to the highest. -/
def all : List Rank :=
  [.hated, .hostile, .unfriendly, .neutral, .friendly, .honored, .revered, .exalted]

instance : Named Rank where
  all := all
  name
    | .hated => "Hated"
    | .hostile => "Hostile"
    | .unfriendly => "Unfriendly"
    | .neutral => "Neutral"
    | .friendly => "Friendly"
    | .honored => "Honored"
    | .revered => "Revered"
    | .exalted => "Exalted"

instance : LawfulNamed Rank := ⟨fun a => by cases a <;> rfl⟩

instance : Codec Rank := .ofNamed Rank

/-! ### Order -/

/-- The place of a rank on the scale, counted from the bottom. -/
def tier : Rank → Nat
  | .hated => 0
  | .hostile => 1
  | .unfriendly => 2
  | .neutral => 3
  | .friendly => 4
  | .honored => 5
  | .revered => 6
  | .exalted => 7

/-- The rank at a place on the scale. -/
def ofTier? (n : Nat) : Option Rank := all[n]?

instance : LE Rank := ⟨fun a b => a.tier ≤ b.tier⟩

instance : LT Rank := ⟨fun a b => a.tier < b.tier⟩

instance : DecidableLE Rank := fun a b => inferInstanceAs (Decidable (a.tier ≤ b.tier))

instance : DecidableLT Rank := fun a b => inferInstanceAs (Decidable (a.tier < b.tier))

theorem le_iff_tier_le {a b : Rank} : a ≤ b ↔ a.tier ≤ b.tier := Iff.rfl

theorem lt_iff_tier_lt {a b : Rank} : a < b ↔ a.tier < b.tier := Iff.rfl

/-! ### Thresholds -/

/-- Whether whoever is regarded so is an enemy: everything below unfriendly. -/
def isEnemy (r : Rank) : Bool := r < .unfriendly

/-- Whether whoever is regarded so is a friend: everything above neutral. -/
def isFriend (r : Rank) : Bool := r > .neutral

/-- The next higher rank; the highest has none above it and stays. -/
def friendlier : Rank → Rank
  | .hated => .hostile
  | .hostile => .unfriendly
  | .unfriendly => .neutral
  | .neutral => .friendly
  | .friendly => .honored
  | .honored => .revered
  | .revered => .exalted
  | .exalted => .exalted

/-! ### Standings -/

/-- The lowest standing of each rank but `hated`, highest rank first. -/
def floors : List (Standing × Rank) :=
  [(42000, .exalted), (21000, .revered), (9000, .honored), (3000, .friendly), (0, .neutral),
    (-3000, .unfriendly), (-6000, .hostile)]

/-- The highest rank whose floor a standing reaches, or `hated` below all floors. -/
def ofStanding (s : Standing) : Rank :=
  match floors.find? fun entry => entry.1 ≤ s with
  | some (_, rank) => rank
  | none => .hated

end Rank

/-- The sum of two standings, or the bound of the 32-bit range that it lies beyond. -/
def Standing.add (a b : Standing) : Standing :=
  Int32.ofInt (max Int32.minValue.toInt (min Int32.maxValue.toInt (a.toInt + b.toInt)))

end Rapport
