/-!
# Labels

What is written in a text is written by a label.  The values of a small type have names: ranks,
sides, kinds of entity, flags.  A name is read exactly as it is written, letter case included, and
`LawfulNamed` says that reading the name of a value finds that value.

Identifiers are numbers below a bound that depends on the kind of identifier.  `Numbered` holds the
two directions between such a type and the natural numbers, and its one law says that they undo
each other.  Keyed collections take their order from it, and the text of an identifier is the text
of its number.
-/

namespace Rapport

/-! ### Named types -/

/-- A type with finitely many values, each written by a name. -/
class Named (α : Type) where
  /-- The values, in the order in which they are written. -/
  all : List α
  /-- The text that a value is written as. -/
  name : α → String

namespace Named

variable {α : Type} [Named α]

/-- The first value of a given name, if there is one. -/
def ofName? (s : String) : Option α := all.find? fun a => name a = s

end Named

/-- No two values share a name, and every value is listed. -/
class LawfulNamed (α : Type) [Named α] : Prop where
  /-- The name of a value is read as that value. -/
  ofName?_name : ∀ a : α, Named.ofName? (Named.name a) = some a

attribute [simp] LawfulNamed.ofName?_name

/-! ### Numbered types -/

/-- A type whose values stand for the natural numbers below some bound. -/
class Numbered (ν : Type) where
  /-- The number that a value stands for. -/
  toNat : ν → Nat
  /-- The value that stands for a number, if the number is below the bound. -/
  ofNat? : Nat → Option ν
  /-- Each direction undoes the other. -/
  ofNat?_eq_some_iff : ∀ {n : Nat} {x : ν}, ofNat? n = some x ↔ toNat x = n

namespace Numbered

variable {ν : Type} [Numbered ν]

@[simp] theorem ofNat?_toNat (x : ν) : ofNat? (toNat x) = some x :=
  ofNat?_eq_some_iff.2 rfl

theorem eq_of_toNat_eq {x y : ν} (h : toNat x = toNat y) : x = y := by
  have hy := ofNat?_toNat y
  rw [← h, ofNat?_toNat] at hy
  exact Option.some.inj hy

@[simp] theorem toNat_inj {x y : ν} : toNat x = toNat y ↔ x = y :=
  ⟨eq_of_toNat_eq, congrArg toNat⟩

/-- The decimal numeral of a numbered value. -/
def numeral (x : ν) : String := String.ofList (Nat.toDigits 10 (toNat x))

end Numbered

instance : Numbered UInt8 where
  toNat := UInt8.toNat
  ofNat? n := if h : n < UInt8.size then some (UInt8.ofNatLT n h) else none
  ofNat?_eq_some_iff {n x} := by
    constructor
    · intro h
      split at h <;> simp at h
      subst h; simp
    · rintro rfl
      simp [UInt8.toNat_lt_size]

instance : Numbered UInt32 where
  toNat := UInt32.toNat
  ofNat? n := if h : n < UInt32.size then some (UInt32.ofNatLT n h) else none
  ofNat?_eq_some_iff {n x} := by
    constructor
    · intro h
      split at h <;> simp at h
      subst h; simp
    · rintro rfl
      simp [UInt32.toNat_lt_size]

instance : Numbered UInt64 where
  toNat := UInt64.toNat
  ofNat? n := if h : n < UInt64.size then some (UInt64.ofNatLT n h) else none
  ofNat?_eq_some_iff {n x} := by
    constructor
    · intro h
      split at h <;> simp at h
      subst h; simp
    · rintro rfl
      simp [UInt64.toNat_lt_size]

end Rapport
