import Rapport.Entity.Flags

/-!
# Setting and clearing flags

Whether a flag is set in a word is a matter of its own bits.  Where there are more bits no flag is
missing (`FlagSet.Within.has`), and setting or clearing one flag leaves alone those whose bits lie
elsewhere, as the bits of any two flags of units do (`UnitFlag.bits_apart`).
-/

namespace Rapport

namespace FlagSet

theorem and_or_distrib (a b c : UInt32) : a &&& (b ||| c) = a &&& b ||| a &&& c :=
  UInt32.toBitVec_inj.1 BitVec.and_or_distrib_left

theorem and_or_self (a b : UInt32) : a &&& (a ||| b) = a := by
  rw [← UInt32.toBitVec_inj, UInt32.toBitVec_and, UInt32.toBitVec_or]
  ext i
  rw [BitVec.getElem_and, BitVec.getElem_or]
  cases a.toBitVec[i] <;> rfl

/-- Every bit of one word is a bit of another. -/
def Within {φ : Type} (s t : FlagSet φ) : Prop := s.bits &&& t.bits = s.bits

variable {φ : Type} [Flag φ] {s t : FlagSet φ} {f g : φ}

theorem has_iff : s.has f = true ↔ s.bits &&& Flag.bit f = Flag.bit f := beq_iff_eq

theorem Within.has (h : s.Within t) (hf : s.has f = true) : t.has f = true := by
  rw [has_iff] at hf ⊢
  calc t.bits &&& Flag.bit f
    _ = t.bits &&& (s.bits &&& Flag.bit f) := by rw [hf]
    _ = (s.bits &&& t.bits) &&& Flag.bit f := by
      rw [← UInt32.and_assoc, UInt32.and_comm t.bits]
    _ = s.bits &&& Flag.bit f := congrArg (· &&& Flag.bit f) h
    _ = Flag.bit f := hf

theorem has_insert_self : (s.insert f).has f = true := by
  rw [has_iff, insert, union, only, UInt32.and_comm, UInt32.or_comm, and_or_self]

/-- Setting a flag leaves alone the flags with other bits. -/
theorem has_insert_of_apart (hapart : Flag.bit f &&& Flag.bit g = 0) :
    (s.insert g).has f = s.has f := by
  have hbits : (s.insert g).bits &&& Flag.bit f = s.bits &&& Flag.bit f := by
    rw [insert, union, only, UInt32.and_comm, and_or_distrib, hapart, UInt32.or_zero,
      UInt32.and_comm]
  rw [has, has, hbits]

/-- Clearing a flag leaves alone the flags with other bits. -/
theorem has_erase_of_apart (hapart : Flag.bit f &&& Flag.bit g = 0) :
    (s.erase g).has f = s.has f := by
  have hkept : ~~~ Flag.bit g &&& Flag.bit f = Flag.bit f := by
    calc ~~~ Flag.bit g &&& Flag.bit f
      _ = Flag.bit f &&& Flag.bit g ||| Flag.bit f &&& ~~~ Flag.bit g := by
        rw [hapart, UInt32.zero_or, UInt32.and_comm]
      _ = Flag.bit f := by rw [← and_or_distrib, UInt32.or_not_self, UInt32.and_neg_one]
  rw [has, has, erase, UInt32.and_assoc, hkept]

theorem erase_erase_self : (s.erase f).erase f = s.erase f := by
  rw [erase, erase, UInt32.and_assoc, UInt32.and_self]

/-- Words that agree on the flags of a list have one of them set together. -/
theorem hasAny_congr {fs : List φ} (h : ∀ f ∈ fs, t.has f = s.has f) :
    t.hasAny fs = s.hasAny fs := by
  rw [Bool.eq_iff_iff, hasAny, hasAny, List.any_eq_true, List.any_eq_true]
  exact exists_congr fun f => and_congr_right fun hf => by rw [h f hf]

end FlagSet

/-- The flags of units have bits of their own. -/
theorem UnitFlag.bits_apart {f g : UnitFlag} (hne : f ≠ g) : Flag.bit f &&& Flag.bit g = 0 := by
  cases f <;> cases g <;> first | rfl | contradiction

end Rapport
