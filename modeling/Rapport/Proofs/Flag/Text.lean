import Mathlib.Data.Nat.Bitwise
import Rapport.Spell
import Rapport.Proofs.Flag.Bits
import Rapport.Proofs.Text.Parts

/-!
# The text of a flag word is read back

The law needs little of a family of flags (`LawfulFlag`): each flag is a single bit, and its name is
a word.  Then no name can be taken for two parts or for a numeral, and a flag is either set in a
word or has no bit in common with it, so the set flags together with the unnamed bits make up the
whole word (`FlagSet.foldl_or_writtenBits`).  What is written for a word is read as that word,
whether or not the family names its bits (`FlagSet.ofText?_text`).
-/

namespace Rapport

open Rapport.Text

/-- The names of the values are words. -/
class WordNamed (α : Type) [Named α] : Prop where
  isWord_name : ∀ a : α, isWord (Named.name a) = true

/-- Each flag is one bit and goes by a name of its own. -/
class LawfulFlag (φ : Type) [Flag φ] : Prop extends LawfulNamed φ, WordNamed φ where
  bit_eq : ∀ f : φ, (Flag.bit f).toNat = 2 ^ (Flag.bit f).toNat.log2

namespace FlagSet

variable {φ : Type} [Flag φ]

/-! ### Parts -/

theorem partBits?_hex (bits : UInt32) :
    partBits? φ ('0' :: 'x' :: Nat.toDigits 16 bits.toNat) = some bits := by
  rw [partBits?, ofHex?_toDigits]
  exact Numbered.ofNat?_toNat bits

theorem partBits?_name [LawfulFlag φ] (f : φ) :
    partBits? φ (Named.name f).toList = some (Flag.bit f) := by
  have hword := WordNamed.isWord_name f
  unfold partBits?
  split
  next digits h =>
      -- a word does not begin with a digit
      have hzero := bounds_of_isWord hword (h ▸ List.mem_cons_self)
      exact absurd hzero (by decide)
  next => rw [String.ofList_toList, LawfulNamed.ofName?_name, Option.map_some]

/-- What the parts stand for that a word is written as. -/
def writtenBits (s : FlagSet φ) : List UInt32 :=
  ((Named.all : List φ).filter s.has).map Flag.bit ++
    if s.unnamedBits = 0 then [] else [s.unnamedBits]

theorem mapM_partBits?_writtenParts [LawfulFlag φ] (s : FlagSet φ) :
    s.writtenParts.mapM (partBits? φ) = some s.writtenBits := by
  have hnames (fs : List φ) :
      (fs.map fun f => (Named.name f).toList).mapM (partBits? φ) = some (fs.map Flag.bit) := by
    induction fs with
    | nil => rfl
    | cons f fs ih => simp [partBits?_name, ih]
  rw [writtenParts, writtenBits, List.mapM_append, hnames]
  split
  · rfl
  · simp [partBits?_hex]

/-- Whether a character may stand in a written part: no blank, no control character, and not the bar
that divides parts. -/
def IsPartChar (c : Char) : Prop := c ≠ '|' ∧ isBlank c = false ∧ 0x20 ≤ c.toNat

instance (c : Char) : Decidable (IsPartChar c) := inferInstanceAs (Decidable (_ ∧ _))

theorem isPartChar_of_isWord {s : String} (h : isWord s = true) {c : Char} (hc : c ∈ s.toList) :
    IsPartChar c := by
  have hbounds := bounds_of_isWord h hc
  refine ⟨?_, not_isBlank_of_isWord h hc, by omega⟩
  rintro rfl
  exact absurd hbounds (by decide)

theorem isPartChar_of_mem_toDigits {n : Nat} {c : Char} (hc : c ∈ Nat.toDigits 16 n) :
    IsPartChar c := by
  have hdigits : ∀ d < 16, IsPartChar (Nat.digitChar d) := by decide
  obtain ⟨d, hd, rfl⟩ := exists_of_mem_toDigits (by decide) hc
  exact hdigits d hd

theorem of_mem_writtenParts [LawfulFlag φ] {s : FlagSet φ} {p : List Char}
    (hp : p ∈ s.writtenParts) : p ≠ [] ∧ ∀ c ∈ p, IsPartChar c := by
  rcases List.mem_append.1 hp with hname | hhex
  · obtain ⟨f, -, rfl⟩ := List.mem_map.1 hname
    have hword := WordNamed.isWord_name f
    exact ⟨ne_nil_of_isWord hword, fun c hc => isPartChar_of_isWord hword hc⟩
  · split at hhex
    · cases hhex
    · obtain rfl := List.mem_singleton.1 hhex
      refine ⟨List.cons_ne_nil _ _, ?_⟩
      rw [List.forall_mem_cons, List.forall_mem_cons]
      exact ⟨by decide, by decide, fun c hc => isPartChar_of_mem_toDigits hc⟩

/-- No control character is written. -/
theorem le_toNat_of_mem_text [LawfulFlag φ] (s : FlagSet φ) :
    ∀ c ∈ s.text.toList, 0x20 ≤ c.toNat := by
  have hbetween : ∀ c ∈ [' ', '|', ' '], 0x20 ≤ c.toNat := by simp
  rw [text, String.toList_ofList]
  exact forall_mem_intercalate hbetween fun p hp c hc => ((of_mem_writtenParts hp).2 c hc).2.2

/-! ### Bits -/

/-- A flag is set, or the word has nothing of its bit. -/
theorem and_bit_eq [LawfulFlag φ] (s : FlagSet φ) (f : φ) :
    s.bits &&& Flag.bit f = if s.has f then Flag.bit f else 0 := by
  have hnat : s.bits.toNat &&& (Flag.bit f).toNat = 0 ∨
      s.bits.toNat &&& (Flag.bit f).toNat = (Flag.bit f).toNat := by
    rw [LawfulFlag.bit_eq f, Nat.and_two_pow]
    cases s.bits.toNat.testBit (Flag.bit f).toNat.log2 <;> simp
  rw [has]
  split
  next hall => exact beq_iff_eq.1 hall
  next hall =>
      rw [beq_iff_eq, ← UInt32.toNat_inj, UInt32.toNat_and] at hall
      rw [← UInt32.toNat_inj, UInt32.toNat_and]
      exact hnat.resolve_right hall

/-- The set flags of a list, put together, are the bits that the word has of the list. -/
theorem foldl_or_filter_has [LawfulFlag φ] (s : FlagSet φ) (fs : List φ) (acc : UInt32) :
    ((fs.filter s.has).map Flag.bit).foldl (· ||| ·) (s.bits &&& acc) =
      s.bits &&& fs.foldl (fun bits f => bits ||| Flag.bit f) acc := by
  induction fs generalizing acc with
  | nil => rfl
  | cons f fs ih =>
      rw [List.foldl_cons, ← ih, and_or_distrib, and_bit_eq, List.filter_cons]
      split
      · rfl
      · simp

/-- The set flags and the unnamed bits make up the word. -/
theorem foldl_or_writtenBits [LawfulFlag φ] (s : FlagSet φ) :
    s.writtenBits.foldl (· ||| ·) 0 = s.bits := by
  have hnamed := foldl_or_filter_has s (Named.all : List φ) 0
  have hall : s.bits &&& namedBits φ ||| s.unnamedBits = s.bits := by
    rw [unnamedBits, ← and_or_distrib, UInt32.or_not_self, UInt32.and_neg_one]
  rw [UInt32.and_zero] at hnamed
  rw [writtenBits, List.foldl_append, hnamed]
  split
  next hzero =>
      rw [hzero, UInt32.or_zero] at hall
      exact hall
  next => exact hall

/-- The text of a flag word is read as that word. -/
theorem ofText?_text [LawfulFlag φ] (s : FlagSet φ) : ofText? s.text = some s := by
  have hbits := foldl_or_writtenBits s
  have hread := mapM_partBits?_writtenParts s
  rw [ofText?, text, String.toList_ofList]
  by_cases hparts : s.writtenParts = []
  · -- nothing is written for a word without bits only
    rw [hparts] at hread
    obtain rfl : s = empty := by
      cases s
      rw [← Option.some.inj hread] at hbits
      exact congrArg _ hbits.symm
    rw [hparts]
    rfl
  · have hblank : isBlank ' ' = true := by decide
    have hcut := map_trim_parts_intercalate hblank (by decide) hparts
      fun p hp => ⟨fun hbar => ((of_mem_writtenParts hp).2 '|' hbar).1 rfl,
        fun c hc => ((of_mem_writtenParts hp).2 c hc).2.1⟩
    have hne : (trim (List.intercalate [' ', '|', ' '] s.writtenParts)).isEmpty = false := by
      rw [← Bool.not_eq_true, List.isEmpty_iff]
      intro hnil
      -- a text of blanks has no bar in it, and so one part only, which is empty
      have hbar : '|' ∉ List.intercalate [' ', '|', ' '] s.writtenParts :=
        fun hmem => absurd (isBlank_of_trim_eq_nil hnil '|' hmem) (by decide)
      rw [parts_of_not_mem hbar, List.map_singleton, hnil] at hcut
      exact (of_mem_writtenParts (hcut ▸ List.mem_singleton.2 rfl)).1 rfl
    have hcomp : (fun part => partBits? φ (trim part)) = partBits? φ ∘ trim := rfl
    rw [hne, if_neg Bool.false_ne_true, hcomp, ← List.mapM_map, hcut, hread, Option.map_some,
      hbits]

end FlagSet

/-! ### The families -/

instance : LawfulFlag FactionGroup where
  isWord_name f := by cases f <;> decide
  bit_eq f := by cases f <;> rfl

instance : LawfulFlag TemplateFlag where
  isWord_name f := by cases f; decide
  bit_eq f := by cases f; rfl

instance : LawfulFlag FormFlag where
  isWord_name f := by cases f; decide
  bit_eq f := by cases f; rfl

instance : LawfulFlag UnitFlag where
  isWord_name f := by cases f <;> decide
  bit_eq f := by cases f <;> rfl

instance : LawfulFlag CombatFlag where
  isWord_name f := by cases f <;> decide
  bit_eq f := by cases f <;> rfl

instance : LawfulFlag PlayerFlag where
  isWord_name f := by cases f <;> decide
  bit_eq f := by cases f <;> rfl

instance : LawfulFlag NpcFlag where
  isWord_name f := by cases f <;> decide
  bit_eq f := by cases f <;> rfl

instance : LawfulFlag CreatureTypeFlag where
  isWord_name f := by cases f <;> decide
  bit_eq f := by cases f <;> rfl

instance : LawfulFlag PetModeFlag where
  isWord_name f := by cases f; decide
  bit_eq f := by cases f; rfl

instance : LawfulFlag SpellFlag where
  isWord_name f := by cases f <;> decide
  bit_eq f := by cases f <;> rfl

end Rapport
