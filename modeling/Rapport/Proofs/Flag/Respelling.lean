import Mathlib.Data.List.Perm.Basic
import Mathlib.Data.Option.NAry
import Mathlib.Logic.Relation
import Rapport.Proofs.Flag.Text
import Rapport.Proofs.Text.Layout

/-!
# Other texts of a flag word

What is written for a flag word is one text of many that are read as that word.  A reader takes the
bits of all parts together, so the order of the parts does not matter and neither do repetitions;
blanks around a part are trimmed, and a numeral counts as much as the name of the flag with that
bit.  `FlagSet.Restyles` is one such change of a text, and `FlagSet.TextLaws` says that no number of
them makes a difference to the reader.  It holds of every family of flags (`flag_texts`).

A text of nothing but blanks is one part without a word.  It is read as the word without bits, but
with a bar in it the same blanks are not readable, so parts without a word are not repeated.
-/

namespace Rapport

namespace Text

/-! ### Hexadecimal numerals -/

/-- A hexadecimal numeral of a number has digits of either case, and zeros in front of them or
none. -/
def IsHexNumeral (n : Nat) (ds : List Char) : Prop :=
  ∃ zeros, ds.map Char.toLower = List.replicate zeros '0' ++ Nat.toDigits 16 n

theorem hexDigit?_toLower (c : Char) : hexDigit? c.toLower = hexDigit? c := by
  have hcapitals : ∀ i < 26,
      hexDigit? (Char.ofNat (65 + i)).toLower = hexDigit? (Char.ofNat (65 + i)) := by decide
  by_cases hc : 65 ≤ c.toNat ∧ c.toNat ≤ 90
  · have hcapital := hcapitals (c.toNat - 65) (by omega)
    rwa [Nat.add_sub_cancel' hc.1, Char.ofNat_toNat] at hcapital
  · have hsame : c.toLower = c := by
      unfold Char.toLower
      split
      next hcapital => exact absurd hcapital hc
      next => rfl
    rw [hsame]

theorem ofHexDigits?_map_toLower (n : Nat) (cs : List Char) :
    ofHexDigits? n (cs.map Char.toLower) = ofHexDigits? n cs := by
  induction cs generalizing n with
  | nil => rfl
  | cons c cs ih => simp [ofHexDigits?, hexDigit?_toLower, ih]

/-- Zeros in front of the digits do not count. -/
theorem ofHexDigits?_replicate_append (zeros : Nat) (cs : List Char) :
    ofHexDigits? 0 (List.replicate zeros '0' ++ cs) = ofHexDigits? 0 cs := by
  induction zeros with
  | zero => rfl
  | succ zeros ih =>
      have hzero : hexDigit? '0' = some 0 := by decide
      simp [List.replicate_succ, ofHexDigits?, hzero, ih]

theorem ofHex?_of_isHexNumeral {n : Nat} {ds : List Char} (h : IsHexNumeral n ds) :
    ofHex? ds = some n := by
  obtain ⟨zeros, hds⟩ := h
  refine ofHex?_of_ofHexDigits? ?_ ?_
  · rintro rfl
    exact Nat.toDigits_ne_nil (List.append_eq_nil_iff.1 hds.symm).2
  · rw [← ofHexDigits?_map_toLower, hds, ofHexDigits?_replicate_append, ofHexDigits?_toDigits]

end Text

open Rapport.Text

namespace FlagSet

variable {φ : Type} [Flag φ]

/-- One change of a text that is no change to a reader. -/
inductive Restyles (φ : Type) [Flag φ] : List (Part '|') → List (Part '|') → Prop
  | reorder {ps qs : List (Part '|')} : ps.Perm qs → Restyles φ ps qs
  /-- A part that has a word is repeated; by `reorder` the second one may stand anywhere. -/
  | again {ps : List (Part '|')} {p : Part '|'} : p ∈ ps → p.word ≠ [] → Restyles φ ps (p :: ps)
  /-- The blanks around a word are replaced by others. -/
  | blanks {ps qs : List (Part '|')} {p q : Part '|'} :
      q.word = p.word → Restyles φ (ps ++ p :: qs) (ps ++ q :: qs)
  /-- The name of a flag is replaced by a hexadecimal numeral of its bit. -/
  | numeral {ps qs : List (Part '|')} {p q : Part '|'} (f : φ) {ds : List Char} :
      p.word = (Named.name f).toList → q.word = '0' :: 'x' :: ds →
        IsHexNumeral (Flag.bit f).toNat ds → Restyles φ (ps ++ p :: qs) (ps ++ q :: qs)

/-! ### What a list of words stands for -/

/-- The bits of all words together, if every word can be read. -/
def bits? (φ : Type) [Flag φ] (words : List (List Char)) : Option UInt32 :=
  (words.map (partBits? φ)).foldr (Option.map₂ (· ||| ·)) (some 0)

theorem foldl_or_eq (acc : UInt32) (bits : List UInt32) :
    bits.foldl (· ||| ·) acc = acc ||| bits.foldl (· ||| ·) 0 := by
  induction bits generalizing acc with
  | nil => rw [List.foldl_nil, List.foldl_nil, UInt32.or_zero]
  | cons b bits ih =>
      rw [List.foldl_cons, List.foldl_cons, ih, ih (0 ||| b), UInt32.zero_or, UInt32.or_assoc]

theorem map_foldl_or_mapM (words : List (List Char)) :
    (words.mapM (partBits? φ)).map (fun bits => bits.foldl (· ||| ·) 0) = bits? φ words := by
  induction words with
  | nil => rfl
  | cons word words ih =>
      rw [bits?, List.map_cons, List.foldr_cons, ← bits?, ← ih, List.mapM_cons]
      cases partBits? φ word with
      | none => rfl
      | some b =>
          cases words.mapM (partBits? φ) with
          | none => rfl
          | some bits =>
              have hfold : bits.foldl (· ||| ·) (0 ||| b) = b ||| bits.foldl (· ||| ·) 0 := by
                rw [UInt32.zero_or, foldl_or_eq]
              exact congrArg some hfold

/-- The order of the words does not matter. -/
theorem bits?_perm {words words' : List (List Char)} (h : words.Perm words') :
    bits? φ words = bits? φ words' := by
  have hcomm : LeftCommutative (Option.map₂ (· ||| · : UInt32 → UInt32 → UInt32)) :=
    ⟨fun _ _ _ => Option.map₂_left_comm fun a b c => by
      rw [← UInt32.or_assoc, UInt32.or_comm a, UInt32.or_assoc]⟩
  exact (h.map _).foldr_eq _

/-- A word that is there already adds nothing. -/
theorem bits?_cons_of_mem {word : List Char} {words : List (List Char)} (h : word ∈ words) :
    bits? φ (word :: words) = bits? φ words := by
  obtain ⟨rest, hrest⟩ : ∃ rest, words.Perm (word :: rest) := ⟨_, List.perm_cons_erase h⟩
  rw [bits?_perm (hrest.cons word), bits?_perm hrest]
  simp only [bits?, List.map_cons, List.foldr_cons]
  cases partBits? φ word with
  | none => rfl
  | some b =>
      cases (rest.map (partBits? φ)).foldr (Option.map₂ (· ||| ·)) (some 0) with
      | none => rfl
      | some bits =>
          have hself : b ||| (b ||| bits) = b ||| bits := by rw [← UInt32.or_assoc, UInt32.or_self]
          exact congrArg some hself

/-- A text is read from its words. -/
theorem ofText?_joined (ps : List (Part '|')) :
    (ofText? (String.ofList (joined ps)) : Option (FlagSet φ)) =
      if ps.map Part.word = [[]] then some empty else (bits? φ (ps.map Part.word)).map .mk := by
  have hbar : isBlank '|' = false := by decide
  by_cases hne : ps = []
  · subst hne
    rfl
  · have hcomp : (fun part => partBits? φ (trim part)) = partBits? φ ∘ trim := rfl
    rw [ofText?, String.toList_ofList]
    simp only [List.isEmpty_iff, trim_joined_eq_nil_iff hbar hne]
    rw [hcomp, ← List.mapM_map, map_trim_parts_joined hbar hne, ← map_foldl_or_mapM,
      Option.map_map]
    rfl

/-! ### One change, and any number of them -/

theorem Restyles.ofText?_eq [LawfulFlag φ] {ps qs : List (Part '|')} (h : Restyles φ ps qs) :
    (ofText? (String.ofList (joined qs)) : Option (FlagSet φ)) =
      ofText? (String.ofList (joined ps)) := by
  rw [ofText?_joined, ofText?_joined]
  cases h with
  | reorder hperm =>
      have hwords := hperm.map Part.word
      have hsingle : qs.map Part.word = [[]] ↔ ps.map Part.word = [[]] := by
        rw [← List.perm_singleton, ← List.perm_singleton]
        exact ⟨hwords.trans, hwords.symm.trans⟩
      simp only [hsingle, bits?_perm hwords]
  | @again _ p hp hword =>
      have hmem : p.word ∈ ps.map Part.word := List.mem_map_of_mem hp
      have hbefore : ps.map Part.word ≠ [[]] := by
        intro hsingle
        rw [hsingle, List.mem_singleton] at hmem
        exact hword hmem
      have hafter : (p :: ps).map Part.word ≠ [[]] := by
        intro hsingle
        exact hword (List.cons.inj hsingle).1
      rw [if_neg hafter, if_neg hbefore, List.map_cons, bits?_cons_of_mem hmem]
  | blanks hword => simp only [List.map_append, List.map_cons, hword]
  | @numeral ps qs p q f ds hname hnumeral hds =>
      have hbits : partBits? φ q.word = partBits? φ p.word := by
        rw [hname, partBits?_name, hnumeral, partBits?, ofHex?_of_isHexNumeral hds]
        exact Numbered.ofNat?_toNat _
      have hword {r : Part '|'} (hr : r.word ≠ []) : (ps ++ r :: qs).map Part.word ≠ [[]] := by
        intro hsingle
        have hmem : r.word ∈ (ps ++ r :: qs).map Part.word :=
          List.mem_map_of_mem (List.mem_append_right _ List.mem_cons_self)
        rw [hsingle, List.mem_singleton] at hmem
        exact hr hmem
      have hpname : p.word ≠ [] := hname ▸ ne_nil_of_isWord (WordNamed.isWord_name f)
      have hqname : q.word ≠ [] := hnumeral ▸ List.cons_ne_nil _ _
      rw [if_neg (hword hqname), if_neg (hword hpname)]
      simp only [bits?, List.map_append, List.map_cons, hbits]

/-- What holds of the texts of a family of flags. -/
structure TextLaws (φ : Type) [Flag φ] : Prop where
  ofText?_written : ∀ s : FlagSet φ, ofText? s.text = some s
  /-- Every text is laid out in parts. -/
  layout : ∀ t : String, ∃ ps : List (Part '|'), String.ofList (joined ps) = t
  /-- However often a readable text is restyled, it is read as before. -/
  restyled : ∀ (ps qs : List (Part '|')) (s : FlagSet φ),
    Relation.ReflTransGen (Restyles φ) ps qs → ofText? (String.ofList (joined ps)) = some s →
      ofText? (String.ofList (joined qs)) = some s

theorem textLaws (φ : Type) [Flag φ] [LawfulFlag φ] : TextLaws φ where
  ofText?_written := ofText?_text
  layout t := by
    obtain ⟨ps, -, hps⟩ := exists_joined '|' t.toList
    exact ⟨ps, by rw [hps, String.ofList_toList]⟩
  restyled ps qs s hrestyled hread := by
    induction hrestyled with
    | refl => exact hread
    | tail _ hstep ih => rw [hstep.ofText?_eq, ih]

end FlagSet

/-- The flag words of templates and forms, of units, players and creatures, and of spells are read
from the texts that are written for them, and from every text that differs from a readable one only
in its style. -/
theorem flag_texts :
    FlagSet.TextLaws FactionGroup ∧ FlagSet.TextLaws TemplateFlag ∧ FlagSet.TextLaws FormFlag ∧
      FlagSet.TextLaws UnitFlag ∧ FlagSet.TextLaws CombatFlag ∧ FlagSet.TextLaws PlayerFlag ∧
      FlagSet.TextLaws NpcFlag ∧ FlagSet.TextLaws CreatureTypeFlag ∧
      FlagSet.TextLaws PetModeFlag ∧ FlagSet.TextLaws SpellFlag :=
  ⟨FlagSet.textLaws _, FlagSet.textLaws _, FlagSet.textLaws _, FlagSet.textLaws _,
    FlagSet.textLaws _, FlagSet.textLaws _, FlagSet.textLaws _, FlagSet.textLaws _,
    FlagSet.textLaws _, FlagSet.textLaws _⟩

end Rapport
