import Rapport.Proofs.Text.Parts

/-!
# Texts in parts

A text that is cut at a separator can be seen as a list of words with blanks around them
(`Text.Part`).  Every text is laid out in this way (`Text.exists_joined`), and cutting and trimming
it gives back the words (`Text.map_trim_parts_joined`), whatever the blanks are.
-/

namespace Rapport.Text

variable {sep : Char}

/-! ### Cutting and joining without blanks -/

/-- Parts without the separator come back from the text that they are joined to. -/
theorem parts_intercalate {ps : List (List Char)} (hne : ps ≠ []) (h : ∀ p ∈ ps, sep ∉ p) :
    parts sep (List.intercalate [sep] ps) = ps := by
  induction ps with
  | nil => exact absurd rfl hne
  | cons p ps ih =>
      have hp := h p List.mem_cons_self
      cases ps with
      | nil => rw [List.intercalate_singleton, parts_of_not_mem hp]
      | cons q ps =>
          have hrest := ih (List.cons_ne_nil q ps) fun r hr => h r (List.mem_cons_of_mem _ hr)
          rw [List.intercalate_cons_cons, List.append_assoc, List.singleton_append,
            parts_append_sep hp, hrest]

/-- No part of a text holds the separator. -/
theorem not_mem_of_mem_parts {cs p : List Char} (hp : p ∈ parts sep cs) : sep ∉ p := by
  induction cs generalizing p with
  | nil =>
      obtain rfl := List.mem_singleton.1 hp
      exact List.not_mem_nil
  | cons c cs ih =>
      rw [parts] at hp
      split at hp
      next hc =>
        rcases List.mem_cons.1 hp with rfl | hp
        · exact List.not_mem_nil
        · exact ih hp
      next hc =>
        obtain ⟨q, qs, hqs⟩ := List.exists_cons_of_ne_nil (parts_ne_nil sep cs)
        rw [hqs] at ih hp
        rcases List.mem_cons.1 hp with rfl | hp
        · rw [List.mem_cons, not_or]
          exact ⟨Ne.symm hc, ih List.mem_cons_self⟩
        · exact ih (List.mem_cons_of_mem _ hp)

/-- The parts of a text make it up. -/
theorem intercalate_parts (sep : Char) (cs : List Char) :
    List.intercalate [sep] (parts sep cs) = cs := by
  induction cs with
  | nil => rfl
  | cons c cs ih =>
      obtain ⟨q, qs, hqs⟩ := List.exists_cons_of_ne_nil (parts_ne_nil sep cs)
      rw [hqs] at ih
      rw [parts, hqs, ← ih]
      split
      next hc => rw [List.intercalate_cons_cons, hc, List.nil_append, List.singleton_append]
      next =>
        rw [consFirst]
        cases qs with
        | nil => rw [List.intercalate_singleton, List.intercalate_singleton]
        | cons r qs =>
            rw [List.intercalate_cons_cons, List.intercalate_cons_cons, List.cons_append,
              List.cons_append]

/-! ### Words with blanks around them -/

/-- A text is cut into what blanks it has at its ends and what stands between them. -/
theorem exists_blanks_around (cs : List Char) :
    ∃ before after, (∀ c ∈ before, isBlank c = true) ∧ (∀ c ∈ after, isBlank c = true) ∧
      cs = before ++ trim cs ++ after := by
  have hblank (ds : List Char) : ∀ c ∈ ds.takeWhile isBlank, isBlank c = true :=
    fun c hc => List.mem_takeWhile_imp hc
  refine ⟨cs.takeWhile isBlank, ((cs.dropWhile isBlank).reverse.takeWhile isBlank).reverse,
    hblank cs, fun c hc => hblank _ c (List.mem_reverse.1 hc), ?_⟩
  rw [trim, List.append_assoc, ← List.reverse_append, List.takeWhile_append_dropWhile,
    List.reverse_reverse, List.takeWhile_append_dropWhile]

/-- Nothing is left to trim of a trimmed text. -/
theorem trim_trim (cs : List Char) : trim (trim cs) = trim cs := by
  obtain ⟨before, after, hbefore, hafter, hcs⟩ := exists_blanks_around cs
  calc trim (trim cs)
    _ = trim (before ++ trim cs ++ after) := by
      rw [trim_append_right hafter, trim_append_left hbefore]
    _ = trim cs := by rw [← hcs]

/-- One part of a text: a word, and the blanks that stand around it. -/
structure Part (sep : Char) where
  before : List Char := []
  /-- What stands between the blanks, and is empty if there are only blanks. -/
  word : List Char
  after : List Char := []
  before_blank : ∀ c ∈ before, isBlank c = true := by decide
  after_blank : ∀ c ∈ after, isBlank c = true := by decide
  trim_word : trim word = word := by decide
  sep_not_mem : sep ∉ word := by decide

namespace Part

/-- The part as it stands in the text. -/
def chars (p : Part sep) : List Char := p.before ++ p.word ++ p.after

@[simp] theorem trim_chars (p : Part sep) : trim p.chars = p.word := by
  rw [chars, trim_append_right p.after_blank, trim_append_left p.before_blank, p.trim_word]

theorem sep_not_mem_chars (hsep : isBlank sep = false) (p : Part sep) : sep ∉ p.chars := by
  have hblanks {cs : List Char} (h : ∀ c ∈ cs, isBlank c = true) : sep ∉ cs :=
    fun hmem => Bool.false_ne_true (hsep.symm.trans (h sep hmem))
  rw [chars, List.mem_append, List.mem_append]
  rintro ((hmem | hmem) | hmem)
  · exact hblanks p.before_blank hmem
  · exact p.sep_not_mem hmem
  · exact hblanks p.after_blank hmem

/-- Every text without the separator is a part. -/
theorem exists_chars_eq {cs : List Char} (h : sep ∉ cs) : ∃ p : Part sep, p.chars = cs := by
  obtain ⟨before, after, hbefore, hafter, hcs⟩ := exists_blanks_around cs
  have hword : sep ∉ trim cs := fun hmem => h (by rw [hcs]; simp [hmem])
  exact ⟨⟨before, trim cs, after, hbefore, hafter, trim_trim cs, hword⟩, hcs.symm⟩

end Part

/-- The text that consists of the given parts. -/
def joined (ps : List (Part sep)) : List Char := List.intercalate [sep] (ps.map Part.chars)

/-- Every text is laid out in parts. -/
theorem exists_joined (sep : Char) (cs : List Char) :
    ∃ ps : List (Part sep), ps ≠ [] ∧ joined ps = cs := by
  have hlayout (ts : List (List Char)) (h : ∀ t ∈ ts, sep ∉ t) :
      ∃ ps : List (Part sep), ps.map Part.chars = ts := by
    induction ts with
    | nil => exact ⟨[], rfl⟩
    | cons t ts ih =>
        obtain ⟨p, hp⟩ := Part.exists_chars_eq (h t List.mem_cons_self)
        obtain ⟨ps, hps⟩ := ih fun s hs => h s (List.mem_cons_of_mem _ hs)
        exact ⟨p :: ps, by rw [List.map_cons, hp, hps]⟩
  obtain ⟨ps, hps⟩ := hlayout (parts sep cs) fun _ => not_mem_of_mem_parts
  refine ⟨ps, fun hnil => parts_ne_nil sep cs ?_, ?_⟩
  · rw [← hps, hnil, List.map_nil]
  · rw [joined, hps, intercalate_parts]

/-- Cutting and trimming gives back the words. -/
theorem map_trim_parts_joined (hsep : isBlank sep = false) {ps : List (Part sep)} (hne : ps ≠ []) :
    (parts sep (joined ps)).map trim = ps.map Part.word := by
  have hcut : parts sep (joined ps) = ps.map Part.chars := by
    refine parts_intercalate (by simpa using hne) (List.forall_mem_map.2 fun p _ => ?_)
    exact p.sep_not_mem_chars hsep
  rw [hcut, List.map_map]
  exact List.map_congr_left fun p _ => p.trim_chars

/-- Only a single part without a word, and no part at all, make a text of blanks. -/
theorem trim_joined_eq_nil_iff (hsep : isBlank sep = false) {ps : List (Part sep)} (hne : ps ≠ []) :
    trim (joined ps) = [] ↔ ps.map Part.word = [[]] := by
  constructor
  · intro hnil
    -- the separator is no blank, so it does not occur
    have hbar : sep ∉ joined ps := fun hmem =>
      Bool.false_ne_true (hsep.symm.trans (isBlank_of_trim_eq_nil hnil sep hmem))
    rw [← map_trim_parts_joined hsep hne, parts_of_not_mem hbar, List.map_singleton, hnil]
  · intro hwords
    obtain ⟨p, rfl, hword⟩ := List.map_eq_singleton_iff.1 hwords
    rw [joined, List.map_singleton, List.intercalate_singleton, Part.trim_chars, hword]

end Rapport.Text
