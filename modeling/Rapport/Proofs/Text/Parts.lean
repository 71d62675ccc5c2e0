import Mathlib.Data.List.TakeWhile
import Rapport.Text

/-!
# Trimming and cutting

Blanks at the ends of a text do not survive trimming, and a text without blanks does
(`trim_of_not_isBlank`).  Cutting undoes joining: parts that hold neither blanks nor the separator
come back when they are joined with a separator between blanks, cut and trimmed
(`map_trim_parts_intercalate`).

A word is a text of letters and underscores.  It holds no blank and no control character, and no
digit begins it.
-/

namespace Rapport.Text

/-! ### Trimming -/

theorem trim_append_left {bs : List Char} (h : ∀ c ∈ bs, isBlank c = true) (cs : List Char) :
    trim (bs ++ cs) = trim cs := by
  rw [trim, trim, List.dropWhile_append_of_pos h]

theorem trim_append_right {bs : List Char} (h : ∀ c ∈ bs, isBlank c = true) (cs : List Char) :
    trim (cs ++ bs) = trim cs := by
  have hbs : bs.dropWhile isBlank = [] := List.dropWhile_eq_nil_iff.2 h
  rw [trim, trim, List.dropWhile_append]
  split
  next hcs => rw [hbs, List.isEmpty_iff.1 hcs]
  next =>
      rw [List.reverse_append, List.dropWhile_append_of_pos]
      simpa using h

theorem trim_of_not_isBlank {cs : List Char} (h : ∀ c ∈ cs, isBlank c = false) : trim cs = cs := by
  have hdrop {ds : List Char} (hds : ∀ c ∈ ds, isBlank c = false) : ds.dropWhile isBlank = ds := by
    cases ds with
    | nil => rfl
    | cons c ds => simp [hds c]
  rw [trim, hdrop h, hdrop (by simpa using h), List.reverse_reverse]

/-- Only blanks are trimmed to nothing. -/
theorem isBlank_of_trim_eq_nil {cs : List Char} (h : trim cs = []) :
    ∀ c ∈ cs, isBlank c = true := by
  rw [trim, List.reverse_eq_nil_iff, List.dropWhile_eq_nil_iff] at h
  refine List.dropWhile_eq_nil_iff.1 (Classical.byContradiction fun hne => ?_)
  have hblank := h _ (List.mem_reverse.2 (List.head_mem hne))
  have hstop := List.head_dropWhile_not isBlank hne
  rw [hblank] at hstop
  cases hstop

/-! ### Cutting -/

variable {sep : Char}

theorem parts_ne_nil (sep : Char) (cs : List Char) : parts sep cs ≠ [] := by
  cases cs with
  | nil => simp [parts]
  | cons c cs =>
      rw [parts]
      split
      · simp
      · cases parts sep cs <;> simp [consFirst]

/-- A text without the separator is its only part. -/
theorem parts_of_not_mem {p : List Char} (h : sep ∉ p) : parts sep p = [p] := by
  induction p with
  | nil => rfl
  | cons c p ih =>
      obtain ⟨hc, hp⟩ : sep ≠ c ∧ sep ∉ p := by simpa using h
      rw [parts, if_neg hc.symm, ih hp, consFirst]

theorem parts_append_sep {p : List Char} (h : sep ∉ p) (cs : List Char) :
    parts sep (p ++ sep :: cs) = p :: parts sep cs := by
  induction p with
  | nil => simp [parts]
  | cons c p ih =>
      obtain ⟨hc, hp⟩ : sep ≠ c ∧ sep ∉ p := by simpa using h
      rw [List.cons_append, parts, if_neg hc.symm, ih hp, consFirst]

/-- A blank in front of a text disappears when the parts are trimmed. -/
theorem map_trim_parts_cons {c : Char} (hc : isBlank c = true) (hne : c ≠ sep) (cs : List Char) :
    (parts sep (c :: cs)).map trim = (parts sep cs).map trim := by
  rw [parts, if_neg hne]
  obtain ⟨p, ps, hparts⟩ := List.exists_cons_of_ne_nil (parts_ne_nil sep cs)
  have htrim : trim (c :: p) = trim p := trim_append_left (List.forall_mem_singleton.2 hc) p
  rw [hparts, consFirst, List.map_cons, List.map_cons, htrim]

/-- Parts that are joined with a separator between blanks come back. -/
theorem map_trim_parts_intercalate {blank : Char} (hblank : isBlank blank = true)
    (hne : blank ≠ sep) {ps : List (List Char)} (hps : ps ≠ [])
    (h : ∀ p ∈ ps, sep ∉ p ∧ ∀ c ∈ p, isBlank c = false) :
    (parts sep (List.intercalate [blank, sep, blank] ps)).map trim = ps := by
  induction ps with
  | nil => exact absurd rfl hps
  | cons p ps ih =>
      obtain ⟨hsep, hp⟩ := h p List.mem_cons_self
      cases ps with
      | nil =>
          rw [List.intercalate_singleton, parts_of_not_mem hsep, List.map_singleton,
            trim_of_not_isBlank hp]
      | cons q ps =>
          have hrest := ih (List.cons_ne_nil q ps) fun r hr => h r (List.mem_cons_of_mem _ hr)
          have hjoin : List.intercalate [blank, sep, blank] (p :: q :: ps) =
              (p ++ [blank]) ++ sep :: blank :: List.intercalate [blank, sep, blank] (q :: ps) := by
            simp [List.intercalate_cons_cons]
          have hfirst : sep ∉ p ++ [blank] := by simp [hsep, hne.symm]
          rw [hjoin, parts_append_sep hfirst, List.map_cons, map_trim_parts_cons hblank hne, hrest,
            trim_append_right (by simpa using hblank), trim_of_not_isBlank hp]

theorem forall_mem_intercalate {P : Char → Prop} {between : List Char} {ps : List (List Char)}
    (hbetween : ∀ c ∈ between, P c) (h : ∀ p ∈ ps, ∀ c ∈ p, P c) :
    ∀ c ∈ List.intercalate between ps, P c := by
  induction ps with
  | nil => simp
  | cons p ps ih =>
      have hrest := ih fun q hq => h q (List.mem_cons_of_mem _ hq)
      intro c hc
      cases ps with
      | nil =>
          rw [List.intercalate_singleton] at hc
          exact h p List.mem_cons_self c hc
      | cons q ps =>
          rw [List.intercalate_cons_cons, List.mem_append, List.mem_append] at hc
          rcases hc with (hc | hc) | hc
          · exact h p List.mem_cons_self c hc
          · exact hbetween c hc
          · exact hrest c hc

/-! ### Words -/

/-- Whether a text is one or more letters and underscores. -/
def isWord (s : String) : Bool := s.toList ≠ [] && s.toList.all fun c => c.isAlpha || c = '_'

/-- The characters of a word lie between the first capital and the last small letter. -/
theorem bounds_of_isWord {s : String} (h : isWord s = true) {c : Char} (hc : c ∈ s.toList) :
    65 ≤ c.toNat ∧ c.toNat ≤ 122 := by
  simp only [isWord, Bool.and_eq_true, List.all_eq_true, Bool.or_eq_true, decide_eq_true_eq] at h
  rcases h.2 c hc with halpha | rfl
  · change (decide (65 ≤ c.val ∧ c.val ≤ 90) ||
      decide (97 ≤ c.val) && decide (c.val ≤ 122)) = true at halpha
    simp only [Bool.or_eq_true, Bool.and_eq_true, decide_eq_true_eq,
      UInt32.le_iff_toNat_le] at halpha
    change (65 ≤ c.toNat ∧ c.toNat ≤ 90) ∨ (97 ≤ c.toNat ∧ c.toNat ≤ 122) at halpha
    omega
  · decide

theorem ne_nil_of_isWord {s : String} (h : isWord s = true) : s.toList ≠ [] := by
  simp only [isWord, Bool.and_eq_true, decide_eq_true_eq] at h
  exact h.1

theorem not_isBlank_of_isWord {s : String} (h : isWord s = true) {c : Char} (hc : c ∈ s.toList) :
    isBlank c = false := by
  have hranges : ∀ r ∈ blankRanges, r.2 < 65 ∨ 122 < r.1 := by decide
  have hbounds := bounds_of_isWord h hc
  rw [isBlank, List.any_eq_false]
  intro r hr
  have hr := hranges r hr
  rw [Bool.and_eq_true, decide_eq_true_eq, decide_eq_true_eq]
  omega

end Rapport.Text
