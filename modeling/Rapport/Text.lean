/-!
# Texts

What the readers of this library have in common.  The blank characters are those with the Unicode
property `White_Space`.  A text is trimmed of them at both ends, and cut into parts at a separator;
cutting keeps empty parts, so a text with `n` separators has `n + 1` parts.

Natural numbers are written as decimal numerals, which have no superfluous zero in front, and as
hexadecimal ones, which may.  `Nat.toDigits` writes both; the readers here accept what it writes
(`ofDecimal?_toDigits`, `ofHex?_toDigits`) and, for hexadecimal, digits of either case and leading
zeros.
-/

namespace Rapport.Text

/-! ### Blank characters and parts -/

/-- The first and last code point of each range of blank characters. -/
def blankRanges : List (Nat × Nat) :=
  [(0x09, 0x0D), (0x20, 0x20), (0x85, 0x85), (0xA0, 0xA0), (0x1680, 0x1680), (0x2000, 0x200A),
    (0x2028, 0x2029), (0x202F, 0x202F), (0x205F, 0x205F), (0x3000, 0x3000)]

/-- Whether a character lies in one of the ranges of blank characters. -/
def isBlank (c : Char) : Bool :=
  blankRanges.any fun (first, last) => first ≤ c.toNat && c.toNat ≤ last

/-- The text without the blank characters at its two ends. -/
def trim (cs : List Char) : List Char :=
  ((cs.dropWhile isBlank).reverse.dropWhile isBlank).reverse

/-- Puts a character in front of the first part. -/
def consFirst (c : Char) : List (List Char) → List (List Char)
  | [] => [[c]]
  | part :: parts => (c :: part) :: parts

/-- The parts of a text between the separators. -/
def parts (separator : Char) : List Char → List (List Char)
  | [] => [[]]
  | c :: cs => if c = separator then [] :: parts separator cs else consFirst c (parts separator cs)

/-! ### Numerals -/

/-- Reads a decimal numeral: one or more digits, the first no zero unless it stands alone. -/
def ofDecimal? (ds : List Char) : Option Nat :=
  if ds = ['0'] ∨ (ds ≠ [] ∧ ds.head? ≠ some '0' ∧ ds.all Char.isDigit) then
    some (Nat.ofDigitChars 10 ds 0)
  else none

/-- The value of a hexadecimal digit of either case. -/
def hexDigit? (c : Char) : Option Nat :=
  if c.isDigit then some (c.toNat - '0'.toNat)
  else if 'a' ≤ c ∧ c ≤ 'f' then some (c.toNat - 'a'.toNat + 10)
  else if 'A' ≤ c ∧ c ≤ 'F' then some (c.toNat - 'A'.toNat + 10)
  else none

/-- Reads hexadecimal digits from the most significant on, after digits worth `n`. -/
def ofHexDigits? : Nat → List Char → Option Nat
  | n, [] => some n
  | n, c :: cs => (hexDigit? c).bind fun d => ofHexDigits? (16 * n + d) cs

/-- Reads a hexadecimal numeral: one or more digits, after a plus sign or none. -/
def ofHex? : List Char → Option Nat
  | [] => none
  | '+' :: [] => none
  | '+' :: c :: cs => ofHexDigits? 0 (c :: cs)
  | c :: cs => ofHexDigits? 0 (c :: cs)

/-- A numeral without superfluous zeros is read as the number it was written for. -/
theorem ofDecimal?_toDigits (n : Nat) : ofDecimal? (Nat.toDigits 10 n) = some n := by
  have hhead : ∀ n : Nat, n ≠ 0 → (Nat.toDigits 10 n).head? ≠ some '0' := by
    intro n
    induction n using Nat.strongRecOn with
    | _ n ih =>
      intro hn
      rw [Nat.toDigits_eq_if (by decide)]
      split
      · simpa using hn
      · have hq := ih (n / 10) (by omega) (by omega)
        cases h : Nat.toDigits 10 (n / 10) with
        | nil => exact absurd h Nat.toDigits_ne_nil
        | cons c cs => simpa [h] using hq
  unfold ofDecimal?
  rw [if_pos, Nat.ofDigitChars_ten_toDigits]
  by_cases hn : n = 0
  · subst hn; left; simp
  · right
    refine ⟨Nat.toDigits_ne_nil, hhead n hn, List.all_eq_true.2 fun c hc => ?_⟩
    exact Nat.isDigit_of_mem_toDigits (by decide) (by decide) hc

/-- A numeral consists of the digits of its base. -/
theorem exists_of_mem_toDigits {b : Nat} (hb : 1 < b) {n : Nat} {c : Char}
    (hc : c ∈ Nat.toDigits b n) : ∃ d < b, c = Nat.digitChar d := by
  induction n using Nat.strongRecOn with
  | _ n ih =>
    rw [Nat.toDigits_eq_if hb] at hc
    split at hc
    next hn => exact ⟨n, hn, List.mem_singleton.1 hc⟩
    next hn =>
      rcases List.mem_append.1 hc with hc | hc
      · exact ih (n / b) (Nat.div_lt_self (by omega) hb) hc
      · exact ⟨n % b, Nat.mod_lt n (by omega), List.mem_singleton.1 hc⟩

theorem ofHexDigits?_append (n : Nat) (cs ds : List Char) :
    ofHexDigits? n (cs ++ ds) = (ofHexDigits? n cs).bind (ofHexDigits? · ds) := by
  induction cs generalizing n with
  | nil => rfl
  | cons c cs ih => cases h : hexDigit? c <;> simp [ofHexDigits?, h, ih]

theorem ofHexDigits?_toDigits (n : Nat) : ofHexDigits? 0 (Nat.toDigits 16 n) = some n := by
  have hdigit : ∀ d < 16, hexDigit? (Nat.digitChar d) = some d := by decide
  induction n using Nat.strongRecOn with
  | _ n ih =>
    rw [Nat.toDigits_eq_if (by decide)]
    split
    next hn => simp [ofHexDigits?, hdigit n hn]
    next hn =>
      have hlast : 16 * (n / 16) + n % 16 = n := by omega
      rw [ofHexDigits?_append, ih (n / 16) (by omega)]
      simp [ofHexDigits?, hdigit (n % 16) (by omega), hlast]

/-- No digit is a plus sign, so what reads as digits is a numeral of just these digits. -/
theorem ofHex?_of_ofHexDigits? {cs : List Char} {n : Nat} (hne : cs ≠ [])
    (hread : ofHexDigits? 0 cs = some n) : ofHex? cs = some n := by
  have hplus : hexDigit? '+' = none := by decide
  unfold ofHex?
  split
  next => exact absurd rfl hne
  next => simp [ofHexDigits?, hplus] at hread
  next => simp [ofHexDigits?, hplus] at hread
  next => exact hread

/-- A hexadecimal numeral is read as the number it was written for. -/
theorem ofHex?_toDigits (n : Nat) : ofHex? (Nat.toDigits 16 n) = some n :=
  ofHex?_of_ofHexDigits? Nat.toDigits_ne_nil (ofHexDigits?_toDigits n)

end Rapport.Text
