import Rapport.Json.Value
import Rapport.Text

/-!
# Tokens of a JSON document

A document is a sequence of tokens with blanks between them.  Only the space, the tabulator and the
two line-end characters are blanks here.  `Token.chars` spells a token, `Token.read?` reads one off
the front of a text, and `Token.scan?` cuts a whole text into tokens.
-/

namespace Rapport.Json

open Rapport.Text

/-- A token of a document. -/
inductive Token
  | openArray
  | closeArray
  | openObject
  | closeObject
  | comma
  | colon
  | null
  | bool (b : Bool)
  | number (n : Number)
  | string (s : Quoted)
  deriving DecidableEq

/-- Whether a character may stand between tokens. -/
def isSpace (c : Char) : Bool := c = ' ' || c = '\t' || c = '\n' || c = '\r'

/-! ### Quoted texts -/

/-- The characters with a short escape, each after the letter of its escape. -/
def shortEscapes : List (Char × Char) :=
  [('"', '"'), ('\\', '\\'), ('/', '/'), ('b', '\x08'), ('f', '\x0c'), ('n', '\n'), ('r', '\r'),
    ('t', '\t')]

/-- The unit that four hexadecimal digits give. -/
def unit? (a b c d : Char) : Option UInt16 :=
  (ofHexDigits? 0 [a, b, c, d]).map Nat.toUInt16

/-- The four hexadecimal digits of a unit. -/
def unitDigits (u : UInt16) : List Char :=
  [u.toNat / 4096 % 16, u.toNat / 256 % 16, u.toNat / 16 % 16, u.toNat % 16].map Nat.digitChar

/-- Spells a character inside quotes.  Quotes and backslashes are escaped, and so are the control
characters, for which a short escape is preferred. -/
def charSpelling (c : Char) : List Char :=
  if c = '"' ∨ c = '\\' then ['\\', c]
  else if c.toNat < 0x20 then
    match shortEscapes.find? fun e => e.2 = c with
    | some (letter, _) => ['\\', letter]
    | none => '\\' :: 'u' :: unitDigits c.toNat.toUInt16
  else [c]

/-- Spells a piece of a quoted text. -/
def Piece.chars : Piece → List Char
  | .char c => charSpelling c
  | .unit u => '\\' :: 'u' :: unitDigits u

/-- Reads the rest of a quoted text, up to and including the closing quote. -/
def readQuoted? : List Char → Option (Quoted × List Char)
  | [] => none
  | '"' :: rest => some ([], rest)
  | '\\' :: 'u' :: a :: b :: c :: d :: rest =>
    (unit? a b c d).bind fun u => (readQuoted? rest).map fun (s, rest) => (.unit u :: s, rest)
  | '\\' :: letter :: rest =>
    (shortEscapes.find? fun e => e.1 = letter).bind fun e =>
      (readQuoted? rest).map fun (s, rest) => (.char e.2 :: s, rest)
  | '\\' :: [] => none
  | c :: rest =>
    -- control characters have to be escaped
    if c.toNat < 0x20 then none
    else (readQuoted? rest).map fun (s, rest) => (.char c :: s, rest)

theorem length_of_readQuoted? {cs : List Char} {s : Quoted} {rest : List Char}
    (h : readQuoted? cs = some (s, rest)) : rest.length ≤ cs.length := by
  fun_induction readQuoted? cs generalizing s rest <;>
    simp_all only [Option.bind_eq_some_iff, Option.map_eq_some_iff, Prod.mk.injEq, Prod.exists,
      Option.some.injEq, reduceCtorEq, List.length_cons] <;> grind

/-! ### Numbers -/

/-- The digits at the front of a text, if there are any, and what follows them. -/
def digits? (cs : List Char) : Option (List Char × List Char) :=
  if cs.takeWhile Char.isDigit = [] then none
  else some (cs.takeWhile Char.isDigit, cs.dropWhile Char.isDigit)

/-- The fraction at the front of a text, which may be empty, and what follows it. -/
def fraction? : List Char → Option (List Char × List Char)
  | '.' :: cs => (digits? cs).map fun (ds, rest) => ('.' :: ds, rest)
  | cs => some ([], cs)

/-- The exponent at the front of a text, which may be empty, and what follows it. -/
def exponent? : List Char → Option (List Char × List Char)
  | c :: cs =>
    if c = 'e' ∨ c = 'E' then
      match cs with
      | '+' :: cs => (digits? cs).map fun (ds, rest) => (c :: '+' :: ds, rest)
      | '-' :: cs => (digits? cs).map fun (ds, rest) => (c :: '-' :: ds, rest)
      | cs => (digits? cs).map fun (ds, rest) => (c :: ds, rest)
    else some ([], c :: cs)
  | [] => some ([], [])

/-- Reads the number at the front of a text, after its sign. -/
def readNumber? (negative : Bool) (cs : List Char) : Option (Number × List Char) := do
  let (ds, rest) ← digits? cs
  let whole ← ofDecimal? ds
  let (fraction, rest) ← fraction? rest
  let (exponent, rest) ← exponent? rest
  return (⟨negative, whole, fraction ++ exponent⟩, rest)

/-- Spells a number. -/
def Number.chars (n : Number) : List Char :=
  (if n.negative then ['-'] else []) ++ Nat.toDigits 10 n.whole ++ n.tail

theorem length_of_digits? {cs ds rest : List Char} (h : digits? cs = some (ds, rest)) :
    rest.length < cs.length := by
  unfold digits? at h
  split at h
  · cases h
  next hne =>
    cases h
    have happ : (cs.takeWhile Char.isDigit ++ cs.dropWhile Char.isDigit).length = cs.length := by
      rw [List.takeWhile_append_dropWhile]
    rw [List.length_append] at happ
    have := List.length_pos_iff.2 hne
    omega

theorem length_of_fraction? {cs f rest : List Char} (h : fraction? cs = some (f, rest)) :
    rest.length ≤ cs.length := by
  unfold fraction? at h
  split at h
  next cs' =>
    obtain ⟨⟨ds, r⟩, hd, he⟩ := Option.map_eq_some_iff.1 h
    cases he
    have := length_of_digits? hd
    simp only [List.length_cons]; omega
  · cases h; exact Nat.le_refl _

theorem length_of_exponent? {cs e rest : List Char} (h : exponent? cs = some (e, rest)) :
    rest.length ≤ cs.length := by
  unfold exponent? at h
  split at h
  next c cs' =>
    split at h
    · split at h <;>
      · obtain ⟨⟨ds, r⟩, hd, he⟩ := Option.map_eq_some_iff.1 h
        cases he
        have := length_of_digits? hd
        simp only [List.length_cons]; omega
    · cases h; exact Nat.le_refl _
  · cases h; exact Nat.le_refl _

theorem length_of_readNumber? {negative : Bool} {cs : List Char} {n : Number} {rest : List Char}
    (h : readNumber? negative cs = some (n, rest)) : rest.length < cs.length := by
  simp only [readNumber?, bind, pure, Option.bind_eq_some_iff, Option.some.injEq, Prod.mk.injEq,
    Prod.exists] at h
  obtain ⟨ds, r₁, h₁, w, -, f, r₂, h₂, e, r₃, h₃, -, rfl⟩ := h
  have := length_of_digits? h₁
  have := length_of_fraction? h₂
  have := length_of_exponent? h₃
  omega

/-! ### Whole texts -/

namespace Token

/-- Spells a token. -/
def chars : Token → List Char
  | .openArray => ['[']
  | .closeArray => [']']
  | .openObject => ['\x7b']
  | .closeObject => ['\x7d']
  | .comma => [',']
  | .colon => [':']
  | .null => ['n', 'u', 'l', 'l']
  | .bool true => ['t', 'r', 'u', 'e']
  | .bool false => ['f', 'a', 'l', 's', 'e']
  | .number n => n.chars
  | .string s => '"' :: (s.flatMap Piece.chars ++ ['"'])

/-- Reads the token at the front of a text. -/
def read? : List Char → Option (Token × List Char)
  | '[' :: rest => some (.openArray, rest)
  | ']' :: rest => some (.closeArray, rest)
  | '\x7b' :: rest => some (.openObject, rest)
  | '\x7d' :: rest => some (.closeObject, rest)
  | ',' :: rest => some (.comma, rest)
  | ':' :: rest => some (.colon, rest)
  | 'n' :: 'u' :: 'l' :: 'l' :: rest => some (.null, rest)
  | 't' :: 'r' :: 'u' :: 'e' :: rest => some (.bool true, rest)
  | 'f' :: 'a' :: 'l' :: 's' :: 'e' :: rest => some (.bool false, rest)
  | '"' :: rest => (readQuoted? rest).map fun (s, rest) => (.string s, rest)
  | '-' :: rest => (readNumber? true rest).map fun (n, rest) => (.number n, rest)
  | cs => (readNumber? false cs).map fun (n, rest) => (.number n, rest)

theorem length_of_read? {cs : List Char} {t : Token} {rest : List Char}
    (h : read? cs = some (t, rest)) : rest.length < cs.length := by
  unfold read? at h
  split at h
  case h_10 cs' =>
    obtain ⟨⟨s, r⟩, hr, he⟩ := Option.map_eq_some_iff.1 h
    cases he
    exact Nat.lt_succ_of_le (length_of_readQuoted? hr)
  case h_11 cs' =>
    obtain ⟨⟨n, r⟩, hr, he⟩ := Option.map_eq_some_iff.1 h
    cases he
    exact Nat.lt_succ_of_lt (length_of_readNumber? hr)
  case h_12 cs' =>
    obtain ⟨⟨n, r⟩, hr, he⟩ := Option.map_eq_some_iff.1 h
    cases he
    exact length_of_readNumber? hr
  all_goals cases h; simp only [List.length_cons]; omega

/-- Cuts a text into its tokens. -/
def scan? (cs : List Char) : Option (List Token) :=
  match cs with
  | [] => some []
  | c :: cs =>
    if isSpace c then scan? cs
    else
      match _ : read? (c :: cs) with
      | none => none
      | some (t, rest) => (scan? rest).map (t :: ·)
termination_by cs.length
decreasing_by
  · simp
  · exact length_of_read? ‹_›

end Token

end Rapport.Json
