/-!
# JSON values

A JSON value as a document spells it.  Two things that a looser value type would forget are kept,
because readers tell them apart:

* an object lists its members in order, repeated names included;
* a number that is not a plain integer keeps its fraction and exponent as text, so that `1`, `1.0`
  and `1e0` are three different numbers and `1e400` is one that no machine number has to hold.

A quoted text is a list of pieces: a character, or a UTF-16 unit that the document gives by number.
Units may fail to pair up to characters; such a text is well-formed, but it has no reading
(`Quoted.text?`).
-/

namespace Rapport

/-- One piece of a quoted text. -/
inductive Json.Piece
  /-- A character, written as itself or by a short escape. -/
  | char (c : Char)
  /-- A UTF-16 unit, written by its number. -/
  | unit (u : UInt16)
  deriving DecidableEq

/-- A quoted text, piece by piece. -/
abbrev Json.Quoted := List Json.Piece

/-- A number as it is spelled. -/
structure Json.Number where
  /-- Whether a minus sign stands in front. -/
  negative : Bool
  /-- The digits in front of the point or the exponent. -/
  whole : Nat
  /-- The text from the point or the exponent on; empty for an integer. -/
  tail : List Char
  deriving DecidableEq

/-- A JSON value as a document spells it. -/
inductive Json
  | null
  | bool (b : Bool)
  | number (n : Json.Number)
  | string (s : Json.Quoted)
  | array (items : List Json)
  | object (members : List (Json.Quoted × Json))

namespace Json

instance : Inhabited Json := ⟨.null⟩

namespace Quoted

/-- The quoted form of a text, each character for itself. -/
def ofText (s : String) : Quoted := s.toList.map .char

/-- The character that a pair of surrogate units stands for. -/
def paired (high low : UInt16) : Char :=
  Char.ofNat (0x10000 + (high.toNat - 0xD800) * 0x400 + (low.toNat - 0xDC00))

/-- Whether a unit is the first of a pair. -/
def isHigh (u : UInt16) : Bool := 0xD800 ≤ u && u < 0xDC00

/-- Whether a unit is the second of a pair. -/
def isLow (u : UInt16) : Bool := 0xDC00 ≤ u && u < 0xE000

/-- The characters of a quoted text.  There are none if a unit of a pair stands alone. -/
def chars? : Quoted → Option (List Char)
  | [] => some []
  | .char c :: rest => (chars? rest).map (c :: ·)
  | .unit u :: rest =>
    if isLow u then none
    else if isHigh u then
      match rest with
      | .unit v :: rest => if isLow v then (chars? rest).map (paired u v :: ·) else none
      | _ => none
    else (chars? rest).map (Char.ofNat u.toNat :: ·)

/-- The text that a quoted text stands for. -/
def text? (s : Quoted) : Option String := (chars? s).map String.ofList

@[simp] theorem text?_ofText (s : String) : text? (ofText s) = some s := by
  have h (cs : List Char) : chars? (cs.map .char) = some cs := by
    induction cs with
    | nil => rfl
    | cons c cs ih => simp [chars?, ih]
  simp [text?, ofText, h]

/-- The characters of a quoted text in which nothing is given by number. -/
def plain? (s : Quoted) : Option (List Char) :=
  s.mapM fun
    | .char c => some c
    | .unit _ => none

@[simp] theorem plain?_map_char (cs : List Char) : plain? (cs.map .char) = some cs := by
  induction cs with
  | nil => rfl
  | cons c cs ih => simp_all [plain?]

end Quoted

namespace Number

/-- The number spelled as a natural number. -/
def ofNat (n : Nat) : Number := ⟨false, n, []⟩

/-- The number spelled as an integer. -/
def ofInt (i : Int) : Number := ⟨decide (i < 0), i.natAbs, []⟩

/-- The integer that is spelled.  A fraction or an exponent rules it out even where it changes
nothing, and so does a minus sign in front of zero. -/
def int? (n : Number) : Option Int :=
  if n.tail ≠ [] then none
  else if n.negative then if n.whole = 0 then none else some (-n.whole)
  else some n.whole

/-- The natural number that is spelled. -/
def nat? (n : Number) : Option Nat :=
  if n.tail = [] ∧ n.negative = false then some n.whole else none

@[simp] theorem nat?_ofNat (n : Nat) : nat? (ofNat n) = some n := by simp [nat?, ofNat]

@[simp] theorem int?_ofInt (i : Int) : int? (ofInt i) = some i := by
  by_cases h : i < 0
  · have hw : i.natAbs ≠ 0 := by omega
    have hi : -(i.natAbs : Int) = i := by omega
    rw [int?, ofInt, if_neg (by simp), if_pos (by simpa using h), if_neg hw, hi]
  · have hi : (i.natAbs : Int) = i := by omega
    rw [int?, ofInt, if_neg (by simp), if_neg (by simpa using h), hi]

end Number

/-- The value that a text is written as. -/
def ofText (s : String) : Json := .string (Quoted.ofText s)

/-- The value that a natural number is written as. -/
def ofNat (n : Nat) : Json := .number (Number.ofNat n)

/-- The value that an integer is written as. -/
def ofInt (i : Int) : Json := .number (Number.ofInt i)

/-- The object with the given members. -/
def ofMembers (members : List (String × Json)) : Json :=
  .object (members.map fun (name, value) => (Quoted.ofText name, value))

/-- The text that a value stands for, if it is a quoted text with a reading. -/
def text? : Json → Option String
  | .string s => s.text?
  | _ => none

/-- The natural number that a value stands for, if it is a number spelled as one. -/
def nat? : Json → Option Nat
  | .number n => n.nat?
  | _ => none

/-- The integer that a value stands for, if it is a number spelled as one. -/
def int? : Json → Option Int
  | .number n => n.int?
  | _ => none

/-- The members of an object by name, in order.  A name without a reading makes the object
unreadable. -/
def members? : Json → Option (List (String × Json))
  | .object members => members.mapM fun (name, value) => name.text?.map fun name => (name, value)
  | _ => none

/-- The value of the first member of a given name. -/
def get? (j : Json) (name : String) : Option Json :=
  j.members?.bind fun members => (members.find? fun m => m.1 = name).map (·.2)

end Json

end Rapport
