import Rapport.Label
import Rapport.Text

/-!
# Flag words

A family of flags gives a name to some of the bits of a 32-bit word.  `FlagSet φ` is such a word for
the family `φ`.  Bits without a name are kept as they are: a flag word is data of the simulation,
of which this library knows only some bits.

A flag word is written as the names of its set flags, in the order of the family, and the remaining
bits as one hexadecimal numeral, with ` | ` between the parts.  The word without bits is the empty
text.  Reading is more generous: parts come in any order and may repeat, blanks around a part do not
count, and any part may be hexadecimal.  It is not generous about what a part is: an empty part, an
unknown name or a numeral beyond 32 bits makes the whole text unreadable.
-/

namespace Rapport

/-- A family of named bits of a 32-bit word. -/
class Flag (φ : Type) extends Named φ where
  /-- The bit that a flag stands for. -/
  bit : φ → UInt32

/-- A 32-bit word some of whose bits are named by the family `φ`. -/
structure FlagSet (φ : Type) where
  /-- All bits, named or not. -/
  bits : UInt32
  deriving DecidableEq

namespace FlagSet

variable {φ : Type}

/-- The word without any bit. -/
def empty : FlagSet φ := ⟨0⟩

instance : EmptyCollection (FlagSet φ) := ⟨empty⟩

instance : Inhabited (FlagSet φ) := ⟨empty⟩

/-- Whether no bit is set, be it named or not. -/
def isEmpty (s : FlagSet φ) : Bool := s.bits == 0

/-- Whether the two words have a bit in common. -/
def meets (s t : FlagSet φ) : Bool := s.bits &&& t.bits != 0

/-- The bits of both words. -/
def union (s t : FlagSet φ) : FlagSet φ := ⟨s.bits ||| t.bits⟩

variable [Flag φ]

/-- The word with just the bit of `f`. -/
def only (f : φ) : FlagSet φ := ⟨Flag.bit f⟩

/-- Whether the bit of `f` is set. -/
def has (s : FlagSet φ) (f : φ) : Bool := s.bits &&& Flag.bit f == Flag.bit f

/-- Whether the bit of any flag of a list is set. -/
def hasAny (s : FlagSet φ) (fs : List φ) : Bool := fs.any s.has

/-- Sets the bit of `f`. -/
def insert (s : FlagSet φ) (f : φ) : FlagSet φ := s.union (only f)

/-- Clears the bit of `f`, and no other. -/
def erase (s : FlagSet φ) (f : φ) : FlagSet φ := ⟨s.bits &&& ~~~ Flag.bit f⟩

/-! ### The text of a flag word -/

open Rapport.Text

/-- All bits that the family names. -/
def namedBits (φ : Type) [Flag φ] : UInt32 :=
  (Named.all : List φ).foldl (fun bits f => bits ||| Flag.bit f) 0

/-- The set bits that the family does not name. -/
def unnamedBits (s : FlagSet φ) : UInt32 := s.bits &&& ~~~ namedBits φ

/-- The parts that a word is written as. -/
def writtenParts (s : FlagSet φ) : List (List Char) :=
  ((Named.all : List φ).filter s.has).map (fun f => (Named.name f).toList) ++
    if s.unnamedBits = 0 then []
    else ['0' :: 'x' :: Nat.toDigits 16 s.unnamedBits.toNat]

/-- The text of a flag word. -/
def text (s : FlagSet φ) : String :=
  String.ofList (List.intercalate [' ', '|', ' '] s.writtenParts)

/-- The bits that one part of a text stands for. -/
def partBits? (φ : Type) [Flag φ] : List Char → Option UInt32
  | '0' :: 'x' :: digits => (ofHex? digits).bind Numbered.ofNat?
  | name => (Named.ofName? (String.ofList name) : Option φ).map Flag.bit

/-- Reads the text of a flag word. -/
def ofText? (t : String) : Option (FlagSet φ) :=
  if (trim t.toList).isEmpty then some empty
  else ((parts '|' t.toList).mapM fun part => partBits? φ (trim part)).map fun words =>
    ⟨words.foldl (· ||| ·) 0⟩

end FlagSet

end Rapport
