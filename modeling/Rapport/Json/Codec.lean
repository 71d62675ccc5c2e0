import Rapport.Json.Document
import Rapport.Keyed
import Rapport.Flag

/-!
# Values with a JSON form

`Codec α` pairs the JSON form of `α` with its reader.  Writing has one form for each value; reading
also accepts the other forms that are listed with each type below.  The law that ties the two,
`LawfulCodec`, is that what was written is read back.

Numbers are read from integers only, within the bounds of their type.  `null` is the absence of an
optional value and is nothing else.
-/

namespace Rapport

open Json

/-- A type with a JSON form. -/
class Codec (α : Type) where
  /-- The JSON form of a value. -/
  encode : α → Json
  /-- The value that a JSON form stands for. -/
  decode? : Json → Option α

/-- What is written is read back. -/
class LawfulCodec (α : Type) [Codec α] : Prop where
  /-- Reading undoes writing. -/
  decode?_encode : ∀ a : α, Codec.decode? (Codec.encode a) = some a

export Codec (encode decode?)

attribute [simp] LawfulCodec.decode?_encode

/-- The text of the JSON form of a value. -/
def encodeText {α : Type} [Codec α] (a : α) : String := (encode a).render

/-- Reads a value from the text of a JSON document. -/
def decodeText? {α : Type} [Codec α] (text : String) : Option α := (Json.parse? text).bind decode?

namespace Codec

instance : Codec Bool where
  encode := .bool
  decode?
    | .bool b => some b
    | _ => none

/-- A numbered value is its number. -/
instance (priority := low) {ν : Type} [Numbered ν] : Codec ν where
  encode x := .ofNat (Numbered.toNat x)
  decode? j := j.nat?.bind Numbered.ofNat?

instance : Codec Int32 where
  encode i := .ofInt i.toInt
  decode? j := j.int?.bind fun i =>
    if Int32.minValue.toInt ≤ i ∧ i ≤ Int32.maxValue.toInt then some (Int32.ofInt i) else none

/-- An optional value is `null` or the value.  This is a form only for types of which no value is
written as `null`. -/
instance {α : Type} [Codec α] : Codec (Option α) where
  encode
    | none => .null
    | some a => encode a
  decode?
    | .null => some none
    | j => (decode? j).map some

/-- A list is an array of its elements. -/
instance {α : Type} [Codec α] : Codec (List α) where
  encode l := .array (l.map encode)
  decode?
    | .array items => items.mapM decode?
    | _ => none

/-- A vector is an array with exactly as many elements. -/
instance {α : Type} {n : Nat} [Codec α] : Codec (Vector α n) where
  encode v := encode v.toList
  decode? j := (decode? j : Option (List α)).bind fun l =>
    if h : l.toArray.size = n then some ⟨l.toArray, h⟩ else none

/-- The key that the name of a member stands for: a decimal numeral, no character of which is given
by number. -/
def key? {κ : Type} [Numbered κ] (name : Quoted) : Option κ :=
  name.plain?.bind fun cs => (Text.ofDecimal? cs).bind Numbered.ofNat?

/-- The name of a member that stands for a key. -/
def keyName {κ : Type} [Numbered κ] (k : κ) : Quoted :=
  (Nat.toDigits 10 (Numbered.toNat k)).map .char

/-- A keyed collection is an object with the keys as names, lowest first.  Names come in any order
when read, and of several members of one name the last stands. -/
instance {κ α : Type} [Numbered κ] [Codec α] : Codec (Keyed κ α) where
  encode m := .object (m.entries.map fun (k, a) => (keyName k, encode a))
  decode?
    | .object members =>
      (members.mapM fun (name, value) => do return (← key? name, ← decode? value)).map Keyed.ofList
    | _ => none

/-- A set of keys is an array of them, lowest first.  Keys come in any order when read, and may be
repeated. -/
instance {κ : Type} [Numbered κ] : Codec (KeySet κ) where
  encode m := encode m.keys
  decode? j := (decode? j : Option (List κ)).map fun ks => Keyed.ofList (ks.map (·, ()))

/-- A flag word is its text. -/
instance {φ : Type} [Flag φ] : Codec (FlagSet φ) where
  encode s := .ofText s.text
  decode? j := j.text?.bind FlagSet.ofText?

/-- A named value is its name.  It may also be read from an object with `null` under that name. -/
abbrev ofNamed (α : Type) [Named α] : Codec α where
  encode a := .ofText (Named.name a)
  decode?
    | .string s => s.text?.bind Named.ofName?
    | .object [(s, .null)] => s.text?.bind Named.ofName?
    | _ => none

end Codec

end Rapport
