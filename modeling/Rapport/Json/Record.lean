import Rapport.Json.Codec

/-!
# Records in JSON

A record type is described once, by the list of its fields with their names, and the description
gives the written form and both readers: an object with the fields as members, and an array of the
fields in order.

An object may have members that name no field; they are passed over, whatever they hold.  A field
given twice is refused.  Whether fields may be left out is a property of the record: if they may, a
field that is left out keeps the value it has in `Record.start`, and an array may stop early.  If
they may not, only the fields marked as optional may be missing, and only from an object.
-/

namespace Rapport.Json

/-- A field of the record type `ρ`. -/
structure Field (ρ : Type) where
  name : String
  /-- The JSON form of the field in a given record. -/
  write : ρ → Json
  /-- The record with the field read from a JSON form. -/
  read? : Json → ρ → Option ρ
  /-- Whether an object without the field is refused when fields may not be left out. -/
  required : Bool

namespace Field

variable {ρ α : Type} [Codec α]

/-- The field that `get` and `set` give access to. -/
def of (name : String) (get : ρ → α) (set : ρ → α → ρ) : Field ρ where
  name := name
  write x := encode (get x)
  read? j x := (decode? j).map (set x)
  required := true

/-- A field that an object may always leave out. -/
def optional (name : String) (get : ρ → α) (set : ρ → α → ρ) : Field ρ :=
  { of name get set with required := false }

end Field

/-- A description of the record type `ρ`. -/
structure Record (ρ : Type) where
  /-- The record that reading starts from. -/
  start : ρ
  /-- The fields, in the order in which they are written. -/
  fields : List (Field ρ)
  /-- Whether fields may be left out. -/
  partly : Bool

namespace Record

variable {ρ : Type}

/-- Writes a record as an object, with the fields in order. -/
def write (r : Record ρ) (x : ρ) : Json :=
  .ofMembers (r.fields.map fun f => (f.name, f.write x))

/-- Reads one field from among the members of an object. -/
def readMember? (partly : Bool) (members : List (String × Json)) (x : ρ) (f : Field ρ) :
    Option ρ :=
  match members.filter fun m => m.1 = f.name with
  | [] => if partly || !f.required then some x else none
  | [m] => f.read? m.2 x
  -- a field must not be given twice
  | _ => none

/-- Reads fields in order from the elements of an array. -/
def readItems? (partly : Bool) : List (Field ρ) → List Json → ρ → Option ρ
  | [], [], x => some x
  | [], _ :: _, _ => none
  | _ :: _, [], x => if partly then some x else none
  | f :: fs, j :: js, x => (f.read? j x).bind (readItems? partly fs js)

/-- Reads a record from an object or an array. -/
def read? (r : Record ρ) : Json → Option ρ
  | .array items => readItems? r.partly r.fields items r.start
  | j => j.members?.bind fun members =>
    r.fields.foldlM (readMember? r.partly members) r.start

/-- The codec that a description gives. -/
abbrev codec (r : Record ρ) : Codec ρ := ⟨r.write, r.read?⟩

end Record

end Rapport.Json
