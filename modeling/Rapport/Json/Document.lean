import Rapport.Json.Token

/-!
# JSON documents

A value is written as its tokens, without blanks (`Json.render`).  A document is read by a machine
that takes one token after the other; what is open at a point of the document is a list of frames,
so the depth of a document is bounded by nothing but its length.

A document is one value: `Json.parse?` refuses a text with nothing in it, and one with anything but
blanks after its value.
-/

namespace Rapport.Json

/-! ### Writing -/

mutual

/-- The tokens that a value is written as. -/
def tokens : Json → List Token
  | .null => [.null]
  | .bool b => [.bool b]
  | .number n => [.number n]
  | .string s => [.string s]
  | .array items => .openArray :: (itemTokens items ++ [.closeArray])
  | .object members => .openObject :: (memberTokens members ++ [.closeObject])

/-- The tokens between the brackets of an array. -/
def itemTokens : List Json → List Token
  | [] => []
  | [item] => tokens item
  | item :: items => tokens item ++ .comma :: itemTokens items

/-- The tokens between the braces of an object. -/
def memberTokens : List (Quoted × Json) → List Token
  | [] => []
  | [(name, value)] => .string name :: .colon :: tokens value
  | (name, value) :: members =>
    .string name :: .colon :: (tokens value ++ .comma :: memberTokens members)

end

/-- The text of a value, without blanks. -/
def render (j : Json) : String := String.ofList (j.tokens.flatMap Token.chars)

/-! ### Reading -/

/-- A container that is open around the value to be read next. -/
inductive Frame
  /-- An array with the items read so far, last one first. -/
  | array (done : List Json)
  /-- An object with the members read so far, last one first, and the name of the next value. -/
  | object (done : List (Quoted × Json)) (name : Quoted)

/-- What has been read of a document, and thereby what may follow. -/
inductive Reader
  | value (around : List Frame)
  | arrayOpened (around : List Frame)
  | itemRead (done : List Json) (around : List Frame)
  | objectOpened (around : List Frame)
  | memberFollows (done : List (Quoted × Json)) (around : List Frame)
  | nameRead (done : List (Quoted × Json)) (name : Quoted) (around : List Frame)
  | memberRead (done : List (Quoted × Json)) (around : List Frame)
  | complete (j : Json)

namespace Reader

/-- A value has been read inside the given frames. -/
def deliver (j : Json) : List Frame → Reader
  | [] => .complete j
  | .array done :: around => .itemRead (j :: done) around
  | .object done name :: around => .memberRead ((name, j) :: done) around

/-- A token at a point where a value has to begin. -/
def begin? (around : List Frame) : Token → Option Reader
  | .null => some (deliver .null around)
  | .bool b => some (deliver (.bool b) around)
  | .number n => some (deliver (.number n) around)
  | .string s => some (deliver (.string s) around)
  | .openArray => some (.arrayOpened around)
  | .openObject => some (.objectOpened around)
  | _ => none

/-- Takes one token. -/
def step? : Reader → Token → Option Reader
  | .value around, t => begin? around t
  | .arrayOpened around, .closeArray => some (deliver (.array []) around)
  | .arrayOpened around, t => begin? (.array [] :: around) t
  | .itemRead done around, .comma => some (.value (.array done :: around))
  | .itemRead done around, .closeArray => some (deliver (.array done.reverse) around)
  | .objectOpened around, .closeObject => some (deliver (.object []) around)
  | .objectOpened around, .string s => some (.nameRead [] s around)
  | .memberFollows done around, .string s => some (.nameRead done s around)
  | .nameRead done name around, .colon => some (.value (.object done name :: around))
  | .memberRead done around, .comma => some (.memberFollows done around)
  | .memberRead done around, .closeObject => some (deliver (.object done.reverse) around)
  | _, _ => none

/-- The value, once a whole document has been read. -/
def value? : Reader → Option Json
  | .complete j => some j
  | _ => none

end Reader

/-- The value that a list of tokens spells. -/
def ofTokens? (ts : List Token) : Option Json :=
  (ts.foldlM Reader.step? (.value [])).bind Reader.value?

/-- Reads a document that holds one value. -/
def parse? (text : String) : Option Json := (Token.scan? text.toList).bind ofTokens?

end Rapport.Json
