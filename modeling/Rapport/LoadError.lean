import Rapport.Json.Codec
import Rapport.Faction

/-!
# Loading

What can go wrong when static data or a configuration is loaded.  Records that were read can still
contradict each other: those are the `DataError`s, which name the records at fault.
-/

namespace Rapport

open Numbered (numeral)

/-- Why records of static data do not go together. -/
inductive DataError
  | duplicateTemplate (id : TemplateId)
  | duplicateFaction (id : FactionId)
  | duplicateForm (id : FormId)
  /-- A template belongs to a faction that is not among the records. -/
  | unknownFaction (template : TemplateId) (faction : FactionId)
  deriving DecidableEq

/-- The report on an error. -/
def DataError.message : DataError → String
  | .duplicateTemplate id => "duplicate faction template id " ++ numeral id
  | .duplicateFaction id => "duplicate faction id " ++ numeral id
  | .duplicateForm id => "duplicate shapeshift form id " ++ numeral id
  | .unknownFaction template faction =>
    "faction template " ++ numeral template ++ " references unknown faction " ++ numeral faction

/-- Why something could not be loaded. -/
inductive LoadError
  /-- There is no text to load. -/
  | unreadable
  /-- The text is no JSON document, or not one of the expected shape. -/
  | malformed
  /-- The records contradict each other. -/
  | inconsistent (cause : DataError)
  deriving DecidableEq

/-- Reads a value from the text of a JSON document. -/
def load {α : Type} [Codec α] (text : String) : Except LoadError α :=
  match decodeText? text with
  | some a => .ok a
  | none => .error .malformed

/-- The text that a file holds.  Bytes that are not UTF-8 are no text, and neither is a file that
cannot be had. -/
def textOfFile (bytes : Option ByteArray) : Except LoadError String :=
  match bytes.bind String.fromUTF8? with
  | some text => .ok text
  | none => .error .unreadable

end Rapport
