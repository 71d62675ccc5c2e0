import Rapport.LoadError

/-!
# Static data

The templates, factions and shapeshift forms that queries look up by number.  `FactionData` is built
from lists of records, and building checks them: numbers do not repeat within a kind, and a template
belongs to a faction that is there, or to none.  Factions are checked first, then templates, then
forms, each list in order, and the first fault is reported.
-/

namespace Rapport

/-- Static data, by number. -/
structure FactionData where
  templates : Keyed TemplateId FactionTemplate := ∅
  factions : Keyed FactionId Faction := ∅
  forms : Keyed FormId ShapeshiftForm := ∅
  deriving DecidableEq

/-- Records from which static data is built. -/
structure FactionRecords where
  templates : List FactionTemplate := []
  factions : List Faction := []
  forms : List ShapeshiftForm := []
  deriving DecidableEq

namespace FactionRecords

/-- Lists of records in JSON.  A list that is left out is empty. -/
def record : Json.Record FactionRecords where
  start := {}
  partly := true
  fields := [
    .of "templates" (·.templates) fun r v => { r with templates := v },
    .of "factions" (·.factions) fun r v => { r with factions := v },
    .of "shapeshift_forms" (·.forms) fun r v => { r with forms := v }]

instance : Codec FactionRecords := record.codec

/-- Adds a faction whose number is new. -/
def addFaction (factions : Keyed FactionId Faction) (f : Faction) :
    Except DataError (Keyed FactionId Faction) :=
  if factions.contains f.id then .error (.duplicateFaction f.id)
  else .ok (factions.insert f.id f)

/-- Adds a template whose faction is known and whose number is new. -/
def addTemplate (factions : Keyed FactionId Faction) (templates : Keyed TemplateId FactionTemplate)
    (t : FactionTemplate) : Except DataError (Keyed TemplateId FactionTemplate) :=
  if t.faction ≠ 0 ∧ !factions.contains t.faction then .error (.unknownFaction t.id t.faction)
  else if templates.contains t.id then .error (.duplicateTemplate t.id)
  else .ok (templates.insert t.id t)

/-- Adds a shapeshift form whose number is new. -/
def addForm (forms : Keyed FormId ShapeshiftForm) (f : ShapeshiftForm) :
    Except DataError (Keyed FormId ShapeshiftForm) :=
  if forms.contains f.id then .error (.duplicateForm f.id)
  else .ok (forms.insert f.id f)

/-- Checks the records and puts them in order. -/
def build (r : FactionRecords) : Except DataError FactionData := do
  let factions ← r.factions.foldlM addFaction ∅
  let templates ← r.templates.foldlM (addTemplate factions) ∅
  let forms ← r.forms.foldlM addForm ∅
  return { templates, factions, forms }

/-- Adds a template after the ones that are there. -/
def template (r : FactionRecords) (t : FactionTemplate) : FactionRecords :=
  { r with templates := r.templates ++ [t] }

/-- Adds a faction after the ones that are there. -/
def faction (r : FactionRecords) (f : Faction) : FactionRecords :=
  { r with factions := r.factions ++ [f] }

/-- Adds a shapeshift form after the ones that are there. -/
def form (r : FactionRecords) (f : ShapeshiftForm) : FactionRecords :=
  { r with forms := r.forms ++ [f] }

end FactionRecords

namespace FactionData

/-- Reads static data from a JSON document and checks it. -/
def ofJson (text : String) : Except LoadError FactionData := do
  let records : FactionRecords ← load text
  records.build.mapError .inconsistent

/-- The template of a number.  Template 0 stands for none, whatever the records say. -/
def template? (d : FactionData) (id : TemplateId) : Option FactionTemplate :=
  if id = 0 then none else d.templates.get? id

/-- The faction of a number. -/
def faction? (d : FactionData) (id : FactionId) : Option Faction := d.factions.get? id

/-- The shapeshift form of a number. -/
def form? (d : FactionData) (id : FormId) : Option ShapeshiftForm := d.forms.get? id

/-- The faction that a template belongs to. -/
def factionOf? (d : FactionData) (t : FactionTemplate) : Option Faction := d.faction? t.faction

/-- The faction that a template belongs to, if players can earn a standing with it. -/
def reputationFactionOf? (d : FactionData) (t : FactionTemplate) : Option Faction :=
  (d.factionOf? t).filter Faction.hasReputation

end FactionData

end Rapport
