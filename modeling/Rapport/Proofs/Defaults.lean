import Rapport.Proofs.Json.Record
import Rapport.Proofs.Saved

/-!
# Defaults

Static data, spells, configurations, reputations and the state of units may be written in part: what
a document leaves out has its default (`left_out_fields_take_defaults`).  By default almost
everything is empty, off or 0.  But a unit is alive and has level 1, a creature is aggressive, and a
player is on the side of the Alliance.
-/

namespace Rapport

open Json Member

/-! ### The fields of each record -/

theorem FactionTemplate.separate_record : FactionTemplate.record.Separate := by
  simp [record, Record.Separate, Field.of]

theorem Faction.separate_record : Faction.record.Separate := by
  simp [record, Record.Separate, Field.of]

theorem ShapeshiftForm.separate_record : ShapeshiftForm.record.Separate := by
  simp [record, Record.Separate, Field.of]

theorem Spell.separate_record : Spell.record.Separate := by
  simp [record, Record.Separate, Field.of]

theorem Config.separate_record : Config.record.Separate := by
  simp [record, Record.Separate, Field.of]

theorem FogOfWar.separate_record : FogOfWar.record.Separate := by
  simp [record, Record.Separate, Field.of]

theorem Reputation.separate_record : Reputation.record.Separate := by
  simp [record, Record.Separate, Field.of]

theorem UnitState.separate_record : UnitState.record.Separate := by
  simp [record, Record.Separate, Field.of]

theorem PlayerState.separate_record : PlayerState.record.Separate := by
  simp [record, Record.Separate, Field.of]

theorem CreatureState.separate_record : CreatureState.record.Separate := by
  simp [record, Record.Separate, Field.of]

/-! ### What is left out -/

/-- Each of these records is loaded from part of its members, in any order and among members that
name no field, and the fields without a member have the values given here. -/
theorem left_out_fields_take_defaults :
    TakesDefaults FactionTemplate.record
        ⟨0, 0, ∅, ∅, ∅, ∅, .replicate 4 0, .replicate 4 0⟩ ∧
      TakesDefaults Faction.record ⟨0, none, 0⟩ ∧
      TakesDefaults ShapeshiftForm.record ⟨0, ∅⟩ ∧
      TakesDefaults Spell.record ⟨0, ∅⟩ ∧
      TakesDefaults Config.record ⟨⟨0, 0, 0⟩, false⟩ ∧
      TakesDefaults FogOfWar.record ⟨0, 0, 0⟩ ∧
      TakesDefaults Reputation.record ⟨∅, ∅, ∅⟩ ∧
      TakesDefaults UnitState.record
        ⟨0, ∅, ∅, ∅, true, 1, none, none, none, none, none, none⟩ ∧
      TakesDefaults PlayerState.record ⟨∅, none, none, .alliance, none, ⟨∅, ∅, ∅⟩⟩ ∧
      TakesDefaults CreatureState.record ⟨∅, false, none, .aggressive, false⟩ :=
  ⟨FactionTemplate.faithful_record.takesDefaults FactionTemplate.separate_record rfl,
    Faction.faithful_record.takesDefaults Faction.separate_record rfl,
    ShapeshiftForm.faithful_record.takesDefaults ShapeshiftForm.separate_record rfl,
    Spell.faithful_record.takesDefaults Spell.separate_record rfl,
    Config.faithful_record.takesDefaults Config.separate_record rfl,
    FogOfWar.faithful_record.takesDefaults FogOfWar.separate_record rfl,
    Reputation.faithful_record.takesDefaults Reputation.separate_record rfl,
    UnitState.faithful_record.takesDefaults UnitState.separate_record rfl,
    PlayerState.faithful_record.takesDefaults PlayerState.separate_record rfl,
    CreatureState.faithful_record.takesDefaults CreatureState.separate_record rfl⟩

/-- A unit of level 60 that is dead. -/
def fallenVeteran : UnitState := { alive := false, level := 60 }

/-- A member that names no field, and whose value no field could hold. -/
def foreignNote : Member := ⟨" \"n\\u006fte\" ", " [1e400] "⟩

theorem content?_foreignNote : foreignNote.content? =
    some ("note", .array [.number ⟨false, 1, ['e', '4', '0', '0']⟩]) := by
  have hquoted : Token.read? ['"', 'n', '\\', 'u', '0', '0', '6', 'f', 't', 'e', '"', ' '] =
      some (.string [.char 'n', .unit 0x6f, .char 't', .char 'e'], [' ']) := rfl
  have hnumber : Token.read? ['1', 'e', '4', '0', '0', ']', ' '] =
      some (.number ⟨false, 1, ['e', '4', '0', '0']⟩, [']', ' ']) := rfl
  have hname : Token.scan? foreignNote.name.toList =
      some [.string [.char 'n', .unit 0x6f, .char 't', .char 'e']] := by
    have htext : foreignNote.name.toList =
        [' ', '"', 'n', '\\', 'u', '0', '0', '6', 'f', 't', 'e', '"', ' '] := rfl
    rw [htext, Token.scan?_space rfl, Token.scan?_of_read? rfl hquoted, Token.scan?_space rfl,
      scan?_nil]
    rfl
  have hvalue : Token.scan? foreignNote.value.toList =
      some [.openArray, .number ⟨false, 1, ['e', '4', '0', '0']⟩, .closeArray] := by
    have htext : foreignNote.value.toList = [' ', '[', '1', 'e', '4', '0', '0', ']', ' '] := rfl
    have hopen (cs : List Char) : Token.read? ('[' :: cs) = some (.openArray, cs) := rfl
    have hclose (cs : List Char) : Token.read? (']' :: cs) = some (.closeArray, cs) := rfl
    rw [htext, Token.scan?_space rfl, Token.scan?_of_read? rfl (hopen _),
      Token.scan?_of_read? rfl hnumber, Token.scan?_of_read? rfl (hclose _), Token.scan?_space rfl,
      scan?_nil]
    rfl
  refine content?_eq_some_iff.2 ⟨_, read?_eq_some_iff.2 ⟨hname, ?_⟩, rfl⟩
  rw [parse?, hvalue]
  rfl

/-- The level of the veteran as a member of an object. -/
def veteranLevel : Member := written "level" (encode (60 : UInt32))

/-- Of the fallen veteran only the level is written down, and so the unit that is loaded is alive.
With a second level nothing is loaded. -/
theorem only_level_written :
    load "\x7b \"n\\u006fte\" : [1e400] ,\"level\":60\x7d" = .ok ({ level := 60 } : UnitState) ∧
      (load "\x7b\"level\":60,\"level\":60\x7d" : Except LoadError UnitState) =
        .error .malformed := by
  obtain ⟨-, -, -, -, -, -, -, h, -, -⟩ := left_out_fields_take_defaults
  have hlevel : veteranLevel.content? = some ("level", encode (60 : UInt32)) :=
    content?_written (by simp) (.number rfl)
  constructor
  · have hforeign : ∀ m ∈ [foreignNote], UnitState.record.IsForeign m := by
      rw [List.forall_mem_singleton]
      exact ⟨"note", _, content?_foreignNote, by decide⟩
    have hkept : UnitState.record.keptMembers (· == "level") fallenVeteran = [veteranLevel] := by
      simp [Record.keptMembers, UnitState.record, Field.of, veteranLevel, fallenVeteran]
    obtain ⟨w, hload, hw⟩ := h.filled fallenVeteran (· == "level") [foreignNote]
      [foreignNote, veteranLevel] hforeign (hkept ▸ List.Perm.swap ..)
    have hsame : w = { level := 60 } := h.settled w _ fun f hf => by
      rw [hw f hf]
      revert f
      simp [UnitState.record, Field.of, fallenVeteran]
    have htext : document [foreignNote, veteranLevel] =
        "\x7b \"n\\u006fte\" : [1e400] ,\"level\":60\x7d" := rfl
    rw [← htext, hload, hsame]
  · have hfield : Field.of "level" (·.level) (fun u v => { u with level := v }) ∈
        UnitState.record.fields := by
      simp [UnitState.record]
    have htext : document [veteranLevel, veteranLevel] =
        "\x7b\"level\":60,\"level\":60\x7d" := rfl
    rw [← htext]
    exact h.repeated _ hfield veteranLevel veteranLevel _ _ [] _ hlevel hlevel (by simp) (.refl _)

end Rapport
