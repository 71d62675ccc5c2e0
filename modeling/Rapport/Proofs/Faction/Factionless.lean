import Rapport.Proofs.Faction.Data
import Rapport.Proofs.Pet

/-!
# Templates of no faction

Faction 0 stands for none: a template may belong to it although it is not among the records, and no
list of friends or enemies names it.  Building does not keep a record from having that number,
though, and neither does a reputation, so the convention holds as far as the two leave it alone.
Then a template of faction 0 has no faction, no player has a forced rank with it, and its bearers
regard others as the templates say, contested players before contested guards apart
(`View.answers_of_factionless`).

Where there is a faction 0, it is a faction like any other (`faction_zero_keeps_standings`).
-/

namespace Rapport

/-- The records from which static data was built, one by one or out of a document. -/
inductive FactionData.MadeFrom (d : FactionData) (r : FactionRecords) : Prop
  | built : r.build = .ok d → MadeFrom d r
  | loaded {text : String} : load text = .ok r → ofJson text = .ok d → MadeFrom d r

namespace FactionData

variable {d : FactionData} {r : FactionRecords} {t : FactionTemplate}

/-- A document is accepted if its records are. -/
theorem MadeFrom.build (h : d.MadeFrom r) : r.build = .ok d := by
  cases h with
  | built hbuild => exact hbuild
  | loaded hread hload =>
      unfold ofJson at hload
      rw [hread] at hload
      change r.build.mapError LoadError.inconsistent = .ok d at hload
      cases hbuild : r.build with
      | ok d' =>
          rw [hbuild] at hload
          exact congrArg Except.ok (Except.ok.inj hload)
      | error e =>
          rw [hbuild] at hload
          contradiction

theorem factionOf?_eq_none_iff (h : r.build = .ok d) (ht : t.faction = 0) :
    d.factionOf? t = none ↔ ∀ f ∈ r.factions, f.id ≠ 0 := by
  rw [factionOf?, ht, Option.eq_none_iff_forall_ne_some]
  constructor
  · intro hnone f hf hid
    exact hnone f ((FactionRecords.faction?_eq_some_iff h).2 ⟨hf, hid⟩)
  · intro hnone f hf
    obtain ⟨hmem, hid⟩ := (FactionRecords.faction?_eq_some_iff h).1 hf
    exact hnone f hmem hid

theorem reputationFactionOf?_eq_none_iff (h : r.build = .ok d) (ht : t.faction = 0) :
    d.reputationFactionOf? t = none ↔ ∀ f ∈ r.factions, f.id = 0 → f.hasReputation = false := by
  rw [reputationFactionOf?, Option.filter_eq_none_iff, factionOf?, ht]
  constructor
  · intro hnone f hf hid
    rw [← Bool.not_eq_true]
    exact hnone f ((FactionRecords.faction?_eq_some_iff h).2 ⟨hf, hid⟩)
  · intro hnone f hf
    obtain ⟨hmem, hid⟩ := (FactionRecords.faction?_eq_some_iff h).1 hf
    rw [Bool.not_eq_true]
    exact hnone f hmem hid

end FactionData

theorem Reputation.forcedRank?_eq_none_iff {t : FactionTemplate} (r : Reputation)
    (ht : t.faction = 0) : r.forcedRank? t = none ↔ r.forcedRanks.contains 0 = false := by
  rw [forcedRank?, ht, Keyed.contains, Option.isSome_eq_false_iff, Option.isNone_iff_eq_none]

namespace View

variable {v : View} {t targetTemplate : FactionTemplate} {u : LiveUnit}

/-- The player in control of a unit has a say in how a template regards it by being contested, by a
forced rank and by a standing, and in no other way. -/
theorem reputationReaction?_eq_none (h : ∀ q, v.UnderPlayer u q →
    (q.isContested && t.isContestedGuard) = false ∧ q.state.reputation.forcedRank? t = none ∧
      v.data.reputationFactionOf? t = none) :
    v.reputationReaction? t u = none := by
  unfold reputationReaction?
  split
  next hcontrolled =>
    cases hq : v.controller? u false with
    | none => rfl
    | some q =>
        obtain ⟨hguard, hforced, hstanding⟩ := h q ⟨hcontrolled, hq⟩
        rw [Option.bind_some, hguard, hforced, hstanding]
        rfl
  next => rfl

theorem templateReactionToUnit_of_reputationReaction? (ht : v.templateOf? u = some targetTemplate)
    (h : v.reputationReaction? t u = none) :
    v.templateReactionToUnit (some t) u = t.reactionTo targetTemplate := by
  unfold templateReactionToUnit
  rw [ht]
  show (v.reputationReaction? t u).getD _ = _
  rw [h]
  rfl

/-- A template of faction 0 has a faction, a faction with standings, or a forced rank exactly if a
record or a reputation makes use of the number 0.  Where no faction with standings does, and no
forced rank of the player in control of a unit, the template regards the unit as it regards the
unit's template, unless it is that of a contested guard and the player is contested. -/
theorem answers_of_factionless {d : FactionData} {r : FactionRecords} (hmade : d.MadeFrom r)
    (ht : t.faction = 0) :
    (d.factionOf? t = none ↔ ∀ f ∈ r.factions, f.id ≠ 0) ∧
      (d.reputationFactionOf? t = none ↔ ∀ f ∈ r.factions, f.id = 0 → f.hasReputation = false) ∧
      (∀ reputation : Reputation,
        reputation.forcedRank? t = none ↔ reputation.forcedRanks.contains 0 = false) ∧
      ((∀ f ∈ r.factions, f.id = 0 → f.hasReputation = false) →
        ∀ (v : View) (u : LiveUnit) (targetTemplate : FactionTemplate), v.data = d →
          v.templateOf? u = some targetTemplate →
          (∀ q, v.UnderPlayer u q → q.state.reputation.forcedRanks.contains 0 = false) →
          (∀ q, v.UnderPlayer u q → (q.isContested && t.isContestedGuard) = false) →
          v.templateReactionToUnit (some t) u = t.reactionTo targetTemplate) := by
  have hbuild := hmade.build
  refine ⟨FactionData.factionOf?_eq_none_iff hbuild ht,
    FactionData.reputationFactionOf?_eq_none_iff hbuild ht, ?_, ?_⟩
  · intro reputation
    exact reputation.forcedRank?_eq_none_iff ht
  · rintro hzero v u targetTemplate rfl htarget hforced hguard
    refine templateReactionToUnit_of_reputationReaction? htarget
      (reputationReaction?_eq_none fun q hq => ⟨hguard q hq, ?_, ?_⟩)
    · exact (q.state.reputation.forcedRank?_eq_none_iff ht).2 (hforced q hq)
    · exact (FactionData.reputationFactionOf?_eq_none_iff hbuild ht).2 hzero

end View

/-- Two templates of faction 0, and a record that has this number too. -/
def shadowRecords : FactionRecords where
  templates := [{ id := 1 }, { id := 2 }]
  factions := [{ id := 0, reputationIndex := some 0, baseStanding := 42000 }]

/-- What is built from these records. -/
def shadowData : FactionData where
  templates := .ofList [(1, { id := 1 }), (2, { id := 2 })]
  factions := .ofList [(0, { id := 0, reputationIndex := some 0, baseStanding := 42000 })]

/-- A player without a history. -/
def newcomer : LivePlayer :=
  ⟨⟨0⟩, .player, { factionTemplate := 1, flags := .only .playerControlled }, {}⟩

/-- A player whose rank with faction 0 is forced. -/
def pariah : LivePlayer :=
  ⟨⟨1⟩, .player, { factionTemplate := 1, flags := .only .playerControlled },
    { reputation := Reputation.setForcedRank {} 0 (some .hated) }⟩

/-- Both players, under these data. -/
def shadowland : View := .ofUnits shadowData [newcomer.toUnit, pariah.toUnit]

/-- Template 2 belongs to no faction and is indifferent to template 1, but the record of number 0
keeps a standing for it, and a reputation can force a rank with it. -/
theorem faction_zero_keeps_standings :
    shadowRecords.build = .ok shadowData ∧ shadowland.template? 2 = some { id := 2 } ∧
      (shadowData.factionOf? { id := 2 }).isSome = true ∧
      (shadowData.reputationFactionOf? { id := 2 }).isSome = true ∧
      pariah.state.reputation.forcedRank? { id := 2 } = some .hated ∧
      FactionTemplate.reactionTo { id := 2 } { id := 1 } = .neutral ∧
      shadowland.templateOf? newcomer.toUnit = some { id := 1 } ∧
      shadowland.templateReactionToUnit (some { id := 2 }) newcomer.toUnit = .exalted ∧
      shadowland.templateOf? pariah.toUnit = some { id := 1 } ∧
      shadowland.templateReactionToUnit (some { id := 2 }) pariah.toUnit = .hated :=
  ⟨rfl, rfl, rfl, rfl, rfl, rfl, rfl, rfl, rfl, rfl⟩

/-- The records of the frontier. -/
def frontierRecords : FactionRecords where
  templates := [{ id := 1 }, { id := 120, faction := 21 }]
  factions := [{ id := 21, reputationIndex := some 21 }]

/-- The player without a history, where no record has the number 0. -/
def outback : View := .ofUnits frontierData [newcomer.toUnit]

/-- Without a record of number 0, template 1 has no faction and regards the bearer of a template as
it regards the template. -/
theorem answers_of_factionless_outback :
    frontierData.MadeFrom frontierRecords ∧ frontierData.factionOf? { id := 1 } = none ∧
      frontierData.reputationFactionOf? { id := 1 } = none ∧
      newcomer.state.reputation.forcedRank? { id := 1 } = none ∧
      outback.templateReactionToUnit (some { id := 1 }) newcomer.toUnit =
        FactionTemplate.reactionTo { id := 1 } { id := 1 } := by
  have hmade : frontierData.MadeFrom frontierRecords := .built rfl
  have hzero : ∀ f ∈ frontierRecords.factions, f.id ≠ 0 := by decide
  obtain ⟨hfaction, hstanding, hforced, hregard⟩ :=
    View.answers_of_factionless (t := { id := 1 }) hmade rfl
  have hnone : ∀ f ∈ frontierRecords.factions, f.id = 0 → f.hasReputation = false :=
    fun f hf hid => absurd hid (hzero f hf)
  have hunder : ∀ q, outback.UnderPlayer newcomer.toUnit q → q = newcomer :=
    fun q hq => (Option.some.inj hq.controller).symm
  refine ⟨hmade, hfaction.2 hzero, hstanding.2 hnone, (hforced _).2 rfl, ?_⟩
  refine hregard hnone outback newcomer.toUnit { id := 1 } rfl rfl (fun q hq => ?_) fun q hq => ?_
  · rw [hunder q hq]
    rfl
  · rw [hunder q hq]
    rfl

end Rapport
