import Rapport.Faction.Data
import Mathlib.Data.List.Induction

/-!
# Building static data

Static data is built from three lists of records, and each list is read in the same way (`Check`).
The records are taken in order; one that is wrong in itself is reported before one whose number is
taken, and every other one is stored under its number.  So a list is accepted exactly if no record
is wrong in itself and no number occurs twice (`Check.Sound`), and what is reported of any other
list is its first fault in order (`Check.FirstFault`).

A template is wrong in itself if it belongs to a faction that is not among the records.  With this
`FactionRecords.build_law` says when building succeeds, what is found afterwards, that the order of
the records has no part in it, and which of several faults is reported.
-/

namespace Rapport

/-! ### Checked lists -/

/-- How the records of one kind are checked. -/
structure Check (κ α : Type) where
  number : α → κ
  /-- What is wrong with a record, whatever other records of its kind there are. -/
  flaw? : α → Option DataError
  /-- The report on a record whose number is taken. -/
  repeated : α → DataError

namespace Check

variable {κ α : Type} {c : Check κ α} {l l' before after : List α} {a : α} {e : DataError}

/-- No record is wrong in itself, and no number occurs twice. -/
structure Sound (c : Check κ α) (l : List α) : Prop where
  flawless : ∀ a ∈ l, c.flaw? a = none
  nodup : (l.map c.number).Nodup

/-- What keeps a record from being added after others. -/
inductive Faults (c : Check κ α) (before : List α) (a : α) : DataError → Prop
  | flaw {e : DataError} : c.flaw? a = some e → Faults c before a e
  | repeated : c.flaw? a = none → c.number a ∈ before.map c.number →
      Faults c before a (c.repeated a)

/-- The report on the first record that cannot be added. -/
def FirstFault (c : Check κ α) (l : List α) (e : DataError) : Prop :=
  ∃ before a after, l = before ++ a :: after ∧ c.Sound before ∧ c.Faults before a e

theorem sound_nil : c.Sound [] where
  flawless _ ha := absurd ha List.not_mem_nil
  nodup := .nil

theorem sound_concat_iff :
    c.Sound (l ++ [a]) ↔ c.Sound l ∧ c.flaw? a = none ∧ c.number a ∉ l.map c.number := by
  constructor
  · rintro ⟨hflawless, hnodup⟩
    rw [List.map_append, List.map_singleton, List.nodup_append] at hnodup
    refine ⟨⟨fun b hb => hflawless b (List.mem_append_left _ hb), hnodup.1⟩, ?_, ?_⟩
    · exact hflawless a (List.mem_append_right _ (List.mem_singleton_self a))
    · intro hmem
      exact hnodup.2.2 _ hmem _ (List.mem_singleton_self _) rfl
  · rintro ⟨⟨hflawless, hnodup⟩, hflaw, hnew⟩
    refine ⟨fun b hb => ?_, ?_⟩
    · rcases List.mem_append.1 hb with hb | hb
      · exact hflawless b hb
      · rwa [List.mem_singleton.1 hb]
    · rw [List.map_append, List.map_singleton, List.nodup_append]
      refine ⟨hnodup, List.pairwise_singleton _ _, ?_⟩
      rintro n hn _ hm rfl
      rw [List.mem_singleton.1 hm] at hn
      exact hnew hn

/-- Where no record is wrong in itself, only the numbers count. -/
theorem sound_of_nodup (hc : ∀ a, c.flaw? a = none) (h : (l.map c.number).Nodup) : c.Sound l where
  flawless a _ := hc a
  nodup := h

/-- A list is sound, or it has a first fault. -/
theorem sound_or_firstFault (c : Check κ α) (l : List α) : c.Sound l ∨ ∃ e, c.FirstFault l e := by
  induction l using List.reverseRecOn with
  | nil => exact Or.inl sound_nil
  | append_singleton l a ih =>
      rcases ih with hsound | ⟨e, before, b, after, rfl, hbefore, hfault⟩
      · -- the new record is the only one that may be at fault
        cases hflaw : c.flaw? a with
        | some e => exact Or.inr ⟨e, l, a, [], rfl, hsound, .flaw hflaw⟩
        | none =>
            by_cases hnew : c.number a ∈ l.map c.number
            · exact Or.inr ⟨c.repeated a, l, a, [], rfl, hsound, .repeated hflaw hnew⟩
            · exact Or.inl (sound_concat_iff.2 ⟨hsound, hflaw, hnew⟩)
      · exact Or.inr ⟨e, before, b, after ++ [a], by simp, hbefore, hfault⟩

variable [Numbered κ] {k : κ}

/-- Adds a record, if nothing is wrong with it and its number is new. -/
def add (c : Check κ α) (m : Keyed κ α) (a : α) : Except DataError (Keyed κ α) :=
  match c.flaw? a with
  | some e => .error e
  | none => if m.contains (c.number a) then .error (c.repeated a) else .ok (m.insert (c.number a) a)

/-- The records by number; of several with one number the last stands. -/
def index (c : Check κ α) (l : List α) : Keyed κ α :=
  l.foldl (fun m a => m.insert (c.number a) a) ∅

theorem index_concat (c : Check κ α) (l : List α) (a : α) :
    c.index (l ++ [a]) = (c.index l).insert (c.number a) a := by
  rw [index, List.foldl_append]
  rfl

variable [DecidableEq κ]

theorem contains_index_iff : (c.index l).contains k = true ↔ k ∈ l.map c.number := by
  induction l using List.reverseRecOn with
  | nil => exact iff_of_false Bool.false_ne_true List.not_mem_nil
  | append_singleton l a ih =>
      rw [index_concat, Keyed.contains, Keyed.get?_insert, List.map_append, List.mem_append, ← ih]
      split
      next heq => simp [heq]
      next hne => simp [Keyed.contains, Ne.symm hne]

/-- Where no number occurs twice, every record is found under its number, and nothing else is. -/
theorem get?_index_eq_some_iff (hnodup : (l.map c.number).Nodup) :
    (c.index l).get? k = some a ↔ a ∈ l ∧ c.number a = k := by
  induction l using List.reverseRecOn with
  | nil => exact iff_of_false (nomatch ·) fun h => List.not_mem_nil h.1
  | append_singleton l b ih =>
      rw [List.map_append, List.map_singleton, List.nodup_append] at hnodup
      rw [index_concat, Keyed.get?_insert, List.mem_append, List.mem_singleton]
      split
      next heq =>
        -- no earlier record has the number of the last one
        rw [Option.some.injEq]
        constructor
        · rintro rfl
          exact ⟨Or.inr rfl, heq⟩
        · rintro ⟨hmem | rfl, hk⟩
          · exact absurd (hk.trans heq.symm)
              (hnodup.2.2 _ (List.mem_map_of_mem hmem) _ (List.mem_singleton_self _))
          · rfl
      next hne =>
        rw [ih hnodup.1]
        constructor
        · rintro ⟨hmem, hk⟩
          exact ⟨Or.inl hmem, hk⟩
        · rintro ⟨hmem | rfl, hk⟩
          · exact ⟨hmem, hk⟩
          · exact absurd hk hne

/-- The order of records that do not share numbers does not matter. -/
theorem index_eq_of_perm (hnodup : (l.map c.number).Nodup) (hperm : l.Perm l') :
    c.index l' = c.index l := by
  have hnodup' : (l'.map c.number).Nodup := (hperm.map c.number).nodup_iff.1 hnodup
  refine Keyed.ext_get? fun k => Option.ext fun a => ?_
  rw [get?_index_eq_some_iff hnodup, get?_index_eq_some_iff hnodup', hperm.mem_iff]

theorem add_index (hflaw : c.flaw? a = none) (hnew : c.number a ∉ l.map c.number) :
    c.add (c.index l) a = .ok (c.index (l ++ [a])) := by
  have hfree : (c.index l).contains (c.number a) = false := by
    rw [← Bool.not_eq_true, contains_index_iff]
    exact hnew
  rw [add, hflaw, index_concat]
  simp [hfree]

theorem add_index_of_faults (h : c.Faults l a e) : c.add (c.index l) a = .error e := by
  cases h with
  | flaw hflaw => rw [add, hflaw]
  | repeated hflaw htaken =>
      rw [add, hflaw]
      simp [contains_index_iff.2 htaken]

theorem foldlM_add_of_sound (h : c.Sound l) : l.foldlM c.add ∅ = .ok (c.index l) := by
  induction l using List.reverseRecOn with
  | nil => rfl
  | append_singleton l a ih =>
      obtain ⟨hsound, hflaw, hnew⟩ := sound_concat_iff.1 h
      rw [List.foldlM_append, ih hsound, ← add_index hflaw hnew]
      exact bind_pure (c.add (c.index l) a)

theorem foldlM_add_of_firstFault (h : c.FirstFault l e) : l.foldlM c.add ∅ = .error e := by
  obtain ⟨before, a, after, rfl, hsound, hfault⟩ := h
  rw [List.foldlM_append, foldlM_add_of_sound hsound]
  -- what comes after the fault is not looked at
  show (c.add (c.index before) a >>= fun m => after.foldlM c.add m) = .error e
  rw [add_index_of_faults hfault]
  rfl

end Check

/-! ### Static data -/

/-- The same records in another order. -/
structure FactionRecords.Rearranges (r r' : FactionRecords) : Prop where
  templates : r.templates.Perm r'.templates
  factions : r.factions.Perm r'.factions
  forms : r.forms.Perm r'.forms

namespace FactionRecords

variable {r r' : FactionRecords} {d : FactionData} {e : DataError}

/-- Factions are checked for their numbers alone. -/
def factionCheck : Check FactionId Faction where
  number := Faction.id
  flaw? _ := none
  repeated f := .duplicateFaction f.id

/-- The number of a faction that is among the records, or of no faction. -/
def Knows (r : FactionRecords) (faction : FactionId) : Prop :=
  faction = 0 ∨ faction ∈ r.factions.map Faction.id

instance (r : FactionRecords) (faction : FactionId) : Decidable (r.Knows faction) :=
  inferInstanceAs (Decidable (_ ∨ _))

/-- Templates have to belong to a known faction, or to none. -/
def templateCheck (r : FactionRecords) : Check TemplateId FactionTemplate where
  number := FactionTemplate.id
  flaw? t := if r.Knows t.faction then none else some (.unknownFaction t.id t.faction)
  repeated t := .duplicateTemplate t.id

/-- Shapeshift forms are checked for their numbers alone. -/
def formCheck : Check FormId ShapeshiftForm where
  number := ShapeshiftForm.id
  flaw? _ := none
  repeated f := .duplicateForm f.id

theorem addFaction_eq : addFaction = factionCheck.add := rfl

theorem addTemplate_eq (r : FactionRecords) :
    addTemplate (factionCheck.index r.factions) = r.templateCheck.add := by
  funext templates t
  have hknown : (t.faction ≠ 0 ∧ !(factionCheck.index r.factions).contains t.faction) ↔
      ¬ r.Knows t.faction := by
    rw [Knows, not_or, Bool.not_eq_true', ← Bool.not_eq_true, Check.contains_index_iff]
    rfl
  unfold addTemplate Check.add templateCheck
  by_cases h : r.Knows t.faction
  · rw [if_neg (fun hunknown => hknown.1 hunknown h)]
    simp [h]
  · rw [if_pos (hknown.2 h)]
    simp [h]

/-- Templates of known factions, with numbers of their own. -/
structure Accepts (r : FactionRecords) (l : List FactionTemplate) : Prop where
  known : ∀ t ∈ l, r.Knows t.faction
  nodup : (l.map FactionTemplate.id).Nodup

/-- Numbers do not repeat within a kind, and templates belong to known factions. -/
structure Consistent (r : FactionRecords) : Prop where
  factions : (r.factions.map Faction.id).Nodup
  templates : r.Accepts r.templates
  forms : (r.forms.map ShapeshiftForm.id).Nodup

/-- The fault that comes first: factions come before templates and templates before forms, each
list in its order, and of one template an unknown faction comes before a number that is taken. -/
inductive FirstFault (r : FactionRecords) : DataError → Prop
  | duplicateFaction {before after : List Faction} {f : Faction} :
      r.factions = before ++ f :: after → (before.map Faction.id).Nodup →
      f.id ∈ before.map Faction.id → FirstFault r (.duplicateFaction f.id)
  | unknownFaction {before after : List FactionTemplate} {t : FactionTemplate} :
      (r.factions.map Faction.id).Nodup → r.templates = before ++ t :: after →
      r.Accepts before → ¬ r.Knows t.faction → FirstFault r (.unknownFaction t.id t.faction)
  | duplicateTemplate {before after : List FactionTemplate} {t : FactionTemplate} :
      (r.factions.map Faction.id).Nodup → r.templates = before ++ t :: after →
      r.Accepts before → r.Knows t.faction → t.id ∈ before.map FactionTemplate.id →
      FirstFault r (.duplicateTemplate t.id)
  | duplicateForm {before after : List ShapeshiftForm} {f : ShapeshiftForm} :
      (r.factions.map Faction.id).Nodup → r.Accepts r.templates →
      r.forms = before ++ f :: after → (before.map ShapeshiftForm.id).Nodup →
      f.id ∈ before.map ShapeshiftForm.id → FirstFault r (.duplicateForm f.id)

/-! #### The three checks -/

theorem sound_factionCheck {l : List Faction} (h : (l.map Faction.id).Nodup) :
    factionCheck.Sound l :=
  Check.sound_of_nodup (fun _ => rfl) h

theorem sound_formCheck {l : List ShapeshiftForm} (h : (l.map ShapeshiftForm.id).Nodup) :
    formCheck.Sound l :=
  Check.sound_of_nodup (fun _ => rfl) h

theorem flaw?_templateCheck_eq_none_iff {t : FactionTemplate} :
    r.templateCheck.flaw? t = none ↔ r.Knows t.faction := by
  simp [templateCheck]

theorem sound_templateCheck_iff {l : List FactionTemplate} :
    r.templateCheck.Sound l ↔ r.Accepts l := by
  constructor
  · rintro ⟨hflawless, hnodup⟩
    exact ⟨fun t ht => flaw?_templateCheck_eq_none_iff.1 (hflawless t ht), hnodup⟩
  · rintro ⟨hknown, hnodup⟩
    exact ⟨fun t ht => flaw?_templateCheck_eq_none_iff.2 (hknown t ht), hnodup⟩

/-! #### Building -/

/-- Once the factions are read, templates are checked against them, and then come the forms. -/
theorem build_of_factions (h : (r.factions.map Faction.id).Nodup) :
    r.build = (r.templates.foldlM r.templateCheck.add ∅).bind fun templates =>
      (r.forms.foldlM formCheck.add ∅).map fun forms =>
        { templates, factions := factionCheck.index r.factions, forms } := by
  have hread : r.factions.foldlM addFaction ∅ = .ok (factionCheck.index r.factions) :=
    Check.foldlM_add_of_sound (sound_factionCheck h)
  unfold build
  rw [hread]
  show (r.templates.foldlM (addTemplate (factionCheck.index r.factions)) ∅ >>= _) = _
  rw [addTemplate_eq]
  rfl

/-- The static data that consistent records make. -/
def data (r : FactionRecords) : FactionData where
  templates := r.templateCheck.index r.templates
  factions := factionCheck.index r.factions
  forms := formCheck.index r.forms

theorem build_of_consistent (h : r.Consistent) : r.build = .ok r.data := by
  rw [build_of_factions h.factions,
    Check.foldlM_add_of_sound (sound_templateCheck_iff.2 h.templates),
    Check.foldlM_add_of_sound (sound_formCheck h.forms)]
  rfl

theorem build_of_firstFault (h : r.FirstFault e) : r.build = .error e := by
  cases h with
  | @duplicateFaction before after f hlist hnodup htaken =>
      have hfault : factionCheck.FirstFault r.factions (.duplicateFaction f.id) :=
        ⟨before, f, after, hlist, sound_factionCheck hnodup, .repeated rfl htaken⟩
      unfold build
      rw [addFaction_eq, Check.foldlM_add_of_firstFault hfault]
      rfl
  | @unknownFaction before after t hfactions hlist hbefore hunknown =>
      have hflaw : r.templateCheck.flaw? t = some (.unknownFaction t.id t.faction) :=
        if_neg hunknown
      have hfault : r.templateCheck.FirstFault r.templates (.unknownFaction t.id t.faction) :=
        ⟨before, t, after, hlist, sound_templateCheck_iff.2 hbefore, .flaw hflaw⟩
      rw [build_of_factions hfactions, Check.foldlM_add_of_firstFault hfault]
      rfl
  | @duplicateTemplate before after t hfactions hlist hbefore hknown htaken =>
      have hfault : r.templateCheck.FirstFault r.templates (.duplicateTemplate t.id) :=
        ⟨before, t, after, hlist, sound_templateCheck_iff.2 hbefore,
          .repeated (flaw?_templateCheck_eq_none_iff.2 hknown) htaken⟩
      rw [build_of_factions hfactions, Check.foldlM_add_of_firstFault hfault]
      rfl
  | @duplicateForm before after f hfactions htemplates hlist hnodup htaken =>
      have hfault : formCheck.FirstFault r.forms (.duplicateForm f.id) :=
        ⟨before, f, after, hlist, sound_formCheck hnodup, .repeated rfl htaken⟩
      rw [build_of_factions hfactions,
        Check.foldlM_add_of_sound (sound_templateCheck_iff.2 htemplates),
        Check.foldlM_add_of_firstFault hfault]
      rfl

/-- Records that are not consistent have a first fault. -/
theorem consistent_or_firstFault (r : FactionRecords) : r.Consistent ∨ ∃ e, r.FirstFault e := by
  rcases factionCheck.sound_or_firstFault r.factions with
    hfactions | ⟨_, before, f, after, hlist, hbefore, hfault⟩
  · have hnumbers := hfactions.nodup
    rcases r.templateCheck.sound_or_firstFault r.templates with
      htemplates | ⟨_, before, t, after, hlist, hbefore, hfault⟩
    · rw [sound_templateCheck_iff] at htemplates
      rcases formCheck.sound_or_firstFault r.forms with
        hforms | ⟨_, before, f, after, hlist, hbefore, hfault⟩
      · exact Or.inl ⟨hnumbers, htemplates, hforms.nodup⟩
      · cases hfault with
        | flaw hflaw => contradiction
        | repeated _ htaken =>
            exact Or.inr ⟨_, .duplicateForm hnumbers htemplates hlist hbefore.nodup htaken⟩
    · rw [sound_templateCheck_iff] at hbefore
      cases hfault with
      | flaw hflaw =>
          have hunknown : ¬ r.Knows t.faction := by
            rw [← flaw?_templateCheck_eq_none_iff, hflaw]
            exact Option.some_ne_none _
          exact Or.inr ⟨_, .unknownFaction hnumbers hlist hbefore hunknown⟩
      | repeated hflaw htaken =>
          have hknown : r.Knows t.faction := flaw?_templateCheck_eq_none_iff.1 hflaw
          exact Or.inr ⟨_, .duplicateTemplate hnumbers hlist hbefore hknown htaken⟩
  · cases hfault with
    | flaw hflaw => contradiction
    | repeated _ htaken => exact Or.inr ⟨_, .duplicateFaction hlist hbefore.nodup htaken⟩

theorem build_eq_ok_iff : r.build = .ok d ↔ r.Consistent ∧ d = r.data := by
  constructor
  · intro h
    rcases r.consistent_or_firstFault with hconsistent | ⟨e, hfault⟩
    · rw [build_of_consistent hconsistent] at h
      exact ⟨hconsistent, (Except.ok.inj h).symm⟩
    · rw [build_of_firstFault hfault] at h
      contradiction
  · rintro ⟨hconsistent, rfl⟩
    exact build_of_consistent hconsistent

theorem build_eq_error_iff : r.build = .error e ↔ r.FirstFault e := by
  refine ⟨fun h => ?_, build_of_firstFault⟩
  rcases r.consistent_or_firstFault with hconsistent | ⟨e', hfault⟩
  · rw [build_of_consistent hconsistent] at h
    contradiction
  · rw [build_of_firstFault hfault] at h
    rwa [← Except.error.inj h]

/-! #### Order of the records -/

theorem Rearranges.knows_iff (h : r.Rearranges r') {faction : FactionId} :
    r'.Knows faction ↔ r.Knows faction := by
  rw [Knows, Knows, (h.factions.map Faction.id).mem_iff]

theorem Rearranges.consistent (h : r.Rearranges r') (hr : r.Consistent) : r'.Consistent where
  factions := (h.factions.map Faction.id).nodup_iff.1 hr.factions
  templates := {
    known := fun t ht => h.knows_iff.2 (hr.templates.known t (h.templates.mem_iff.2 ht))
    nodup := (h.templates.map FactionTemplate.id).nodup_iff.1 hr.templates.nodup }
  forms := (h.forms.map ShapeshiftForm.id).nodup_iff.1 hr.forms

theorem Rearranges.data_eq (h : r.Rearranges r') (hr : r.Consistent) : r'.data = r.data := by
  have htemplates : r'.templateCheck.index r'.templates = r.templateCheck.index r.templates :=
    Check.index_eq_of_perm (c := r.templateCheck) hr.templates.nodup h.templates
  unfold data
  rw [htemplates, Check.index_eq_of_perm (c := factionCheck) hr.factions h.factions,
    Check.index_eq_of_perm (c := formCheck) hr.forms h.forms]

/-! #### Look-ups -/

section

variable (h : r.build = .ok d)

include h

theorem faction?_eq_some_iff {id : FactionId} {f : Faction} :
    d.faction? id = some f ↔ f ∈ r.factions ∧ f.id = id := by
  obtain ⟨hconsistent, rfl⟩ := build_eq_ok_iff.1 h
  exact Check.get?_index_eq_some_iff (c := factionCheck) hconsistent.factions

theorem form?_eq_some_iff {id : FormId} {f : ShapeshiftForm} :
    d.form? id = some f ↔ f ∈ r.forms ∧ f.id = id := by
  obtain ⟨hconsistent, rfl⟩ := build_eq_ok_iff.1 h
  exact Check.get?_index_eq_some_iff (c := formCheck) hconsistent.forms

theorem template?_eq_some_iff {id : TemplateId} {t : FactionTemplate} :
    d.template? id = some t ↔ id ≠ 0 ∧ t ∈ r.templates ∧ t.id = id := by
  obtain ⟨hconsistent, rfl⟩ := build_eq_ok_iff.1 h
  rw [FactionData.template?]
  split
  next hzero => simp [hzero]
  next hne =>
    rw [and_iff_right hne]
    exact Check.get?_index_eq_some_iff (c := r.templateCheck) hconsistent.templates.nodup

/-- The faction of a template is among the records. -/
theorem exists_factionOf? {t : FactionTemplate} (ht : t ∈ r.templates) (hne : t.faction ≠ 0) :
    ∃ f ∈ r.factions, f.id = t.faction ∧ d.factionOf? t = some f := by
  obtain ⟨hconsistent, -⟩ := build_eq_ok_iff.1 h
  obtain ⟨f, hf, hid⟩ := List.mem_map.1 ((hconsistent.templates.known t ht).resolve_left hne)
  exact ⟨f, hf, hid, (faction?_eq_some_iff h).2 ⟨hf, hid⟩⟩

theorem build_eq_of_rearranges (hr : r.Rearranges r') : r'.build = .ok d := by
  obtain ⟨hconsistent, rfl⟩ := build_eq_ok_iff.1 h
  rw [build_of_consistent (hr.consistent hconsistent), hr.data_eq hconsistent]

end

/-- Static data is built exactly from consistent records.  By its number exactly the record of that
number is found, template 0 excepted, the faction of a template is found, and records in another
order make the same static data.  Of records that are not consistent the first fault is reported. -/
theorem build_law (r : FactionRecords) :
    ((∃ d, r.build = .ok d) ↔ r.Consistent) ∧
      (∀ d, r.build = .ok d →
        (∀ id f, d.faction? id = some f ↔ f ∈ r.factions ∧ f.id = id) ∧
        (∀ id f, d.form? id = some f ↔ f ∈ r.forms ∧ f.id = id) ∧
        (∀ id t, d.template? id = some t ↔ id ≠ 0 ∧ t ∈ r.templates ∧ t.id = id) ∧
        (∀ t ∈ r.templates, t.faction ≠ 0 →
          ∃ f ∈ r.factions, f.id = t.faction ∧ d.factionOf? t = some f) ∧
        ∀ r', r.Rearranges r' → r'.build = .ok d) ∧
      ∀ e, r.build = .error e ↔ r.FirstFault e := by
  refine ⟨?_, fun d h => ⟨?_, ?_, ?_, ?_, ?_⟩, ?_⟩
  · constructor
    · rintro ⟨d, h⟩
      exact (build_eq_ok_iff.1 h).1
    · intro hconsistent
      exact ⟨r.data, build_of_consistent hconsistent⟩
  · intro id f
    exact faction?_eq_some_iff h
  · intro id f
    exact form?_eq_some_iff h
  · intro id t
    exact template?_eq_some_iff h
  · intro t
    exact exists_factionOf? h
  · intro r'
    exact build_eq_of_rearranges h
  · intro e
    exact build_eq_error_iff

end FactionRecords

/-- Records of every kind, given one after another. -/
def charter : FactionRecords :=
  (((FactionRecords.template {} { id := 11, faction := 72 }).faction { id := 72 }).form
    { id := 3 }).faction { id := 73, reputationIndex := some 5 }

/-- The same records, given in another order. -/
def reissue : FactionRecords :=
  (((FactionRecords.faction {} { id := 73, reputationIndex := some 5 }).form { id := 3 }).faction
    { id := 72 }).template { id := 11, faction := 72 }

/-- Either order makes the same static data.  One more template, which repeats a number and belongs
to an unknown faction, is reported for the faction. -/
theorem build_law_charter :
    charter.Consistent ∧ charter.Rearranges reissue ∧
      (∃ d, charter.build = .ok d ∧ reissue.build = .ok d ∧ d.faction? 72 = some { id := 72 } ∧
        d.template? 11 = some { id := 11, faction := 72 }) ∧
      (charter.template { id := 11, faction := 99 }).build = .error (.unknownFaction 11 99) := by
  have hconsistent : charter.Consistent := ⟨by decide, ⟨by decide, by decide⟩, by decide⟩
  have hreissue : charter.Rearranges reissue := ⟨.refl _, .swap _ _ _, .refl _⟩
  refine ⟨hconsistent, hreissue, ?_, ?_⟩
  · obtain ⟨hbuilds, hbuilt, -⟩ := FactionRecords.build_law charter
    obtain ⟨d, hd⟩ := hbuilds.2 hconsistent
    obtain ⟨hfaction, -, htemplate, -, horder⟩ := hbuilt d hd
    exact ⟨d, hd, horder reissue hreissue, (hfaction _ _).2 (by decide),
      (htemplate _ _).2 (by decide)⟩
  · let more := charter.template { id := 11, faction := 99 }
    have hlist : more.templates = charter.templates ++ [{ id := 11, faction := 99 }] := rfl
    have hbefore : more.Accepts charter.templates := ⟨by decide, by decide⟩
    have hfault : more.FirstFault (.unknownFaction 11 99) :=
      .unknownFaction (by decide) hlist hbefore (by decide)
    obtain ⟨-, -, hreports⟩ := FactionRecords.build_law more
    exact (hreports _).2 hfault

end Rapport
