import Mathlib.Data.List.Basic
import Rapport.LoadError
import Rapport.Proofs.Json.Member

/-!
# Records with fields left out

The document of a record may leave out members, give them in any order and have members that name no
field.  A field that is left out then has its default, and the other fields have what the document
says (`TakesDefaults`).  A document in which a field occurs twice is not loaded.

The step is the reading of one field, which sets that field and no other
(`Json.Record.Separate`).  What the whole run sets follows by induction on the fields.
-/

namespace Rapport.Json.Record

open Member

variable {ρ : Type} {r : Record ρ}

/-! ### The fields of a record -/

/-- Each field can be read into any record, and reading it changes no other field. -/
def Separate (r : Record ρ) : Prop :=
  ∀ f ∈ r.fields, ∀ x y, ∃ z, f.read? (f.write x) y = some z ∧
    ∀ g ∈ r.fields, g.write z = g.write (if g.name = f.name then x else y)

/-- Records with the same fields are equal. -/
theorem Faithful.eq_of_write_eq (h : r.Faithful) {x y : ρ}
    (hxy : ∀ f ∈ r.fields, f.write x = f.write y) : x = y := by
  have hread (x : ρ) : (r.fields.map fun f => (f, f.write x)).foldlM
      (fun z e => e.1.read? e.2 z) r.start = some x := by
    rw [List.foldlM_map]
    exact h.rebuild x
  have hmap : (r.fields.map fun f => (f, f.write x)) = r.fields.map fun f => (f, f.write y) :=
    List.map_congr_left fun f hf => by rw [hxy f hf]
  exact Option.some.inj ((hread x).symm.trans (hmap ▸ hread y))

/-- The record `w` is `v` but for the fields that are not kept; those are as in `default`.  Fields
are compared by their JSON forms. -/
def Keeps (r : Record ρ) (kept : String → Bool) (v default w : ρ) : Prop :=
  ∀ f ∈ r.fields, f.write w = f.write (if kept f.name then v else default)

/-- Reads a field from what is written for it in `v`, if it is kept. -/
def readKept? (kept : String → Bool) (v x : ρ) (f : Field ρ) : Option ρ :=
  if kept f.name then f.read? (f.write v) x else some x

/-- One field. -/
theorem Separate.readKept? (h : r.Separate) (kept : String → Bool) (v x : ρ) {f : Field ρ}
    (hf : f ∈ r.fields) :
    ∃ y, Record.readKept? kept v x f = some y ∧
      ∀ g ∈ r.fields, g.write y = g.write (if g.name = f.name ∧ kept g.name then v else x) := by
  cases hkept : kept f.name with
  | true =>
      obtain ⟨y, hread, hy⟩ := h f hf v x
      refine ⟨y, by simp [Record.readKept?, hkept, hread], fun g hg => ?_⟩
      rw [hy g hg]
      by_cases hname : g.name = f.name <;> simp [hname, hkept]
  | false =>
      refine ⟨x, by simp [Record.readKept?, hkept], fun g _ => ?_⟩
      by_cases hname : g.name = f.name <;> simp [hname, hkept]

/-- Of the fields that are read, those that are kept are set. -/
theorem Separate.foldlM_readKept? (h : r.Separate) (kept : String → Bool) (v x : ρ)
    {fs : List (Field ρ)} (hfs : ∀ f ∈ fs, f ∈ r.fields) :
    ∃ y, fs.foldlM (Record.readKept? kept v) x = some y ∧
      ∀ g ∈ r.fields,
        g.write y = g.write (if g.name ∈ fs.map Field.name ∧ kept g.name then v else x) := by
  induction fs generalizing x with
  | nil => exact ⟨x, rfl, by simp⟩
  | cons f fs ih =>
      obtain ⟨y, hread, hy⟩ := h.readKept? kept v x (hfs f List.mem_cons_self)
      obtain ⟨z, hrest, hz⟩ := ih y fun f' hf' => hfs f' (List.mem_cons_of_mem _ hf')
      refine ⟨z, by rw [List.foldlM_cons, hread]; exact hrest, fun g hg => ?_⟩
      simp only [List.map_cons, List.mem_cons, hz g hg]
      -- what a later field of the name has set stands; otherwise what the first field has set
      by_cases hlater : g.name ∈ fs.map Field.name ∧ kept g.name
      · rw [if_pos hlater, if_pos ⟨Or.inr hlater.1, hlater.2⟩]
      · rw [if_neg hlater, hy g hg]
        congr 2
        grind

/-! ### The members of a document -/

/-- The members that are written for the kept fields of a record. -/
def keptMembers (r : Record ρ) (kept : String → Bool) (v : ρ) : List Member :=
  (r.fields.filter fun f => kept f.name).map fun f => written f.name (f.write v)

/-- A record is read from the members of a document field by field. -/
theorem read?_document (r : Record ρ) {ms : List Member} (h : ∀ m ∈ ms, m.content?.isSome) :
    (parse? (document ms)).bind r.read? =
      r.fields.foldlM (readMember? r.partly (ms.filterMap content?)) r.start := by
  have hmembers := members?_document h
  rw [parse?_document fun m hm => isSome_read?_of_content? (h m hm)] at hmembers ⊢
  rw [Option.bind_some] at hmembers ⊢
  change (members? (.object _)).bind _ = _
  rw [hmembers, Option.bind_some]

theorem Faithful.content?_written (h : r.Faithful) {f : Field ρ} (hf : f ∈ r.fields) (v : ρ) :
    (written f.name (f.write v)).content? = some (f.name, f.write v) :=
  Member.content?_written (le_toNat_of_isWord (h.isWord_name f hf)) (h.plain_write f hf v)

/-- The member names no field of the record. -/
def IsForeign (r : Record ρ) (m : Member) : Prop :=
  ∃ name j, m.content? = some (name, j) ∧ name ∉ r.fields.map Field.name

variable {v : ρ} {kept : String → Bool} {foreign ms : List Member}

theorem Faithful.isSome_content? (h : r.Faithful) (hforeign : ∀ m ∈ foreign, r.IsForeign m)
    (hms : ms.Perm (r.keptMembers kept v ++ foreign)) : ∀ m ∈ ms, m.content?.isSome := by
  intro m hm
  rcases List.mem_append.1 (hms.mem_iff.1 hm) with hm | hm
  · obtain ⟨f, hf, rfl⟩ := List.mem_map.1 hm
    rw [h.content?_written (List.mem_filter.1 hf).1 v]
    rfl
  · obtain ⟨name, j, hcontent, -⟩ := hforeign m hm
    rw [hcontent]
    rfl

theorem Faithful.filterMap_keptMembers (h : r.Faithful) (kept : String → Bool) (v : ρ) :
    (r.keptMembers kept v).filterMap content? =
      (r.fields.filter fun f => kept f.name).map fun f => (f.name, f.write v) := by
  rw [keptMembers, List.filterMap_map, List.filterMap_eq_map_iff_forall_eq_some]
  exact fun f hf => h.content?_written (List.mem_filter.1 hf).1 v

theorem filter_foreign_eq_nil (hforeign : ∀ m ∈ foreign, r.IsForeign m) {f : Field ρ}
    (hf : f ∈ r.fields) : (foreign.filterMap content?).filter (fun e => e.1 = f.name) = [] := by
  refine List.filter_eq_nil_iff.2 fun e he heq => ?_
  obtain ⟨m, hm, hcontent⟩ := List.mem_filterMap.1 he
  obtain ⟨name, j, hcontent', hname⟩ := hforeign m hm
  obtain rfl := Option.some.inj (hcontent'.symm.trans hcontent)
  exact hname (List.mem_map.2 ⟨f, hf, (of_decide_eq_true heq).symm⟩)

/-- Among the members of the document there is one for each kept field, and none for any other. -/
theorem Faithful.filter_contents (h : r.Faithful) (hforeign : ∀ m ∈ foreign, r.IsForeign m)
    (hms : ms.Perm (r.keptMembers kept v ++ foreign)) {f : Field ρ} (hf : f ∈ r.fields) :
    (ms.filterMap content?).filter (fun e => e.1 = f.name) =
      if kept f.name then [(f.name, f.write v)] else [] := by
  have hperm := (hms.filterMap content?).filter fun e => e.1 = f.name
  rw [List.filterMap_append, List.filter_append, h.filterMap_keptMembers,
    filter_foreign_eq_nil hforeign hf, List.append_nil] at hperm
  cases hkept : kept f.name with
  | true =>
      have hnames : ((r.fields.filter fun g => kept g.name).map Field.name).Nodup :=
        h.nodup_names.sublist (List.filter_sublist.map _)
      rw [filter_members_eq hnames (List.mem_filter.2 ⟨hf, hkept⟩)] at hperm
      exact List.perm_singleton.1 hperm
  | false =>
      have hname : f.name ∉ (r.fields.filter fun g => kept g.name).map Field.name := by
        intro hin
        obtain ⟨g, hg, heq⟩ := List.mem_map.1 hin
        rw [← heq, (List.mem_filter.1 hg).2] at hkept
        cases hkept
      rw [filter_members_eq_nil hname] at hperm
      exact List.perm_nil.1 hperm

/-- The document of some members of a record and of foreign ones is read as the record with the
other fields as they are at the start. -/
theorem Faithful.read?_of_perm (h : r.Faithful) (hs : r.Separate) (hpartly : r.partly = true)
    (hforeign : ∀ m ∈ foreign, r.IsForeign m)
    (hms : ms.Perm (r.keptMembers kept v ++ foreign)) :
    ∃ w, (parse? (document ms)).bind r.read? = some w ∧ r.Keeps kept v r.start w := by
  obtain ⟨w, hread, hw⟩ := hs.foldlM_readKept? kept v r.start fun f hf => hf
  refine ⟨w, ?_, fun f hf => ?_⟩
  · rw [read?_document r (h.isSome_content? hforeign hms), ← hread]
    refine foldlM_congr (fun f hf x => ?_) r.start
    rw [readMember?, h.filter_contents hforeign hms hf, Record.readKept?]
    cases kept f.name <;> simp [hpartly]
  · rw [hw f hf]
    simp [List.mem_map_of_mem hf]

/-- One field that cannot be read makes the record unreadable. -/
theorem foldlM_eq_none {α β : Type} {f : β → α → Option β} {l : List α} {a : α} (ha : a ∈ l)
    (h : ∀ b, f b a = none) (b : β) : l.foldlM f b = none := by
  induction l generalizing b with
  | nil => cases ha
  | cons a' l ih =>
      rw [List.foldlM_cons]
      rcases List.mem_cons.1 ha with rfl | ha
      · rw [h]
        rfl
      · exact Option.bind_eq_none_iff.2 fun c _ => ih ha c

/-- A document in which two members name one field is not read. -/
theorem read?_of_twice (r : Record ρ) {f : Field ρ} (hf : f ∈ r.fields) {m₁ m₂ : Member}
    {j₁ j₂ : Json} (h₁ : m₁.content? = some (f.name, j₁)) (h₂ : m₂.content? = some (f.name, j₂))
    {others : List Member} (hothers : ∀ m ∈ others, m.content?.isSome)
    (hms : ms.Perm (m₁ :: m₂ :: others)) : (parse? (document ms)).bind r.read? = none := by
  have hall : ∀ m ∈ ms, m.content?.isSome := by
    intro m hm
    rcases List.mem_cons.1 (hms.mem_iff.1 hm) with rfl | hm
    · simp [h₁]
    rcases List.mem_cons.1 hm with rfl | hm
    · simp [h₂]
    · exact hothers m hm
  have htwice (x : ρ) : readMember? r.partly (ms.filterMap content?) x f = none := by
    have hperm := (hms.filterMap content?).filter fun e => e.1 = f.name
    rw [List.filterMap_cons_some h₁, List.filterMap_cons_some h₂] at hperm
    -- there are two at least, whatever the other members are
    have hlength := hperm.length_eq
    simp only [List.filter_cons, decide_true, if_true, List.length_cons] at hlength
    unfold readMember?
    split
    next hnil => simp [hnil] at hlength
    next hone => simp [hone] at hlength
    next => rfl
  rw [read?_document r hall, foldlM_eq_none hf htwice]

end Rapport.Json.Record

namespace Rapport

open Json Member

/-- Documents of the record may leave out fields, which are then as in `default`. -/
structure TakesDefaults {ρ : Type} [Codec ρ] (r : Record ρ) (default : ρ) : Prop where
  /-- What is written for a value is the document of all its members. -/
  whole : ∀ v : ρ, encodeText v = document (r.keptMembers (fun _ => true) v)
  /-- The fields make up the value. -/
  settled : ∀ v w : ρ, (∀ f ∈ r.fields, f.write v = f.write w) → v = w
  /-- The members that are kept may stand in any order and among foreign members; the fields without
  a member are as in `default`. -/
  filled : ∀ (v : ρ) (kept : String → Bool) (foreign ms : List Member),
    (∀ m ∈ foreign, r.IsForeign m) → ms.Perm (r.keptMembers kept v ++ foreign) →
      ∃ w : ρ, load (document ms) = .ok w ∧ r.Keeps kept v default w
  /-- A document in which two members name one field is not loaded. -/
  repeated : ∀ f ∈ r.fields, ∀ (m₁ m₂ : Member) (j₁ j₂ : Json) (others ms : List Member),
    m₁.content? = some (f.name, j₁) → m₂.content? = some (f.name, j₂) →
      (∀ m ∈ others, m.content?.isSome) → ms.Perm (m₁ :: m₂ :: others) →
        (load (document ms) : Except LoadError ρ) = .error .malformed

/-- What a record that may be written in part starts from are its defaults. -/
theorem Json.Record.Faithful.takesDefaults {ρ : Type} {r : Record ρ} (h : r.Faithful)
    (hs : r.Separate) (hpartly : r.partly = true) : @TakesDefaults ρ r.codec r r.start :=
  letI := r.codec
  { whole := fun v => by
      change (r.write v).render = _
      rw [write, ← document_written, List.map_map, keptMembers, List.filter_true]
      rfl
    settled := fun v w => h.eq_of_write_eq
    filled := fun v kept foreign ms hforeign hms => by
      obtain ⟨w, hread, hw⟩ := h.read?_of_perm hs hpartly hforeign hms
      refine ⟨w, ?_, hw⟩
      have hdecode : decodeText? (document ms) = some w := hread
      rw [load, hdecode]
    repeated := fun f hf m₁ m₂ j₁ j₂ others ms h₁ h₂ hothers hms => by
      have hdecode : (decodeText? (document ms) : Option ρ) = none :=
        r.read?_of_twice hf h₁ h₂ hothers hms
      rw [load, hdecode] }

end Rapport
