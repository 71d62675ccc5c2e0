import Rapport.Json.Record
import Rapport.Proofs.Flag.Text
import Rapport.Proofs.Json.Document

/-!
# Values that survive a document

A codec is faithful if it is lawful and writes nothing but plain values (`FaithfulCodec`).  Then the
value is read back not only from its JSON form but also from the text of that form
(`decodeText?_encodeText`).

The general codecs are faithful whenever the codecs that they are built from are.  An optional value
asks for more, because `null` is taken: no value of the type may be written as `null`
(`NeverNull`).  A record is faithful if its fields have different names and writing them all one
after another into the start value rebuilds the record (`Json.Record.Faithful`).
-/

namespace Rapport

open Json Text

/-- What is written is plain, and is read back. -/
class FaithfulCodec (α : Type) [Codec α] : Prop extends LawfulCodec α where
  plain_encode : ∀ a : α, (encode a).Plain

/-- No value is written as `null`. -/
class NeverNull (α : Type) [Codec α] : Prop where
  encode_ne_null : ∀ a : α, encode a ≠ .null

/-- A value is read back from its text. -/
theorem decodeText?_encodeText {α : Type} [Codec α] [FaithfulCodec α] (a : α) :
    decodeText? (encodeText a) = some a := by
  rw [decodeText?, encodeText, parse?_render (FaithfulCodec.plain_encode a), Option.bind_some,
    LawfulCodec.decode?_encode]

/-- Nothing else is read from its text. -/
theorem eq_of_decodeText? {α : Type} [Codec α] [FaithfulCodec α] {a b : α}
    (h : decodeText? (encodeText a) = some b) : b = a :=
  Option.some.inj (h.symm.trans (decodeText?_encodeText a))

/-! ### Plain values -/

namespace Json

theorem plain_ofText {s : String} (h : ∀ c ∈ s.toList, 0x20 ≤ c.toNat) : (ofText s).Plain :=
  .string (Quoted.plain_map_char h)

theorem plain_ofMembers {members : List (String × Json)}
    (hnames : ∀ m ∈ members, ∀ c ∈ m.1.toList, 0x20 ≤ c.toNat)
    (hvalues : ∀ m ∈ members, m.2.Plain) : (ofMembers members).Plain := by
  refine .object ?_ ?_
  · rw [List.forall_mem_map]
    exact fun m hm => Quoted.plain_map_char (hnames m hm)
  · rw [List.forall_mem_map]
    exact hvalues

theorem le_toNat_of_isWord {s : String} (h : isWord s = true) :
    ∀ c ∈ s.toList, 0x20 ≤ c.toNat := by
  intro c hc
  have hbounds := bounds_of_isWord h hc
  omega

end Json

/-- Reading each of a list of written elements gives the list back. -/
theorem mapM_map_eq_some {α β : Type} {f : α → β} {g : β → Option α} {l : List α}
    (h : ∀ a ∈ l, g (f a) = some a) : (l.map f).mapM g = some l := by
  induction l with
  | nil => rfl
  | cons a l ih =>
      rw [List.map_cons, List.mapM_cons, h a List.mem_cons_self,
        ih fun b hb => h b (List.mem_cons_of_mem _ hb)]
      rfl

namespace Codec

/-! ### Single values -/

instance : FaithfulCodec Bool where
  decode?_encode _ := rfl
  plain_encode b := .bool b

instance (priority := low) {ν : Type} [Numbered ν] : FaithfulCodec ν where
  decode?_encode x := by simp [encode, decode?, ofNat, nat?]
  plain_encode _ := .number rfl

instance (priority := low) {ν : Type} [Numbered ν] : NeverNull ν where
  encode_ne_null _ := Json.noConfusion

instance : FaithfulCodec Int32 where
  decode?_encode i := by
    have hbounds : Int32.minValue.toInt ≤ i.toInt ∧ i.toInt ≤ Int32.maxValue.toInt :=
      ⟨Int32.minValue_le_toInt i, Int32.toInt_le i⟩
    simp only [encode, decode?, ofInt, int?, Number.int?_ofInt, Option.bind_some]
    rw [if_pos hbounds, Int32.ofInt_toInt]
  plain_encode _ := .number rfl

/-- A value that is written by name. -/
theorem faithful_ofNamed (α : Type) [Named α] [LawfulNamed α] [WordNamed α] :
    @FaithfulCodec α (ofNamed α) :=
  letI := ofNamed α
  { decode?_encode := fun a => by simp [encode, decode?, ofText]
    plain_encode := fun a => plain_ofText (le_toNat_of_isWord (WordNamed.isWord_name a)) }

instance {φ : Type} [Flag φ] [LawfulFlag φ] : FaithfulCodec (FlagSet φ) where
  decode?_encode s := by simp [encode, decode?, ofText, text?, FlagSet.ofText?_text]
  plain_encode s := plain_ofText s.le_toNat_of_mem_text

instance {φ : Type} [Flag φ] : NeverNull (FlagSet φ) where
  encode_ne_null _ := Json.noConfusion

/-! ### Collections -/

variable {α κ : Type} [Codec α] [Numbered κ]

instance [FaithfulCodec α] [NeverNull α] : FaithfulCodec (Option α) where
  decode?_encode
    | none => rfl
    | some a => by
      have hread := LawfulCodec.decode?_encode a
      simp only [encode, decode?] at *
      split
      next hnull => exact absurd hnull (NeverNull.encode_ne_null a)
      next => rw [hread, Option.map_some]
  plain_encode
    | none => .null
    | some a => FaithfulCodec.plain_encode a

instance [FaithfulCodec α] : FaithfulCodec (List α) where
  decode?_encode _ := mapM_map_eq_some fun a _ => LawfulCodec.decode?_encode a
  plain_encode _ := .array (List.forall_mem_map.2 fun a _ => FaithfulCodec.plain_encode a)

instance {n : Nat} [FaithfulCodec α] : FaithfulCodec (Vector α n) where
  decode?_encode v := by
    have hread : (decode? (encode v) : Option (List α)) = some v.toList :=
      LawfulCodec.decode?_encode v.toList
    have hsize : v.toList.toArray.size = n := v.size_toArray
    change (decode? (encode v) : Option (List α)).bind _ = _
    rw [hread, Option.bind_some, dif_pos hsize]
    rfl
  plain_encode v := FaithfulCodec.plain_encode v.toList

theorem plain_keyName (k : κ) : Quoted.Plain (keyName k) := by
  refine Quoted.plain_map_char fun c hc => ?_
  have hdigits : ∀ d < 10, 0x20 ≤ (Nat.digitChar d).toNat := by decide
  obtain ⟨d, hd, rfl⟩ := exists_of_mem_toDigits (by decide) hc
  exact hdigits d hd

theorem key?_keyName (k : κ) : key? (keyName k) = some k := by
  rw [key?, keyName, Quoted.plain?_map_char, Option.bind_some, ofDecimal?_toDigits,
    Option.bind_some, Numbered.ofNat?_toNat]

instance [FaithfulCodec α] : FaithfulCodec (Keyed κ α) where
  decode?_encode m := by
    have hread : (m.entries.map fun (k, a) => (keyName k, encode a)).mapM
        (fun (name, value) => do return (← key? name, ← decode? value)) = some m.entries :=
      mapM_map_eq_some fun (k, a) _ => by
        simp only [key?_keyName, LawfulCodec.decode?_encode]
        rfl
    simp only [encode, decode?]
    rw [hread, Option.map_some, Keyed.ofList_entries]
  plain_encode m := by
    refine .object ?_ ?_
    · exact List.forall_mem_map.2 fun e _ => plain_keyName e.1
    · exact List.forall_mem_map.2 fun e _ => FaithfulCodec.plain_encode e.2

instance : FaithfulCodec (KeySet κ) where
  decode?_encode m := by
    have hread : (decode? (encode m) : Option (List κ)) = some m.keys :=
      LawfulCodec.decode?_encode m.keys
    have hkeys : m.keys.map (·, ()) = m.entries := by simp [Keyed.keys, Function.comp_def]
    change (decode? (encode m) : Option (List κ)).map _ = _
    rw [hread, Option.map_some, hkeys, Keyed.ofList_entries]
  plain_encode m := FaithfulCodec.plain_encode m.keys

end Codec

/-! ### Records -/

namespace Json

namespace Field

variable {ρ α : Type} [Codec α] {name : String} {get : ρ → α} {set : ρ → α → ρ}

@[simp] theorem read?_of [LawfulCodec α] (x y : ρ) :
    (Field.of name get set).read? ((Field.of name get set).write x) y = some (set y (get x)) := by
  simp [Field.of]

@[simp] theorem read?_optional [LawfulCodec α] (x y : ρ) :
    (Field.optional name get set).read? ((Field.optional name get set).write x) y =
      some (set y (get x)) := by
  simp [Field.optional, Field.of]

@[simp] theorem plain_write_of [FaithfulCodec α] (x : ρ) :
    ((Field.of name get set).write x).Plain :=
  FaithfulCodec.plain_encode (get x)

@[simp] theorem plain_write_optional [FaithfulCodec α] (x : ρ) :
    ((Field.optional name get set).write x).Plain :=
  FaithfulCodec.plain_encode (get x)

end Field

namespace Record

variable {ρ : Type}

/-- The fields of a record make it up, and each is written as a plain value under a name of its
own. -/
structure Faithful (r : Record ρ) : Prop where
  nodup_names : (r.fields.map Field.name).Nodup := by decide
  isWord_name : ∀ f ∈ r.fields, isWord f.name = true := by decide
  plain_write : ∀ f ∈ r.fields, ∀ x, (f.write x).Plain
  /-- Reading all fields into the start value gives the record that they were written for. -/
  rebuild : ∀ x, r.fields.foldlM (fun y f => f.read? (f.write x) y) r.start = some x

theorem members?_ofMembers (members : List (String × Json)) :
    (ofMembers members).members? = some members := by
  simp only [ofMembers, members?]
  exact mapM_map_eq_some fun m _ => by simp

theorem filter_members_eq_nil {fields : List (Field ρ)} {name : String}
    (hname : name ∉ fields.map Field.name) (x : ρ) :
    (fields.map fun g => (g.name, g.write x)).filter (fun m => m.1 = name) = [] := by
  refine List.filter_eq_nil_iff.2 (List.forall_mem_map.2 fun g hg heq => hname ?_)
  exact List.mem_map.2 ⟨g, hg, of_decide_eq_true heq⟩

/-- Among the members that are written for a record there is one for each field. -/
theorem filter_members_eq {fields : List (Field ρ)} (hnames : (fields.map Field.name).Nodup)
    {f : Field ρ} (hf : f ∈ fields) (x : ρ) :
    (fields.map fun g => (g.name, g.write x)).filter (fun m => m.1 = f.name) =
      [(f.name, f.write x)] := by
  induction fields with
  | nil => cases hf
  | cons g fields ih =>
      obtain ⟨hg, hnodup⟩ := List.nodup_cons.1 hnames
      rw [List.map_cons, List.filter_cons]
      rcases List.mem_cons.1 hf with rfl | hf
      · simp [filter_members_eq_nil hg]
      · have hne : g.name ≠ f.name := fun heq => hg (heq ▸ List.mem_map_of_mem hf)
        simpa [hne] using ih hnodup hf

/-- Reading depends on nothing but what each field makes of what was read before it. -/
theorem foldlM_congr {α β : Type} {f g : β → α → Option β} {l : List α}
    (h : ∀ a ∈ l, ∀ b, f b a = g b a) (b : β) : l.foldlM f b = l.foldlM g b := by
  induction l generalizing b with
  | nil => rfl
  | cons a l ih =>
      rw [List.foldlM_cons, List.foldlM_cons, h a List.mem_cons_self]
      congr 1
      funext c
      exact ih (fun a' ha' => h a' (List.mem_cons_of_mem _ ha')) c

theorem Faithful.read?_write {r : Record ρ} (h : r.Faithful) (x : ρ) :
    r.read? (r.write x) = some x := by
  have hread (f : Field ρ) (hf : f ∈ r.fields) (y : ρ) :
      readMember? r.partly (r.fields.map fun g => (g.name, g.write x)) y f =
        f.read? (f.write x) y := by
    rw [readMember?, filter_members_eq h.nodup_names hf]
  change ((ofMembers _).members?.bind _) = _
  rw [members?_ofMembers, Option.bind_some, foldlM_congr hread, h.rebuild]

theorem Faithful.plain {r : Record ρ} (h : r.Faithful) (x : ρ) : (r.write x).Plain := by
  refine plain_ofMembers ?_ ?_
  · rw [List.forall_mem_map]
    exact fun f hf => le_toNat_of_isWord (h.isWord_name f hf)
  · rw [List.forall_mem_map]
    exact fun f hf => h.plain_write f hf x

theorem Faithful.codec {r : Record ρ} (h : r.Faithful) : @FaithfulCodec ρ r.codec :=
  letI := r.codec
  { decode?_encode := h.read?_write
    plain_encode := h.plain }

theorem neverNull_codec (r : Record ρ) : @NeverNull ρ r.codec :=
  letI := r.codec
  { encode_ne_null := fun _ => Json.noConfusion }

end Record

end Json

end Rapport
