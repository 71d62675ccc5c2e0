import Rapport.Proofs.Json.Append
import Rapport.Proofs.Json.Codec

/-!
# Documents put together from members

An object may be written by hand: its members in any order, with blanks and escapes, and with values
of any kind.  `Json.Member` is a member as a text spells it.  The document of a list of members is
read as the object of what each of them spells (`Json.Member.parse?_document`), whether the values
are plain or not.
-/

namespace Rapport.Json

/-- A member of an object as a text spells it. -/
structure Member where
  /-- What stands in front of the colon. -/
  name : String
  /-- What stands behind the colon. -/
  value : String

namespace Member

/-- The member as it is written for a name and a value. -/
def written (name : String) (j : Json) : Member := ⟨(ofText name).render, j.render⟩

/-- The text of the member. -/
def text (m : Member) : String := m.name ++ ":" ++ m.value

/-- The document of the object that has the given members. -/
def document (ms : List Member) : String := "\x7b" ++ ",".intercalate (ms.map text) ++ "\x7d"

/-- The name and the value as they are spelled. -/
def read? (m : Member) : Option (Quoted × Json) :=
  match Token.scan? m.name.toList with
  | some [.string s] => (parse? m.value).map (s, ·)
  | _ => none

/-- The name and the value.  Blanks and escapes make no difference, and the value may be any
document, but the name has to be readable. -/
def content? (m : Member) : Option (String × Json) :=
  m.read?.bind fun (s, j) => s.text?.map (·, j)

theorem read?_eq_some_iff {m : Member} {s : Quoted} {j : Json} :
    m.read? = some (s, j) ↔
      Token.scan? m.name.toList = some [.string s] ∧ parse? m.value = some j := by
  unfold read?
  split
  next s' hs =>
    simp only [hs, Option.map_eq_some_iff, Prod.mk.injEq, Option.some.injEq, List.cons.injEq,
      Token.string.injEq, and_true]
    grind
  next hs => simp_all

theorem content?_eq_some_iff {m : Member} {name : String} {j : Json} :
    m.content? = some (name, j) ↔ ∃ s, m.read? = some (s, j) ∧ s.text? = some name := by
  simp only [content?, Option.bind_eq_some_iff, Option.map_eq_some_iff, Prod.exists, Prod.mk.injEq]
  grind

theorem exists_read?_of_content? {m : Member} (h : m.content?.isSome) :
    ∃ s j name, m.read? = some (s, j) ∧ s.text? = some name ∧ m.content? = some (name, j) := by
  obtain ⟨⟨name, j⟩, he⟩ := Option.isSome_iff_exists.1 h
  obtain ⟨s, hs, hname⟩ := content?_eq_some_iff.1 he
  exact ⟨s, j, name, hs, hname, he⟩

theorem isSome_read?_of_content? {m : Member} (h : m.content?.isSome) : m.read?.isSome := by
  obtain ⟨s, j, name, hm, -⟩ := exists_read?_of_content? h
  rw [hm]
  rfl

/-- One member, wherever its name may follow. -/
theorem run_text {m : Member} {s : Quoted} {j : Json} (h : m.read? = some (s, j)) {r : Reader}
    {done : List (Quoted × Json)} {around : List Frame}
    (hr : r.step? (.string s) = some (.nameRead done s around)) {more : List Char}
    (hmore : Ends more) :
    r.run (m.text.toList ++ more) = Reader.run (.memberRead ((s, j) :: done) around) more := by
  obtain ⟨hname, hvalue⟩ := read?_eq_some_iff.1 h
  have htext : m.text.toList ++ more = m.name.toList ++ ':' :: (m.value.toList ++ more) := by
    simp [text]
  have hstep : [Token.string s].foldlM Reader.step? r = some (.nameRead done s around) := by
    simp [hr]
  calc r.run (m.text.toList ++ more)
      = Reader.run (.nameRead done s around) (':' :: (m.value.toList ++ more)) := by
        rw [htext, Reader.run_append hname hstep (ends_cons (by decide) _)]
    _ = Reader.run (.value (.object done s :: around)) (m.value.toList ++ more) :=
        Reader.run_fixed (t := .colon) trivial rfl _
    _ = Reader.run (.memberRead ((s, j) :: done) around) more :=
        Reader.run_value hvalue hmore _

/-- The members as they stand between the braces. -/
def texts (ms : List Member) : List Char := [','].intercalate (ms.map fun m => m.text.toList)

theorem texts_cons_cons (m m' : Member) (ms : List Member) :
    texts (m :: m' :: ms) = m.text.toList ++ ',' :: texts (m' :: ms) := by
  simp [texts]

theorem toList_document (ms : List Member) :
    (document ms).toList = '\x7b' :: (texts ms ++ ['\x7d']) := by
  simp [document, texts, String.toList_intercalate, Function.comp_def]

/-- The members of an object, of which there is at least one. -/
theorem run_texts {m : Member} {ms : List Member} (h : ∀ m' ∈ m :: ms, m'.read?.isSome)
    {r : Reader} {done : List (Quoted × Json)} {around : List Frame}
    (hr : ∀ s, r.step? (.string s) = some (.nameRead done s around)) {more : List Char}
    (hmore : Ends more) :
    r.run (texts (m :: ms) ++ more) =
      Reader.run (.memberRead (((m :: ms).filterMap read?).reverse ++ done) around) more := by
  obtain ⟨⟨s, j⟩, hm⟩ := Option.isSome_iff_exists.1 (h m List.mem_cons_self)
  -- the first name follows a brace, every other one a comma: `r` is either point
  induction ms generalizing m r s j done with
  | nil => simpa [texts, hm] using run_text hm (hr s) hmore
  | cons m' ms ih =>
      have hms := fun m₁ hm₁ => h m₁ (List.mem_cons_of_mem _ hm₁)
      obtain ⟨⟨s', j'⟩, hm'⟩ := Option.isSome_iff_exists.1 (hms m' List.mem_cons_self)
      have hcomma (cs : List Char) : Reader.run (.memberRead ((s, j) :: done) around) (',' :: cs) =
          Reader.run (.memberFollows ((s, j) :: done) around) cs :=
        Reader.run_fixed (t := .comma) trivial rfl cs
      rw [texts_cons_cons, List.append_assoc, List.cons_append,
        run_text hm (hr s) (ends_cons (by decide) _), hcomma, ih hms (fun _ => rfl) s' j' hm',
        List.filterMap_cons_some hm, List.reverse_cons, List.append_assoc, List.singleton_append]

/-- A document of well-formed members is read as the object that has them. -/
theorem parse?_document {ms : List Member} (h : ∀ m ∈ ms, m.read?.isSome) :
    parse? (document ms) = some (.object (ms.filterMap read?)) := by
  have hopen (cs : List Char) :
      Reader.run (.value []) ('\x7b' :: cs) = Reader.run (.objectOpened []) cs :=
    Reader.run_fixed (t := .openObject) trivial rfl cs
  have hclose {r : Reader} {j : Json} (hr : r.step? .closeObject = some (.complete j)) :
      r.run ['\x7d'] = some (.complete j) :=
    (Reader.run_fixed (t := .closeObject) trivial hr []).trans (Reader.run_nil _)
  rw [Reader.parse?_eq_run, toList_document, hopen]
  cases ms with
  | nil =>
      rw [texts, List.map_nil, List.intercalate_nil, List.nil_append, hclose rfl]
      rfl
  | cons m ms =>
      rw [run_texts h (fun _ => rfl) (ends_cons (by decide) _), hclose rfl, List.append_nil,
        List.reverse_reverse]
      rfl

/-- The members of a document by name. -/
theorem members?_document {ms : List Member} (h : ∀ m ∈ ms, m.content?.isSome) :
    (parse? (document ms)).bind members? = some (ms.filterMap content?) := by
  rw [parse?_document fun m hm => isSome_read?_of_content? (h m hm), Option.bind_some, members?]
  induction ms with
  | nil => rfl
  | cons m ms ih =>
      obtain ⟨s, j, name, hm, hname, hcontent⟩ := exists_read?_of_content? (h m List.mem_cons_self)
      rw [List.filterMap_cons_some hm, List.filterMap_cons_some hcontent, List.mapM_cons,
        ih fun m' hm' => h m' (List.mem_cons_of_mem _ hm')]
      simp [hname]

theorem texts_written (members : List (String × Json)) :
    texts (members.map fun (name, j) => written name j) =
      (memberTokens (members.map fun (name, j) => (Quoted.ofText name, j))).flatMap
        Token.chars := by
  have htext (name : String) (j : Json) : (written name j).text.toList =
      (Token.string (.ofText name)).chars ++ ':' :: j.tokens.flatMap Token.chars := by
    simp [written, text, render, ofText, tokens]
  induction members with
  | nil => rfl
  | cons m members ih =>
      obtain ⟨name, j⟩ := m
      cases members with
      | nil => simp [texts, memberTokens, htext, Token.chars]
      | cons m' members =>
          simp only [List.map_cons] at ih ⊢
          rw [texts_cons_cons, ih]
          simp [memberTokens_cons_cons, htext, Token.chars]

/-- A member is read as what it was written for. -/
theorem content?_written {name : String} {j : Json} (hname : ∀ c ∈ name.toList, 0x20 ≤ c.toNat)
    (hj : j.Plain) : (written name j).content? = some (name, j) := by
  have hscan : Token.scan? (ofText name).render.toList = some [.string (.ofText name)] := by
    rw [(plain_ofText hname).scan?_render]
    simp [ofText, tokens]
  refine content?_eq_some_iff.2 ⟨.ofText name, ?_, Quoted.text?_ofText name⟩
  exact read?_eq_some_iff.2 ⟨hscan, parse?_render hj⟩

/-- What is written for an object is the document of its members as they are written. -/
theorem document_written (members : List (String × Json)) :
    document (members.map fun (name, j) => written name j) = (ofMembers members).render := by
  rw [← String.toList_inj, toList_document, texts_written]
  simp [ofMembers, render, tokens, Token.chars]

end Member

end Rapport.Json
