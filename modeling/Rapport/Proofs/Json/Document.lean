import Rapport.Json.Document

/-!
# Written documents are read back

A value is plain if its numbers are integers and no control character stands in its texts
(`Json.Plain`).  The document of a plain value is read as that value (`Json.parse?_render`).

The proof follows the two halves of the reader.  Cutting the text gives back the tokens that it was
written from: a list of tokens can be cut off the front of a text (`Token.ScansOff`), whatever
follows it, save that no digit, point or exponent may follow a number.  The machine, fed with the
tokens of a value, delivers that value inside the frames that were open before
(`Reader.delivers`).
-/

namespace Rapport.Json

open Rapport.Text

/-! ### Plain values -/

/-- All pieces are characters, and none of them is a control character. -/
def Quoted.Plain (s : Quoted) : Prop := ∀ p ∈ s, ∃ c : Char, p = .char c ∧ 0x20 ≤ c.toNat

theorem Quoted.plain_map_char {cs : List Char} (h : ∀ c ∈ cs, 0x20 ≤ c.toNat) :
    Quoted.Plain (cs.map .char) := by
  intro p hp
  obtain ⟨c, hc, rfl⟩ := List.mem_map.1 hp
  exact ⟨c, rfl, h c hc⟩

/-- Numbers are integers, and there are no control characters in texts and names. -/
inductive Plain : Json → Prop
  | null : Plain .null
  | bool (b : Bool) : Plain (.bool b)
  | number {n : Number} : n.tail = [] → Plain (.number n)
  | string {s : Quoted} : s.Plain → Plain (.string s)
  | array {items : List Json} : (∀ j ∈ items, Plain j) → Plain (.array items)
  | object {members : List (Quoted × Json)} : (∀ m ∈ members, Quoted.Plain m.1) →
      (∀ m ∈ members, Plain m.2) → Plain (.object members)

/-! ### The tokens of two items or members -/

theorem itemTokens_cons_cons (j k : Json) (items : List Json) :
    itemTokens (j :: k :: items) = j.tokens ++ .comma :: itemTokens (k :: items) := by
  rw [itemTokens]
  simp

theorem memberTokens_cons_cons (name : Quoted) (j : Json) (m : Quoted × Json)
    (members : List (Quoted × Json)) :
    memberTokens ((name, j) :: m :: members) =
      .string name :: .colon :: (j.tokens ++ .comma :: memberTokens (m :: members)) := by
  rw [memberTokens]
  simp

/-! ### Cutting a text into tokens -/

theorem readQuoted?_spelling {s : Quoted} (h : s.Plain) (rest : List Char) :
    readQuoted? (s.flatMap Piece.chars ++ '"' :: rest) = some (s, rest) := by
  induction s with
  | nil => rfl
  | cons p s ih =>
      obtain ⟨c, rfl, hc⟩ := h p List.mem_cons_self
      have hs := ih fun q hq => h q (List.mem_cons_of_mem _ hq)
      rw [List.flatMap_cons, List.append_assoc, Piece.chars, charSpelling]
      by_cases hquote : c = '"'
      · subst hquote
        simp [readQuoted?, shortEscapes, hs]
      by_cases hslash : c = '\\'
      · subst hslash
        simp [readQuoted?, shortEscapes, hs]
      · rw [if_neg (by simp [hquote, hslash]), if_neg (Nat.not_lt.2 hc), List.singleton_append,
          readQuoted?.eq_def]
        split <;> simp_all

/-- What may follow a number: anything but what would continue it. -/
def Ends (rest : List Char) : Prop :=
  ∀ c ∈ rest.head?, c.isDigit = false ∧ c ≠ '.' ∧ c ≠ 'e' ∧ c ≠ 'E'

/-- What may follow a number begins with no digit. -/
theorem Ends.takeWhile_dropWhile_isDigit {rest : List Char} (h : Ends rest) :
    rest.takeWhile Char.isDigit = [] ∧ rest.dropWhile Char.isDigit = rest := by
  cases rest with
  | nil => exact ⟨rfl, rfl⟩
  | cons c rest =>
      obtain ⟨hc, -⟩ := h c rfl
      simp [hc]

theorem digits?_append {ds rest : List Char} (hne : ds ≠ []) (hds : ∀ c ∈ ds, c.isDigit = true)
    (hrest : Ends rest) : digits? (ds ++ rest) = some (ds, rest) := by
  obtain ⟨htake, hdrop⟩ := hrest.takeWhile_dropWhile_isDigit
  unfold digits?
  rw [List.takeWhile_append_of_pos hds, List.dropWhile_append_of_pos hds, htake, hdrop,
    List.append_nil, if_neg hne]

theorem fraction?_of_ends {rest : List Char} (h : Ends rest) :
    fraction? rest = some ([], rest) := by
  unfold fraction?
  split
  next cs => exact absurd rfl (h '.' rfl).2.1
  next => rfl

theorem exponent?_of_ends {rest : List Char} (h : Ends rest) :
    exponent? rest = some ([], rest) := by
  cases rest with
  | nil => rfl
  | cons c rest =>
      obtain ⟨-, -, he, hE⟩ := h c rfl
      simp [exponent?, he, hE]

theorem exists_toDigits_eq_cons (n : Nat) :
    ∃ d ds, Nat.toDigits 10 n = d :: ds ∧ d.isDigit = true := by
  obtain ⟨d, ds, hds⟩ := List.exists_cons_of_ne_nil (Nat.toDigits_ne_nil (n := n) (b := 10))
  have hd : d ∈ Nat.toDigits 10 n := hds ▸ List.mem_cons_self
  exact ⟨d, ds, hds, Nat.isDigit_of_mem_toDigits (by decide) (by decide) hd⟩

theorem readNumber?_toDigits (negative : Bool) (n : Nat) {rest : List Char} (h : Ends rest) :
    readNumber? negative (Nat.toDigits 10 n ++ rest) = some (⟨negative, n, []⟩, rest) := by
  have hdigits := digits?_append (Nat.toDigits_ne_nil (n := n) (b := 10))
    (fun c hc => Nat.isDigit_of_mem_toDigits (by decide) (by decide) hc) h
  simp [readNumber?, hdigits, ofDecimal?_toDigits, fraction?_of_ends h, exponent?_of_ends h]

/-- A number begins with a minus sign or a digit. -/
theorem Number.exists_chars_eq_cons (n : Number) :
    ∃ c cs, n.chars = c :: cs ∧ (c = '-' ∨ c.isDigit = true) := by
  obtain ⟨d, ds, hds, hd⟩ := exists_toDigits_eq_cons n.whole
  cases hneg : n.negative with
  | true => exact ⟨'-', Nat.toDigits 10 n.whole ++ n.tail, by simp [chars, hneg], Or.inl rfl⟩
  | false => exact ⟨d, ds ++ n.tail, by simp [chars, hneg, hds], Or.inr hd⟩

namespace Token

theorem read?_string {s : Quoted} (h : s.Plain) (rest : List Char) :
    read? ((Token.string s).chars ++ rest) = some (.string s, rest) := by
  simp [chars, read?, readQuoted?_spelling h]

/-- A digit begins no token but a number. -/
theorem read?_digit {d : Char} (hd : d.isDigit = true) (cs : List Char) :
    read? (d :: cs) = (readNumber? false (d :: cs)).map fun (n, rest) => (.number n, rest) := by
  rw [read?.eq_def]
  split <;> simp_all +decide

theorem read?_number {n : Number} (hn : n.tail = []) {rest : List Char} (h : Ends rest) :
    read? ((Token.number n).chars ++ rest) = some (.number n, rest) := by
  obtain ⟨negative, whole, tail⟩ := n
  subst hn
  have hread := readNumber?_toDigits negative whole h
  cases negative with
  | true => simp [chars, Number.chars, read?, hread]
  | false =>
      obtain ⟨d, ds, hds, hd⟩ := exists_toDigits_eq_cons whole
      simp only [chars, Number.chars, hds, List.nil_append, List.append_nil, List.cons_append,
        Bool.false_eq_true, if_false]
      rw [hds, List.cons_append] at hread
      rw [read?_digit hd, hread, Option.map_some]

theorem scan?_of_read? {c : Char} {cs : List Char} {t : Token} {rest : List Char}
    (hspace : isSpace c = false) (h : read? (c :: cs) = some (t, rest)) :
    scan? (c :: cs) = (scan? rest).map (t :: ·) := by
  rw [scan?.eq_def]
  simp only [hspace, Bool.false_eq_true, if_false]
  split
  next hnone => simp [h] at hnone
  next hsome => simp_all

/-- The tokens can be cut off a text in which they stand in front of `rest`. -/
def ScansOff (ts : List Token) (rest : List Char) : Prop :=
  scan? (ts.flatMap chars ++ rest) = (scan? rest).map (ts ++ ·)

theorem ScansOff.nil (rest : List Char) : ScansOff [] rest := by
  cases h : scan? rest <;> simp [ScansOff, h]

theorem ScansOff.append {ts us : List Token} {rest : List Char}
    (hts : ScansOff ts (us.flatMap chars ++ rest)) (hus : ScansOff us rest) :
    ScansOff (ts ++ us) rest := by
  unfold ScansOff at *
  rw [List.flatMap_append, List.append_assoc, hts, hus, Option.map_map]
  congr 1
  funext vs
  simp

theorem ScansOff.single {t : Token} {rest : List Char} {c : Char} {cs : List Char}
    (hchars : t.chars = c :: cs) (hspace : isSpace c = false)
    (h : read? (t.chars ++ rest) = some (t, rest)) : ScansOff [t] rest := by
  rw [hchars, List.cons_append] at h
  simpa [ScansOff, hchars] using scan?_of_read? hspace h

/-- Whether the token is no number and no text, and so has one spelling. -/
def IsFixed : Token → Prop
  | .number _ => False
  | .string _ => False
  | _ => True

theorem ScansOff.fixed {t : Token} {rest : List Char} (h : t.IsFixed) : ScansOff [t] rest := by
  cases t with
  | number _ => exact h.elim
  | string _ => exact h.elim
  | bool b => cases b <;> exact .single rfl rfl rfl
  | _ => exact .single rfl rfl rfl

theorem ScansOff.cons {t : Token} {ts : List Token} {rest : List Char} (h : t.IsFixed)
    (hts : ScansOff ts rest) : ScansOff (t :: ts) rest :=
  (ScansOff.fixed h).append hts

theorem ScansOff.string {s : Quoted} (h : s.Plain) (rest : List Char) : ScansOff [.string s] rest :=
  .single rfl rfl (read?_string h rest)

theorem ScansOff.number {n : Number} (hn : n.tail = []) {rest : List Char} (h : Ends rest) :
    ScansOff [.number n] rest := by
  obtain ⟨c, cs, hchars, hc⟩ := n.exists_chars_eq_cons
  refine .single hchars ?_ (read?_number hn h)
  rcases hc with rfl | hc
  · rfl
  · cases hspace : isSpace c with
    | false => rfl
    | true =>
        simp only [isSpace, Bool.or_eq_true, decide_eq_true_eq] at hspace
        rcases hspace with ((rfl | rfl) | rfl) | rfl <;> exact absurd hc (by decide)

end Token

/-! ### The tokens of a value -/

theorem ends_cons {c : Char} (h : c.isDigit = false ∧ c ≠ '.' ∧ c ≠ 'e' ∧ c ≠ 'E')
    (rest : List Char) : Ends (c :: rest) := by
  intro c' hc'
  obtain rfl := Option.mem_some_iff.1 hc'
  exact h

section

open Token

theorem scansOff_itemTokens {items : List Json}
    (h : ∀ j ∈ items, ∀ {rest}, Ends rest → ScansOff j.tokens rest) {rest : List Char}
    (hrest : Ends rest) : ScansOff (itemTokens items) rest := by
  induction items with
  | nil => exact .nil rest
  | cons j items ih =>
      have hitems := ih fun k hk => h k (List.mem_cons_of_mem _ hk)
      cases items with
      | nil =>
          rw [itemTokens]
          exact h j List.mem_cons_self hrest
      | cons k items =>
          rw [itemTokens_cons_cons]
          refine (h j List.mem_cons_self ?_).append (.cons trivial hitems)
          exact ends_cons (by decide) _

theorem scansOff_memberTokens {members : List (Quoted × Json)}
    (hnames : ∀ m ∈ members, Quoted.Plain m.1)
    (h : ∀ m ∈ members, ∀ {rest}, Ends rest → ScansOff m.2.tokens rest) {rest : List Char}
    (hrest : Ends rest) : ScansOff (memberTokens members) rest := by
  induction members with
  | nil => exact .nil rest
  | cons m members ih =>
      obtain ⟨name, value⟩ := m
      have hname {rest} : ScansOff [.string name] rest := .string (hnames _ List.mem_cons_self) rest
      have hvalue {rest} : Ends rest → ScansOff value.tokens rest := h _ List.mem_cons_self
      have hmembers := ih (fun k hk => hnames k (List.mem_cons_of_mem _ hk))
        fun k hk => h k (List.mem_cons_of_mem _ hk)
      cases members with
      | nil =>
          rw [memberTokens]
          exact hname.append (.cons trivial (hvalue hrest))
      | cons k members =>
          rw [memberTokens_cons_cons]
          refine hname.append (.cons trivial ((hvalue ?_).append (.cons trivial hmembers)))
          exact ends_cons (by decide) _

/-- The tokens of a plain value are cut off its text. -/
theorem Plain.scansOff_tokens {j : Json} (hj : j.Plain) {rest : List Char} (hrest : Ends rest) :
    ScansOff j.tokens rest := by
  induction hj generalizing rest with
  | null => rw [tokens]; exact .fixed trivial
  | bool b => rw [tokens]; exact .fixed trivial
  | number hn => rw [tokens]; exact .number hn hrest
  | string hs => rw [tokens]; exact .string hs rest
  | array _ ih =>
      have hclose : ScansOff [.closeArray] rest := .fixed trivial
      rw [tokens]
      exact .cons trivial ((scansOff_itemTokens ih (ends_cons (by decide) _)).append hclose)
  | object hnames _ ih =>
      have hclose : ScansOff [.closeObject] rest := .fixed trivial
      rw [tokens]
      exact .cons trivial
        ((scansOff_memberTokens hnames ih (ends_cons (by decide) _)).append hclose)

end

/-! ### Reading the tokens of a value -/

namespace Reader

/-- The tokens of a value take the machine from the point where a value has to begin to the point
where that value has been read. -/
def Delivers (j : Json) : Prop :=
  ∀ around, j.tokens.foldlM step? (.value around) = some (deliver j around)

theorem foldlM_itemTokens {items : List Json} (hne : items ≠ []) (h : ∀ j ∈ items, Delivers j)
    (done : List Json) (around : List Frame) :
    (itemTokens items).foldlM step? (.value (.array done :: around)) =
      some (.itemRead (items.reverse ++ done) around) := by
  induction items generalizing done with
  | nil => exact absurd rfl hne
  | cons j items ih =>
      have hj := h j List.mem_cons_self (.array done :: around)
      cases items with
      | nil => simpa [itemTokens, deliver] using hj
      | cons k items =>
          have hitems := ih (List.cons_ne_nil _ _) (fun l hl => h l (List.mem_cons_of_mem _ hl))
            (j :: done)
          rw [itemTokens_cons_cons]
          simpa [hj, deliver, step?] using hitems

theorem foldlM_memberTokens {members : List (Quoted × Json)} (hne : members ≠ [])
    (h : ∀ m ∈ members, Delivers m.2) (done : List (Quoted × Json)) (around : List Frame) :
    (memberTokens members).foldlM step? (.memberFollows done around) =
      some (.memberRead (members.reverse ++ done) around) := by
  induction members generalizing done with
  | nil => exact absurd rfl hne
  | cons m members ih =>
      obtain ⟨name, j⟩ := m
      have hj := h _ List.mem_cons_self (.object done name :: around)
      cases members with
      | nil => simpa [memberTokens, deliver, step?] using hj
      | cons m members =>
          have hmembers := ih (List.cons_ne_nil _ _) (fun l hl => h l (List.mem_cons_of_mem _ hl))
            ((name, j) :: done)
          rw [memberTokens_cons_cons]
          simpa [hj, deliver, step?] using hmembers

/-- No value begins with the end of an array, so where an array has just been opened its first item
may follow. -/
theorem foldlM_itemTokens_arrayOpened (j : Json) (items : List Json) (around : List Frame) :
    (itemTokens (j :: items)).foldlM step? (.arrayOpened around) =
      (itemTokens (j :: items)).foldlM step? (.value (.array [] :: around)) := by
  have hfirst : ∃ t ts, itemTokens (j :: items) = t :: ts ∧ t ≠ .closeArray := by
    cases items <;> cases j <;> simp [itemTokens, tokens]
  obtain ⟨t, ts, hts, hne⟩ := hfirst
  rw [hts, List.foldlM_cons, List.foldlM_cons]
  congr 1
  cases t <;> first | rfl | exact absurd rfl hne

theorem foldlM_memberTokens_objectOpened (m : Quoted × Json) (members : List (Quoted × Json))
    (around : List Frame) :
    (memberTokens (m :: members)).foldlM step? (.objectOpened around) =
      (memberTokens (m :: members)).foldlM step? (.memberFollows [] around) := by
  obtain ⟨name, j⟩ := m
  cases members with
  | nil => rw [memberTokens]; rfl
  | cons m members => rw [memberTokens_cons_cons]; rfl

/-- The tokens of a value are read as that value. -/
theorem delivers (j : Json) : Delivers j := by
  intro around
  match j with
  | .null => rw [tokens]; rfl
  | .bool _ => rw [tokens]; rfl
  | .number _ => rw [tokens]; rfl
  | .string _ => rw [tokens]; rfl
  | .array [] => rw [tokens]; rfl
  | .array (j :: items) =>
      have hitems := foldlM_itemTokens (List.cons_ne_nil j items) (fun k _hk => delivers k) [] around
      rw [← foldlM_itemTokens_arrayOpened] at hitems
      simp [tokens, step?, begin?, hitems]
  | .object [] => rw [tokens]; rfl
  | .object (m :: members) =>
      have hmembers := foldlM_memberTokens (List.cons_ne_nil m members) (fun k _hk => delivers k.2)
        [] around
      rw [← foldlM_memberTokens_objectOpened] at hmembers
      simp [tokens, step?, begin?, hmembers]
termination_by j
decreasing_by
  · have := List.sizeOf_lt_of_mem _hk
    simp only [Json.array.sizeOf_spec]
    omega
  · have := List.sizeOf_lt_of_mem _hk
    obtain ⟨name, j⟩ := k
    simp only [Json.object.sizeOf_spec, Prod.mk.sizeOf_spec] at *
    omega

end Reader

theorem ofTokens?_tokens (j : Json) : ofTokens? j.tokens = some j := by
  simp [ofTokens?, Reader.delivers j [], Reader.deliver, Reader.value?]

theorem scan?_nil : Token.scan? [] = some [] := by rw [Token.scan?]

/-- The text of a plain value is cut into the tokens that it was written from. -/
theorem Plain.scan?_render {j : Json} (hj : j.Plain) :
    Token.scan? j.render.toList = some j.tokens := by
  have hscan : Token.ScansOff j.tokens [] := hj.scansOff_tokens (by simp [Ends])
  rw [Token.ScansOff, List.append_nil, scan?_nil] at hscan
  simp [render, hscan]

/-- The document of a plain value is read as that value. -/
theorem parse?_render {j : Json} (hj : j.Plain) : parse? j.render = some j := by
  rw [parse?, hj.scan?_render, Option.bind_some, ofTokens?_tokens]

end Rapport.Json
