import Rapport.Proofs.Json.Document

/-!
# One text after another

What a text means to the reader of documents does not depend on what comes after it, save that a
number must not be continued.  A text that can be cut into tokens can therefore be cut off the front
of a longer one (`Token.scan?_append`).

Nor does it depend on what is open around it.  The machine goes through a value inside open frames
as it goes through a document of its own (`Reader.foldlM_step?_inside`), so the text of any document
may stand where a value has to begin (`Reader.run_value`).
-/

namespace Rapport.Json

/-! ### Cutting a text off the front of another -/

/-- A short escape; `u` is the letter of the long ones. -/
theorem readQuoted?_escape {letter : Char} (h : letter ≠ 'u') (cs : List Char) :
    readQuoted? ('\\' :: letter :: cs) =
      (shortEscapes.find? fun e => e.1 = letter).bind fun e =>
        (readQuoted? cs).map fun (s, rest) => (.char e.2 :: s, rest) := by
  simp [readQuoted?, h]

/-- A character for itself. -/
theorem readQuoted?_char {c : Char} (hquote : c ≠ '"') (hslash : c ≠ '\\') (hc : ¬c.toNat < 0x20)
    (cs : List Char) :
    readQuoted? (c :: cs) = (readQuoted? cs).map fun (s, rest) => (.char c :: s, rest) := by
  simp [readQuoted?, hslash, hc]

theorem readQuoted?_append {cs : List Char} {s : Quoted} {rest : List Char}
    (h : readQuoted? cs = some (s, rest)) (more : List Char) :
    readQuoted? (cs ++ more) = some (s, rest ++ more) := by
  fun_induction readQuoted? cs generalizing s rest with
  | case1 => cases h
  | case2 rest => cases h; simp [readQuoted?]
  | case3 a b c d cs ih =>
      simp only [Option.bind_eq_some_iff, Option.map_eq_some_iff, Prod.mk.injEq, Prod.exists] at h
      obtain ⟨u, hu, s', rest', hs, rfl, rfl⟩ := h
      simp [readQuoted?, hu, ih hs]
  | case4 letter cs _ ih =>
      simp only [Option.bind_eq_some_iff, Option.map_eq_some_iff, Prod.mk.injEq, Prod.exists] at h
      obtain ⟨letter', c, he, s', rest', hs, rfl, rfl⟩ := h
      -- a long escape that lacks digits might find them in the text that follows
      have hletter : letter ≠ 'u' := by
        rintro rfl
        simp [shortEscapes] at he
      simp [readQuoted?_escape hletter, he, ih hs]
  | case5 => cases h
  | case6 => cases h
  | case7 c cs hquote _ hslash hend hc ih =>
      simp only [Option.map_eq_some_iff, Prod.mk.injEq, Prod.exists] at h
      obtain ⟨s', rest', hs, rfl, rfl⟩ := h
      have hc' : c ≠ '\\' := by
        rintro rfl
        cases cs with
        | nil => exact hend rfl rfl
        | cons letter cs => exact hslash letter cs rfl rfl
      simp [readQuoted?_char hquote hc' hc, ih hs]

theorem digits?_append_right {cs ds rest : List Char} (h : digits? cs = some (ds, rest))
    {more : List Char} (hmore : Ends more) : digits? (cs ++ more) = some (ds, rest ++ more) := by
  have happ : (cs ++ more).takeWhile Char.isDigit = cs.takeWhile Char.isDigit ∧
      (cs ++ more).dropWhile Char.isDigit = cs.dropWhile Char.isDigit ++ more := by
    clear h
    induction cs with
    | nil => simpa using hmore.takeWhile_dropWhile_isDigit
    | cons c cs ih => cases hc : c.isDigit <;> simp [hc, ih]
  unfold digits? at *
  rw [happ.1, happ.2]
  grind

theorem fraction?_append {cs ds rest : List Char} (h : fraction? cs = some (ds, rest))
    {more : List Char} (hmore : Ends more) : fraction? (cs ++ more) = some (ds, rest ++ more) := by
  cases cs with
  | nil => cases h; exact fraction?_of_ends hmore
  | cons c cs =>
      by_cases hpoint : c = '.'
      · subst hpoint
        obtain ⟨⟨ds', rest'⟩, hds, he⟩ := Option.map_eq_some_iff.1 h
        cases he
        simp [fraction?, digits?_append_right hds hmore]
      · have hnone (cs : List Char) : fraction? (c :: cs) = some ([], c :: cs) := by
          simp [fraction?, hpoint]
        rw [hnone] at h
        cases h
        exact hnone _

/-- The sign at the front of an exponent, which may be empty, and what follows it. -/
def exponentSign : List Char → List Char × List Char
  | '+' :: cs => (['+'], cs)
  | '-' :: cs => (['-'], cs)
  | cs => ([], cs)

theorem exponent?_mark {c : Char} (hc : c = 'e' ∨ c = 'E') (cs : List Char) :
    exponent? (c :: cs) = (digits? (exponentSign cs).2).map fun (ds, rest) =>
      (c :: ((exponentSign cs).1 ++ ds), rest) := by
  unfold exponent?
  simp only [hc, if_true]
  split <;> simp_all [exponentSign]

theorem exponentSign_append {cs : List Char} (h : cs ≠ []) (more : List Char) :
    exponentSign (cs ++ more) = ((exponentSign cs).1, (exponentSign cs).2 ++ more) := by
  obtain ⟨c, cs, rfl⟩ := List.exists_cons_of_ne_nil h
  by_cases hplus : c = '+'
  · subst hplus
    rfl
  by_cases hminus : c = '-'
  · subst hminus
    rfl
  · simp [exponentSign, hplus, hminus]

theorem exponent?_append {cs ds rest : List Char} (h : exponent? cs = some (ds, rest))
    {more : List Char} (hmore : Ends more) : exponent? (cs ++ more) = some (ds, rest ++ more) := by
  cases cs with
  | nil => cases h; exact exponent?_of_ends hmore
  | cons c cs =>
      by_cases hc : c = 'e' ∨ c = 'E'
      · rw [exponent?_mark hc] at h
        obtain ⟨⟨ds', rest'⟩, hds, he⟩ := Option.map_eq_some_iff.1 h
        cases he
        -- otherwise the sign or the digits might come from the text that follows
        have hne : cs ≠ [] := by
          rintro rfl
          cases hds
        rw [List.cons_append, exponent?_mark hc, exponentSign_append hne]
        simp [digits?_append_right hds hmore]
      · simp only [exponent?, hc, if_false, List.cons_append] at *
        cases h
        rfl

theorem readNumber?_append {negative : Bool} {cs : List Char} {n : Number} {rest : List Char}
    (h : readNumber? negative cs = some (n, rest)) {more : List Char} (hmore : Ends more) :
    readNumber? negative (cs ++ more) = some (n, rest ++ more) := by
  simp only [readNumber?, bind, pure, Option.bind_eq_some_iff, Option.some.injEq, Prod.mk.injEq,
    Prod.exists] at h
  obtain ⟨ds, rest₁, hds, whole, hwhole, f, rest₂, hf, e, rest₃, he, rfl, rfl⟩ := h
  simp [readNumber?, digits?_append_right hds hmore, hwhole, fraction?_append hf hmore,
    exponent?_append he hmore]

/-- A number without a sign begins with a digit. -/
theorem exists_digit_of_readNumber? {cs : List Char} {negative : Bool} {n : Number}
    {rest : List Char} (h : readNumber? negative cs = some (n, rest)) :
    ∃ d ds, cs = d :: ds ∧ d.isDigit = true := by
  cases cs with
  | nil => cases h
  | cons c cs =>
      refine ⟨c, cs, rfl, ?_⟩
      cases hc : c.isDigit with
      | true => rfl
      | false => simp [readNumber?, digits?, hc] at h

namespace Token

theorem read?_append {cs : List Char} {t : Token} {rest : List Char}
    (h : read? cs = some (t, rest)) {more : List Char} (hmore : Ends more) :
    read? (cs ++ more) = some (t, rest ++ more) := by
  unfold read? at h
  split at h
  case h_10 cs =>
    obtain ⟨⟨s, rest'⟩, hs, he⟩ := Option.map_eq_some_iff.1 h
    cases he
    simp [read?, readQuoted?_append hs]
  case h_11 cs =>
    obtain ⟨⟨n, rest'⟩, hn, he⟩ := Option.map_eq_some_iff.1 h
    cases he
    simp [read?, readNumber?_append hn hmore]
  case h_12 =>
    obtain ⟨⟨n, rest'⟩, hn, he⟩ := Option.map_eq_some_iff.1 h
    cases he
    obtain ⟨d, ds, rfl, hd⟩ := exists_digit_of_readNumber? hn
    have hn' := readNumber?_append hn hmore
    rw [List.cons_append] at hn' ⊢
    rw [read?_digit hd, hn', Option.map_some]
  all_goals
    cases h
    rfl

theorem scan?_space {c : Char} (hspace : isSpace c = true) (cs : List Char) :
    scan? (c :: cs) = scan? cs := by
  rw [scan?, if_pos hspace]

/-- A text that can be cut into tokens can be cut off the front of another. -/
theorem scan?_append {cs : List Char} {ts : List Token} (h : scan? cs = some ts)
    {more : List Char} (hmore : Ends more) :
    scan? (cs ++ more) = (scan? more).map (ts ++ ·) := by
  fun_induction scan? cs generalizing ts with
  | case1 => cases h; simp
  | case2 c cs hspace ih =>
      rw [List.cons_append, scan?_space hspace, ih h]
  | case3 => cases h
  | case4 c cs hspace t rest hread ih =>
      obtain ⟨ts', hts, rfl⟩ := Option.map_eq_some_iff.1 h
      have hread' : read? (c :: (cs ++ more)) = some (t, rest ++ more) := read?_append hread hmore
      rw [List.cons_append, scan?_of_read? (by simpa using hspace) hread', ih hts, Option.map_map]
      rfl

end Token

/-! ### A value inside open frames -/

namespace Reader

/-- The same point of the document, with more frames open around it.  What was a whole document is
then a value that has been read inside them. -/
def inside (around : List Frame) : Reader → Reader
  | .value frames => .value (frames ++ around)
  | .arrayOpened frames => .arrayOpened (frames ++ around)
  | .itemRead done frames => .itemRead done (frames ++ around)
  | .objectOpened frames => .objectOpened (frames ++ around)
  | .memberFollows done frames => .memberFollows done (frames ++ around)
  | .nameRead done name frames => .nameRead done name (frames ++ around)
  | .memberRead done frames => .memberRead done (frames ++ around)
  | .complete j => deliver j around

theorem inside_deliver (j : Json) (frames around : List Frame) :
    (deliver j frames).inside around = deliver j (frames ++ around) := by
  rcases frames with _ | ⟨_ | _, frames⟩ <;> rfl

theorem begin?_inside (frames around : List Frame) (t : Token) :
    begin? (frames ++ around) t = (begin? frames t).map (inside around) := by
  cases t <;> simp only [begin?, Option.map_some, Option.map_none, inside_deliver] <;> rfl

/-- One token. -/
theorem step?_inside {r r' : Reader} {t : Token} (h : r.step? t = some r') (around : List Frame) :
    (r.inside around).step? t = some (r'.inside around) := by
  unfold step? at h
  split at h
  case h_1 frames => exact (begin?_inside frames around t).trans (by rw [h, Option.map_some])
  case h_3 frames _ =>
    have hbegin := begin?_inside (.array [] :: frames) around t
    rw [h, List.cons_append, Option.map_some] at hbegin
    change step? (.arrayOpened (frames ++ around)) t = _
    simpa only [step?] using hbegin
  case h_2 | h_5 | h_6 | h_11 =>
    cases h
    exact congrArg some (inside_deliver _ _ around).symm
  case h_12 => cases h
  all_goals
    cases h
    rfl

/-- A run of tokens. -/
theorem foldlM_step?_inside {r r' : Reader} {ts : List Token} (h : ts.foldlM step? r = some r')
    (around : List Frame) : ts.foldlM step? (r.inside around) = some (r'.inside around) := by
  induction ts generalizing r with
  | nil => cases h; rfl
  | cons t ts ih =>
      rw [List.foldlM_cons] at h ⊢
      obtain ⟨r₁, hr₁, hts⟩ := Option.bind_eq_some_iff.1 h
      rw [step?_inside hr₁]
      exact ih hts

/-- What a text makes of the machine. -/
def run (r : Reader) (cs : List Char) : Option Reader :=
  (Token.scan? cs).bind fun ts => ts.foldlM step? r

theorem run_nil (r : Reader) : run r [] = some r := by
  rw [run, scan?_nil]
  rfl

theorem parse?_eq_run (text : String) :
    parse? text = (run (.value []) text.toList).bind value? :=
  (Option.bind_assoc ..).symm

/-- The tokens of a text are taken one after the other, whatever follows. -/
theorem run_append {r r' : Reader} {cs : List Char} {ts : List Token}
    (hcs : Token.scan? cs = some ts) (hts : ts.foldlM step? r = some r') {more : List Char}
    (hmore : Ends more) : run r (cs ++ more) = run r' more := by
  rw [run, run, Token.scan?_append hcs hmore, Option.bind_map]
  congr 1
  funext us
  simp [hts]

/-- A token with one spelling is taken even where it does not end a number. -/
theorem run_fixed {r r' : Reader} {t : Token} (ht : t.IsFixed) (h : r.step? t = some r')
    (more : List Char) : run r (t.chars ++ more) = run r' more := by
  have hscan : Token.ScansOff [t] more := .fixed ht
  rw [Token.ScansOff, List.flatMap_singleton] at hscan
  rw [run, run, hscan, Option.bind_map]
  congr 1
  funext us
  simp [h]

/-- The text of a document, where a value has to begin. -/
theorem run_value {text : String} {j : Json} (h : parse? text = some j) {more : List Char}
    (hmore : Ends more) (around : List Frame) :
    run (.value around) (text.toList ++ more) = run (deliver j around) more := by
  obtain ⟨ts, hts, hread⟩ := Option.bind_eq_some_iff.1 h
  obtain ⟨r, hr, hj⟩ := Option.bind_eq_some_iff.1 hread
  cases r with
  | complete =>
      cases hj
      exact run_append hts (foldlM_step?_inside hr around) hmore
  | _ => cases hj

end Reader

end Rapport.Json
