import Rapport.Label

/-!
# Collections keyed by number

`Keyed κ α` is a finite map from a numbered type.  Its entries are kept in strictly ascending order
of their keys, so the order in which it is listed and written is part of the type, and two
collections with the same contents are equal (`Keyed.ext_get?`).

Each operation is described by what a later look-up finds: `get?_insert`, `get?_erase` and
`get?_modify`.
-/

namespace Rapport

/-- No key occurs twice, and lower keys come first. -/
abbrev Keyed.Ascending {κ α : Type} [Numbered κ] (l : List (κ × α)) : Prop :=
  l.Pairwise (fun a b => Numbered.toNat a.1 < Numbered.toNat b.1)

/-- A finite map whose entries stand in strictly ascending order of their keys. -/
structure Keyed (κ α : Type) [Numbered κ] where
  entries : List (κ × α)
  ascending : Keyed.Ascending entries

/-- A finite set of keys. -/
abbrev KeySet (κ : Type) [Numbered κ] := Keyed κ Unit

namespace Keyed

variable {κ α : Type} [Numbered κ]

theorem ext_entries {m n : Keyed κ α} (h : m.entries = n.entries) : m = n := by
  cases m; cases n; cases h; rfl

instance [DecidableEq κ] [DecidableEq α] : DecidableEq (Keyed κ α) := fun m n =>
  if h : m.entries = n.entries then .isTrue (ext_entries h)
  else .isFalse fun e => h (congrArg entries e)

/-- The collection without entries. -/
def empty : Keyed κ α := ⟨[], .nil⟩

instance : EmptyCollection (Keyed κ α) := ⟨empty⟩

instance : Inhabited (Keyed κ α) := ⟨empty⟩

/-- The value that the first entry for `k` holds. -/
def find? (k : κ) : List (κ × α) → Option α
  | [] => none
  | (k', a) :: rest => if Numbered.toNat k' = Numbered.toNat k then some a else find? k rest

/-- What is stored under `k`. -/
def get? (m : Keyed κ α) (k : κ) : Option α := find? k m.entries

/-- Whether anything is stored under `k`. -/
def contains (m : Keyed κ α) (k : κ) : Bool := (m.get? k).isSome

/-- The keys, in ascending order. -/
def keys (m : Keyed κ α) : List κ := m.entries.map (·.1)

/-- The values, in ascending order of their keys. -/
def values (m : Keyed κ α) : List α := m.entries.map (·.2)

/-- How many entries there are. -/
def size (m : Keyed κ α) : Nat := m.entries.length

/-- Whether there are no entries. -/
def isEmpty (m : Keyed κ α) : Bool := m.entries.isEmpty

/-! ### Insertion -/

/-- The entry for `k` takes its place in the order, or replaces the entry that is there. -/
def place (k : κ) (a : α) : List (κ × α) → List (κ × α)
  | [] => [(k, a)]
  | (k', a') :: rest =>
    if Numbered.toNat k < Numbered.toNat k' then (k, a) :: (k', a') :: rest
    else if Numbered.toNat k = Numbered.toNat k' then (k, a) :: rest
    else (k', a') :: place k a rest

theorem mem_place {k : κ} {a : α} {e : κ × α} {l : List (κ × α)} (h : e ∈ place k a l) :
    e = (k, a) ∨ e ∈ l := by
  induction l with
  | nil => simpa [place] using h
  | cons hd tl ih => grind [place]

theorem ascending_place (k : κ) (a : α) {l : List (κ × α)}
    (h : Ascending l) : Ascending (place k a l) := by
  induction l with
  | nil => simp [place]
  | cons hd tl ih =>
    obtain ⟨hhd, htl⟩ := List.pairwise_cons.1 h
    rw [place]
    split
    next hlt =>
      refine List.pairwise_cons.2 ⟨fun e he => ?_, h⟩
      rcases List.mem_cons.1 he with rfl | he
      · exact hlt
      · exact Nat.lt_trans hlt (hhd e he)
    next hlt =>
      split
      next heq => exact List.pairwise_cons.2 ⟨fun e he => heq ▸ hhd e he, htl⟩
      next hne =>
        refine List.pairwise_cons.2 ⟨fun e he => ?_, ih htl⟩
        rcases mem_place he with rfl | he
        · simp only; omega
        · exact hhd e he

theorem find?_place (k k' : κ) (a : α) (l : List (κ × α)) :
    find? k' (place k a l) =
      if Numbered.toNat k = Numbered.toNat k' then some a else find? k' l := by
  induction l with
  | nil => simp [place, find?]
  | cons hd tl ih => grind [place, find?]

/-- Stores `a` under `k`, in place of what was there. -/
def insert (m : Keyed κ α) (k : κ) (a : α) : Keyed κ α :=
  ⟨place k a m.entries, ascending_place k a m.ascending⟩

@[simp] theorem get?_insert (m : Keyed κ α) (k k' : κ) (a : α) [Decidable (k = k')] :
    (m.insert k a).get? k' = if k = k' then some a else m.get? k' := by
  simp [get?, insert, find?_place]

/-- The collection of the given pairs; of several pairs with one key the last stands. -/
def ofList (l : List (κ × α)) : Keyed κ α := l.foldl (fun m e => m.insert e.1 e.2) empty

/-! ### Removal and change -/

/-- Removes what is stored under `k`. -/
def erase (m : Keyed κ α) (k : κ) : Keyed κ α :=
  ⟨m.entries.filter (fun e => Numbered.toNat e.1 ≠ Numbered.toNat k), m.ascending.filter _⟩

/-- Changes what is stored under `k`, if anything is. -/
def modify (m : Keyed κ α) (k : κ) (f : α → α) : Keyed κ α :=
  ⟨m.entries.map (fun e => if Numbered.toNat e.1 = Numbered.toNat k then (e.1, f e.2) else e), by
    refine m.ascending.map _ fun a b h => ?_
    split <;> split <;> exact h⟩

@[simp] theorem get?_erase (m : Keyed κ α) (k k' : κ) [Decidable (k = k')] :
    (m.erase k).get? k' = if k = k' then none else m.get? k' := by
  have h (l : List (κ × α)) : find? k' (l.filter (fun e => Numbered.toNat e.1 ≠ Numbered.toNat k)) =
      if Numbered.toNat k = Numbered.toNat k' then none else find? k' l := by
    induction l with
    | nil => simp [find?]
    | cons hd tl ih => grind [find?]
  simpa [get?, erase] using h m.entries

@[simp] theorem get?_modify (m : Keyed κ α) (k k' : κ) (f : α → α) [Decidable (k = k')] :
    (m.modify k f).get? k' = if k = k' then (m.get? k').map f else m.get? k' := by
  have h (l : List (κ × α)) :
      find? k'
          (l.map (fun e => if Numbered.toNat e.1 = Numbered.toNat k then (e.1, f e.2) else e)) =
        if Numbered.toNat k = Numbered.toNat k' then (find? k' l).map f else find? k' l := by
    induction l with
    | nil => simp [find?]
    | cons hd tl ih => grind [find?]
  simpa [get?, modify] using h m.entries

/-! ### Extensionality -/

theorem find?_eq_some_iff {k : κ} {a : α} {l : List (κ × α)} (h : Ascending l) :
    find? k l = some a ↔ (k, a) ∈ l := by
  induction l with
  | nil => simp [find?]
  | cons hd tl ih =>
    obtain ⟨k', a'⟩ := hd
    obtain ⟨hhd, htl⟩ := List.pairwise_cons.1 h
    rw [find?]
    split
    next heq =>
      obtain rfl := Numbered.eq_of_toNat_eq heq
      constructor
      · rintro ⟨⟩; exact List.mem_cons_self
      · intro hmem
        rcases List.mem_cons.1 hmem with heq | hmem
        · cases heq; rfl
        · exact absurd (hhd _ hmem) (Nat.lt_irrefl _)
    next hne =>
      rw [ih htl, List.mem_cons]
      constructor
      · exact .inr
      · rintro (heq | hmem)
        · cases heq; exact absurd rfl hne
        · exact hmem

theorem get?_eq_some_iff {m : Keyed κ α} {k : κ} {a : α} :
    m.get? k = some a ↔ (k, a) ∈ m.entries :=
  find?_eq_some_iff m.ascending

/-- Two lists in strictly ascending order with the same elements are equal. -/
theorem eq_of_mem_iff {l₁ l₂ : List (κ × α)} (h₁ : Ascending l₁) (h₂ : Ascending l₂)
    (h : ∀ e, e ∈ l₁ ↔ e ∈ l₂) : l₁ = l₂ := by
  induction l₁ generalizing l₂ with
  | nil =>
    cases l₂ with
    | nil => rfl
    | cons b bs => exact absurd ((h b).2 List.mem_cons_self) (by simp)
  | cons a as ih =>
    cases l₂ with
    | nil => exact absurd ((h a).1 List.mem_cons_self) (by simp)
    | cons b bs =>
      obtain ⟨ha, has⟩ := List.pairwise_cons.1 h₁
      obtain ⟨hb, hbs⟩ := List.pairwise_cons.1 h₂
      -- both are the least element of the one set
      have hab : a = b := by
        rcases List.mem_cons.1 ((h a).1 List.mem_cons_self) with hab | hab
        · exact hab
        · rcases List.mem_cons.1 ((h b).2 List.mem_cons_self) with hba | hba
          · exact hba.symm
          · exact absurd (Nat.lt_trans (hb a hab) (ha b hba)) (Nat.lt_irrefl _)
      subst hab
      congr 1
      -- the head is below everything in either tail, so the tails have the same elements too
      refine ih has hbs fun e => ?_
      have he := h e
      simp only [List.mem_cons] at he
      constructor
      · intro hmem
        rcases he.1 (.inr hmem) with rfl | hmem'
        · exact absurd (ha _ hmem) (Nat.lt_irrefl _)
        · exact hmem'
      · intro hmem
        rcases he.2 (.inr hmem) with rfl | hmem'
        · exact absurd (hb _ hmem) (Nat.lt_irrefl _)
        · exact hmem'

/-- Collections in which every look-up finds the same are equal. -/
theorem ext_get? {m n : Keyed κ α} (h : ∀ k, m.get? k = n.get? k) : m = n := by
  refine ext_entries (eq_of_mem_iff m.ascending n.ascending fun ⟨k, a⟩ => ?_)
  rw [← get?_eq_some_iff, ← get?_eq_some_iff, h]

theorem get?_foldl_insert {l : List (κ × α)} (h : Ascending l) (m : Keyed κ α) (k : κ) :
    (l.foldl (fun m e => m.insert e.1 e.2) m).get? k = (find? k l).or (m.get? k) := by
  induction l generalizing m with
  | nil => rfl
  | cons hd tl ih =>
    obtain ⟨k', a⟩ := hd
    obtain ⟨hhd, htl⟩ := List.pairwise_cons.1 h
    rw [List.foldl_cons, ih htl, find?, get?, insert, find?_place]
    split
    next heq =>
      -- later keys are higher, so nothing replaces the entry for `k`
      have hlater : find? k tl = none := Option.eq_none_iff_forall_ne_some.2 fun b hb => by
        have := hhd _ ((find?_eq_some_iff htl).1 hb)
        simp only [heq, Nat.lt_irrefl] at this
      rw [hlater]
      rfl
    next => rfl

/-- A collection is that of its own entries. -/
@[simp] theorem ofList_entries (m : Keyed κ α) : ofList m.entries = m := by
  refine ext_get? fun k => ?_
  rw [ofList, get?_foldl_insert m.ascending]
  exact Option.or_none

end Keyed

end Rapport
