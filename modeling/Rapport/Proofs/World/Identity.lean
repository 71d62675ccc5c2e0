import Rapport.View
import Rapport.Proofs.Saved
import Rapport.Proofs.World.Run

/-!
# Numbers are never used twice

A history is a run with breaks: between two operations the world may be saved and loaded again
(`History`).  It keeps the books on the numbers that were handed out and on those of entities that
were taken out of the world.  Since a world is loaded as it was saved, a history is a run as far as
the world is concerned (`History.run`), and what holds along runs holds along histories.

`World.Books` is the invariant that ties the books to the world: no number is handed out twice, and
what is gone is not found.  From it follows what others rely on who hold the number of an entity and
not the entity itself: a number that leads nowhere will lead nowhere for good
(`History.identity`).
-/

namespace Rapport

namespace World

/-- The number that an operation hands out. -/
def issues (w : World) : Operation → List EntityId
  | .spawn body => [(w.spawn body).1]
  | _ => []

/-- The number of the entity that an operation takes out of the world. -/
def removes (w : World) : Operation → List EntityId
  | .despawn id => if (w.despawn id).1.isSome then [id] else []
  | _ => []

end World

/-- The operations lead from an empty world to the last one, with the world saved and loaded in
between at any time.  Beside the world stand the numbers that were handed out and those of entities
that were taken out, in order. -/
inductive History : List Operation → List EntityId → List EntityId → World → Prop
  | start (map : MapInfo) : History [] [] [] { map }
  | step {ops : List Operation} {issued gone : List EntityId} {w : World} (op : Operation) :
      History ops issued gone w → op.KeepsKind w →
      History (ops ++ [op]) (issued ++ w.issues op) (gone ++ w.removes op) (w.apply op)
  | reload {ops : List Operation} {issued gone : List EntityId} {w saved : World} :
      History ops issued gone w → decodeText? (encodeText w) = some saved →
      History ops issued gone saved

/-- What the books on the numbers of entities say of a world. -/
structure World.Books (w : World) (issued gone : List EntityId) : Prop where
  nodup_issued : issued.Nodup
  issued_lt : ∀ id ∈ issued, id.val.toNat < w.nextEntityId.toNat
  gone_lt : ∀ id ∈ gone, id.val.toNat < w.nextEntityId.toNat
  get?_gone : ∀ id ∈ gone, w.get? id = none

namespace World

variable {w : World} {op : Operation} {issued gone : List EntityId} {id : EntityId}

theorem mem_issues_iff :
    id ∈ w.issues op ↔ op.isSpawn = true ∧ id = ⟨w.nextEntityId⟩ := by
  cases op <;> simp [issues, Operation.isSpawn, spawn]

theorem mem_removes_iff :
    id ∈ w.removes op ↔ op = .despawn id ∧ (w.get? id).isSome := by
  cases op with
  | despawn k =>
      have hfound : (w.despawn k).1.isSome = (w.get? k).isSome := by
        unfold despawn
        cases w.get? k <;> rfl
      rw [removes, hfound]
      by_cases hk : k = id
      · subst hk
        cases w.get? k <;> simp
      · cases w.get? k <;> simp [hk, Ne.symm hk]
  | _ => simp [removes]

/-- The number that is next has not been handed out. -/
theorem Books.next_not_mem (h : w.Books issued gone) : (⟨w.nextEntityId⟩ : EntityId) ∉ issued :=
  fun hmem => Nat.lt_irrefl _ (h.issued_lt _ hmem)

/-- An operation that does not wrap a counter around keeps the books in order. -/
theorem Books.apply (h : w.Books issued gone) (hw : w.Orderly) (hkind : op.KeepsKind w)
    (hroom : w.HasRoomFor op) :
    (w.apply op).Books (issued ++ w.issues op) (gone ++ w.removes op) := by
  have hcounter := (toNat_counters_apply hroom).1
  have hle : w.nextEntityId.toNat ≤ (w.apply op).nextEntityId.toNat := by omega
  constructor
  · have hissues : (w.issues op).Nodup := by cases op <;> simp [issues]
    refine List.nodup_append.2 ⟨h.nodup_issued, hissues, ?_⟩
    rintro id hid _ hnew rfl
    exact h.next_not_mem ((mem_issues_iff.1 hnew).2 ▸ hid)
  · intro id hid
    rcases List.mem_append.1 hid with hid | hnew
    · exact Nat.lt_of_lt_of_le (h.issued_lt id hid) hle
    · obtain ⟨hspawn, rfl⟩ := mem_issues_iff.1 hnew
      rw [hcounter, hspawn]
      exact Nat.lt_succ_self _
  · intro id hid
    rcases List.mem_append.1 hid with hid | hnew
    · exact Nat.lt_of_lt_of_le (h.gone_lt id hid) hle
    · obtain ⟨-, hfound⟩ := mem_removes_iff.1 hnew
      obtain ⟨e, he⟩ := Option.isSome_iff_exists.1 hfound
      exact Nat.lt_of_lt_of_le (hw.entity_lt he) hle
  · intro id hid
    rcases List.mem_append.1 hid with hid | hnew
    · refine Option.eq_none_iff_forall_ne_some.2 fun e' he' => ?_
      rcases get?_apply_cases hkind he' with ⟨-, -, rfl, -⟩ | ⟨e, he, -⟩
      · -- a new entity has a number above all that are gone
        exact Nat.lt_irrefl _ (h.gone_lt _ hid)
      · rw [h.get?_gone id hid] at he
        cases he
    · obtain ⟨rfl, -⟩ := mem_removes_iff.1 hnew
      exact get?_despawn.trans (if_pos rfl)

theorem books_empty (map : MapInfo) : ({ map } : World).Books [] [] where
  nodup_issued := .nil
  issued_lt _ h := by cases h
  gone_lt _ h := by cases h
  get?_gone _ h := by cases h

end World

namespace History

variable {ops : List Operation} {issued gone : List EntityId} {w : World}

/-- Saving and loading leaves no trace, so a history is a run. -/
theorem run (h : History ops issued gone w) : Run Operation.KeepsKind ops w := by
  induction h with
  | start map => exact .start map
  | step op _ hop ih => exact ih.step op hop
  | reload _ hsaved ih => exact eq_of_decodeText? hsaved ▸ ih

theorem books (h : History ops issued gone w) (hspawned : spawned ops < UInt64.size)
    (hfounded : founded ops < UInt32.size) : w.Books issued gone := by
  induction h with
  | start map => exact World.books_empty map
  | @step ops issued gone w op hbefore hop ih =>
      have hspawned' := Nat.lt_of_le_of_lt (spawned_le_concat ops op) hspawned
      have hfounded' := Nat.lt_of_le_of_lt (founded_le_concat ops op) hfounded
      have hcounters := hbefore.run.counters hspawned' hfounded'
      exact (ih hspawned' hfounded').apply (hbefore.run.orderly hspawned' hfounded') hop
        (World.hasRoomFor_of_counters hcounters hspawned hfounded)
  | reload _ hsaved ih => exact eq_of_decodeText? hsaved ▸ ih hspawned hfounded

end History

/-- A number leads nowhere, whatever kind of entity is looked for. -/
structure View.Dangling (v : View) (id : EntityId) : Prop where
  object? : v.object? id = none
  unit? : v.unit? id = none
  player? : v.player? id = none
  gameObject? : v.gameObject? id = none
  dynamicObject? : v.dynamicObject? id = none
  corpse? : v.corpse? id = none

theorem View.dangling_of_get?_eq_none {v : View} {id : EntityId} (h : v.world.get? id = none) :
    v.Dangling id := by
  have hobject : v.object? id = none := by rw [View.object?, h, Option.map_none]
  have hunit : v.unit? id = none := by rw [View.unit?, h, Option.bind_none]
  constructor
  · exact hobject
  · exact hunit
  · rw [View.player?, hunit, Option.bind_none]
  · rw [View.gameObject?, hobject]
  · rw [View.dynamicObject?, hobject]
  · rw [View.corpse?, hobject]

/-- Whatever happened to a world within the bounds of its counters, saving and loading included:
everything is stored under its own number, as the kind of thing that it is, below the next number;
no number was handed out twice; the next entity gets a new number and disturbs nothing; what has
gone is never found again; and the world is loaded as it is saved. -/
theorem History.identity {ops : List Operation} {issued gone : List EntityId} {w : World}
    (h : History ops issued gone w) (hspawned : spawned ops < UInt64.size)
    (hfounded : founded ops < UInt32.size) :
    (∀ {id e}, w.get? id = some e →
      e.id = id ∧ e.kind = e.body.kind ∧ id.val < w.nextEntityId) ∧
      issued.Nodup ∧
      (∀ body, (w.spawn body).1 ∉ issued ∧ w.get? (w.spawn body).1 = none ∧
        (∀ k, k ≠ (w.spawn body).1 → (w.spawn body).2.get? k = w.get? k) ∧
        ∀ g, (w.spawn body).2.group? g = w.group? g) ∧
      (∀ id ∈ gone, ∀ v : View, v.world = w → v.Dangling id) ∧
      decodeText? (encodeText w) = some w := by
  have hw := h.run.orderly hspawned hfounded
  have hbooks := h.books hspawned hfounded
  refine ⟨fun he => ?_, hbooks.nodup_issued, fun body => ?_, ?_, decodeText?_encodeText w⟩
  · exact ⟨hw.own_id he, hw.own_kind he, UInt64.lt_iff_toNat_lt.2 (hw.entity_lt he)⟩
  · refine ⟨hbooks.next_not_mem, hw.get?_next, fun k hk => ?_, fun g => rfl⟩
    exact World.get?_spawn.trans (if_neg (Ne.symm hk))
  · rintro id hid v rfl
    exact View.dangling_of_get?_eq_none (hbooks.get?_gone id hid)

/-- A player comes, puts up a game object and leaves, and another player comes. -/
def estate : List Operation :=
  [.spawn (.newPlayer 1 .alliance), .spawn (.gameObject { holder := some ⟨0⟩ }), .despawn ⟨0⟩,
    .spawn (.newPlayer 1 .horde)]

/-- The world is saved and loaded when the first player has left.  Still the second player does not
come into the estate: the owner of the game object is gone for good. -/
theorem identity_estate :
    ∃ w, History estate [⟨0⟩, ⟨1⟩, ⟨2⟩] [⟨0⟩] w ∧ spawned estate < UInt64.size ∧
      founded estate < UInt32.size ∧ (w.get? ⟨2⟩).isSome ∧
      (⟨w, {}, {}⟩ : View).Dangling ⟨0⟩ := by
  have hleft := (((History.start {}).step (.spawn (.newPlayer 1 .alliance)) trivial).step
    (.spawn (.gameObject { holder := some ⟨0⟩ })) trivial).step (.despawn ⟨0⟩) trivial
  have hsaved := hleft.reload (decodeText?_encodeText _)
  have h : History estate [⟨0⟩, ⟨1⟩, ⟨2⟩] [⟨0⟩] (estate.foldl World.apply {}) :=
    hsaved.step (.spawn (.newPlayer 1 .horde)) trivial
  have hspawned : spawned estate < UInt64.size := by decide
  have hfounded : founded estate < UInt32.size := by decide
  obtain ⟨-, -, -, hgone, -⟩ := h.identity hspawned hfounded
  exact ⟨_, h, hspawned, hfounded, rfl, hgone ⟨0⟩ List.mem_cons_self _ rfl⟩

end Rapport
