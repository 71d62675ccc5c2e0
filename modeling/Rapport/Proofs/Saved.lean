import Rapport.Config
import Rapport.Spell
import Rapport.World
import Rapport.Proofs.Json.Codec

/-!
# What is saved is loaded

Every record of the library is faithful, from the faction templates to the whole world, and so is
the body of an entity, whose form depends on its kind.  A world is therefore loaded exactly as it
was saved, whatever is in it: bits without a name, kinds that are at odds with their bodies,
entities under foreign numbers, groups and players that disagree.  The same holds for the
configuration, for static data, spells and reputations (`saved_is_loaded`).
-/

namespace Rapport

open Json

/-! ### Names -/

instance : WordNamed Rank := ⟨fun a => by cases a <;> decide⟩

instance : FaithfulCodec Rank := Codec.faithful_ofNamed Rank

instance : WordNamed Team := ⟨fun a => by cases a <;> decide⟩

instance : FaithfulCodec Team := Codec.faithful_ofNamed Team

instance : WordNamed ReactState := ⟨fun a => by cases a <;> decide⟩

instance : FaithfulCodec ReactState := Codec.faithful_ofNamed ReactState

instance : WordNamed Kind := ⟨fun a => by cases a <;> decide⟩

instance : FaithfulCodec Kind := Codec.faithful_ofNamed Kind

/-! ### Static data, spells and configuration -/

theorem FactionTemplate.faithful_record : FactionTemplate.record.Faithful where
  plain_write := by simp [record]
  rebuild t := by simp [record]

instance : FaithfulCodec FactionTemplate := FactionTemplate.faithful_record.codec

theorem Faction.faithful_record : Faction.record.Faithful where
  plain_write := by simp [record]
  rebuild f := by simp [record]

instance : FaithfulCodec Faction := Faction.faithful_record.codec

theorem ShapeshiftForm.faithful_record : ShapeshiftForm.record.Faithful where
  plain_write := by simp [record]
  rebuild f := by simp [record]

instance : FaithfulCodec ShapeshiftForm := ShapeshiftForm.faithful_record.codec

theorem Spell.faithful_record : Spell.record.Faithful where
  plain_write := by simp [record]
  rebuild s := by simp [record]

instance : FaithfulCodec Spell := Spell.faithful_record.codec

theorem FogOfWar.faithful_record : FogOfWar.record.Faithful where
  plain_write := by simp [record]
  rebuild f := by simp [record]

instance : FaithfulCodec FogOfWar := FogOfWar.faithful_record.codec

theorem Config.faithful_record : Config.record.Faithful where
  plain_write := by simp [record]
  rebuild c := by simp [record]

instance : FaithfulCodec Config := Config.faithful_record.codec

/-! ### State of entities -/

theorem Reputation.faithful_record : Reputation.record.Faithful where
  plain_write := by simp [record]
  rebuild r := by simp [record]

instance : FaithfulCodec Reputation := Reputation.faithful_record.codec

theorem UnitState.faithful_record : UnitState.record.Faithful where
  plain_write := by simp [record]
  rebuild u := by simp [record]

instance : FaithfulCodec UnitState := UnitState.faithful_record.codec

theorem Duel.faithful_record : Duel.record.Faithful where
  plain_write := by simp [record]
  rebuild d := by simp [record]

instance : FaithfulCodec Duel := Duel.faithful_record.codec

instance : NeverNull Duel := Duel.record.neverNull_codec

theorem PlayerState.faithful_record : PlayerState.record.Faithful where
  plain_write := by simp [record]
  rebuild p := by simp [record]

instance : FaithfulCodec PlayerState := PlayerState.faithful_record.codec

theorem CreatureState.faithful_record : CreatureState.record.Faithful where
  plain_write := by simp [record]
  rebuild c := by simp [record]

instance : FaithfulCodec CreatureState := CreatureState.faithful_record.codec

theorem faithful_playerPair : playerPair.Faithful where
  plain_write := by simp [playerPair]
  rebuild x := by simp [playerPair]

theorem faithful_creaturePair : creaturePair.Faithful where
  plain_write := by simp [creaturePair]
  rebuild x := by simp [creaturePair]

theorem Attachment.faithful_record {holderName : String} (hword : Text.isWord holderName = true)
    (hne : holderName ≠ "faction_template") : (Attachment.record holderName).Faithful where
  nodup_names := by simpa [record, Field.of, Field.optional] using hne
  isWord_name := by
    rw [record, List.forall_mem_cons, List.forall_mem_cons]
    exact ⟨hword, by decide, by simp⟩
  plain_write := by simp [record]
  rebuild a := by simp [record]

theorem Attachment.faithful_owner : (Attachment.record "owner").Faithful :=
  faithful_record (by decide) (by decide)

theorem Attachment.faithful_caster : (Attachment.record "caster").Faithful :=
  faithful_record (by decide) (by decide)

/-! ### Entities and worlds -/

namespace Body

/-- The state in a body is read back for the kind of the body. -/
theorem decodeState?_encodeState (body : Body) :
    decodeState? body.encodeState body.kind = some body := by
  cases body with
  | unit u role =>
      cases role with
      | player p => exact congrArg (Option.map _) (faithful_playerPair.read?_write (u, p))
      | creature c => exact congrArg (Option.map _) (faithful_creaturePair.read?_write (u, c))
  | gameObject a => exact congrArg (Option.map _) (Attachment.faithful_owner.read?_write a)
  | dynamicObject a => exact congrArg (Option.map _) (Attachment.faithful_caster.read?_write a)
  | corpse a => exact congrArg (Option.map _) (Attachment.faithful_owner.read?_write a)

theorem plain_encodeState (body : Body) : body.encodeState.Plain := by
  cases body with
  | unit u role =>
      cases role with
      | player p => exact faithful_playerPair.plain (u, p)
      | creature c => exact faithful_creaturePair.plain (u, c)
  | gameObject a => exact Attachment.faithful_owner.plain a
  | dynamicObject a => exact Attachment.faithful_caster.plain a
  | corpse a => exact Attachment.faithful_owner.plain a

instance : FaithfulCodec Body where
  decode?_encode body := by
    have hkind : (Quoted.ofText (Named.name body.kind)).text?.bind Named.ofName? = some body.kind := by
      rw [Quoted.text?_ofText, Option.bind_some, LawfulNamed.ofName?_name]
    change ((Quoted.ofText (Named.name body.kind)).text?.bind Named.ofName?).bind
      (decodeState? body.encodeState) = some body
    rw [hkind, Option.bind_some, decodeState?_encodeState]
  plain_encode body := by
    refine plain_ofMembers ?_ ?_
    · rw [List.forall_mem_singleton]
      exact le_toNat_of_isWord (WordNamed.isWord_name body.kind)
    · rw [List.forall_mem_singleton]
      exact body.plain_encodeState

end Body

theorem Entity.faithful_record : Entity.record.Faithful where
  plain_write := by simp [record]
  rebuild e := by simp [record]

instance : FaithfulCodec Entity := Entity.faithful_record.codec

theorem Group.faithful_record : Group.record.Faithful where
  plain_write := by simp [record]
  rebuild g := by simp [record]

instance : FaithfulCodec Group := Group.faithful_record.codec

theorem MapInfo.faithful_record : MapInfo.record.Faithful where
  plain_write := by simp [record]
  rebuild m := by simp [record]

instance : FaithfulCodec MapInfo := MapInfo.faithful_record.codec

theorem World.faithful_record : World.record.Faithful where
  plain_write := by simp [record]
  rebuild w := by simp [record]

instance : FaithfulCodec World := World.faithful_record.codec

/-! ### Saving and loading -/

/-- Every value is loaded as it was saved.  So no two values have one text, and saving what was
loaded gives the text again that it was loaded from. -/
structure RoundTrips (α : Type) [Codec α] : Prop where
  decodeText?_encodeText : ∀ a : α, decodeText? (encodeText a) = some a
  injective : ∀ a b : α, encodeText a = encodeText b → a = b
  stable : ∀ a b : α, decodeText? (encodeText a) = some b → encodeText b = encodeText a

theorem roundTrips (α : Type) [Codec α] [FaithfulCodec α] : RoundTrips α where
  decodeText?_encodeText := decodeText?_encodeText
  injective a b h := by
    have hread : decodeText? (encodeText b) = some a := h ▸ decodeText?_encodeText a
    exact eq_of_decodeText? hread
  stable a b h := congrArg encodeText (eq_of_decodeText? h)

/-- Whatever is saved is loaded again: worlds, configurations, the records of static data, spells
and reputations. -/
theorem saved_is_loaded :
    RoundTrips World ∧ RoundTrips Config ∧ RoundTrips FactionTemplate ∧ RoundTrips Faction ∧
      RoundTrips ShapeshiftForm ∧ RoundTrips Spell ∧ RoundTrips Reputation :=
  ⟨roundTrips World, roundTrips Config, roundTrips FactionTemplate, roundTrips Faction,
    roundTrips ShapeshiftForm, roundTrips Spell, roundTrips Reputation⟩

end Rapport
