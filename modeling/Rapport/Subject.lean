import Rapport.Spell

/-!
# Asking an entity of any kind

Every entity can be asked how it regards a unit or a corpse, and whether it may hit a unit with a
spell.  Units answer for themselves.  A game object answers as its owner would, and without an owner
goes by its own template.  A dynamic object answers as its caster would, and without a caster has no
opinion.  Corpses have none either.  Only units regard corpses in any other way than as neutral.

A dynamic object may help a unit with a spell when its caster may *attack* the unit with it.
-/

namespace Rapport.View

/-! ### Game objects -/

/-- How a game object regards a unit: as its owner does, or else as its own template does. -/
def gameObjectReaction (v : View) (o : LiveGameObject) (target : LiveUnit) : Rank :=
  match v.holder? o.toLiveThing with
  | some owner => v.reaction owner target
  | none => v.templateReactionToUnit (v.thingTemplate? o.toLiveThing) target

/-- Whether a game object regards a unit as an enemy.  With neither an owner nor a template it
regards nobody so. -/
def gameObjectIsEnemy (v : View) (o : LiveGameObject) (target : LiveUnit) : Bool :=
  match v.holder? o.toLiveThing with
  | some owner => v.isEnemy owner target
  | none =>
    (v.thingTemplate? o.toLiveThing).any fun t => (v.templateReactionToUnit (some t) target).isEnemy

/-- Whether a game object regards a unit as a friend.  With neither an owner nor a template it
regards nobody so. -/
def gameObjectIsFriend (v : View) (o : LiveGameObject) (target : LiveUnit) : Bool :=
  match v.holder? o.toLiveThing with
  | some owner => v.isFriend owner target
  | none =>
    (v.thingTemplate? o.toLiveThing).any fun t =>
      (v.templateReactionToUnit (some t) target).isFriend

/-- Whether a game object may hit a unit with a harmful spell.  Without an owner it hits units under
players' control unless they are friends, and others only if they are enemies. -/
def gameObjectCanAttackSpell (v : View) (o : LiveGameObject) (target : LiveUnit)
    (spell : Option Spell) (isArea : Bool) : Bool :=
  match v.holder? o.toLiveThing with
  | some owner => v.canAttackSpell owner target spell isArea
  | none =>
    if target.isPlayerControlled then !v.gameObjectIsFriend o target
    else v.gameObjectIsEnemy o target

/-- Whether a game object may hit a unit with a helpful spell.  Without an owner it helps units
under players' control unless they are enemies, and others only if they are friends. -/
def gameObjectCanAssistSpell (v : View) (o : LiveGameObject) (target : LiveUnit)
    (spell : Option Spell) : Bool :=
  match v.holder? o.toLiveThing with
  | some owner => v.canAssistSpell owner target spell
  | none =>
    if target.isPlayerControlled then !v.gameObjectIsEnemy o target
    else v.gameObjectIsFriend o target

/-! ### Any entity -/

/-- How an entity regards a unit. -/
def subjectReaction (v : View) (subject : LiveObject) (target : LiveUnit) : Rank :=
  match subject with
  | .unit u => v.reaction u target
  | .gameObject o => v.gameObjectReaction o target
  | .dynamicObject o => ((v.holder? o.toLiveThing).map (v.reaction · target)).getD .neutral
  | .corpse _ => .neutral

/-- How an entity regards a corpse. -/
def subjectReactionToCorpse (v : View) (subject : LiveObject) (c : LiveCorpse) : Rank :=
  match subject with
  | .unit u => v.reactionToCorpse u c
  | _ => .neutral

/-- Whether an entity regards a unit as an enemy. -/
def subjectIsEnemy (v : View) (subject : LiveObject) (target : LiveUnit) : Bool :=
  match subject with
  | .unit u => v.isEnemy u target
  | .gameObject o => v.gameObjectIsEnemy o target
  | .dynamicObject o => (v.holder? o.toLiveThing).any (v.isEnemy · target)
  | .corpse _ => false

/-- Whether an entity regards a unit as a friend. -/
def subjectIsFriend (v : View) (subject : LiveObject) (target : LiveUnit) : Bool :=
  match subject with
  | .unit u => v.isFriend u target
  | .gameObject o => v.gameObjectIsFriend o target
  | .dynamicObject o => (v.holder? o.toLiveThing).any (v.isFriend · target)
  | .corpse _ => false

/-- Whether an entity may hit a unit with a harmful spell. -/
def subjectCanAttackSpell (v : View) (subject : LiveObject) (target : LiveUnit)
    (spell : Option Spell) (isArea : Bool) : Bool :=
  match subject with
  | .unit u => v.canAttackSpell u target spell isArea
  | .gameObject o => v.gameObjectCanAttackSpell o target spell isArea
  | .dynamicObject o => (v.holder? o.toLiveThing).any (v.canAttackSpell · target spell isArea)
  | .corpse _ => false

/-- Whether an entity may hit a unit with a helpful spell. -/
def subjectCanAssistSpell (v : View) (subject : LiveObject) (target : LiveUnit)
    (spell : Option Spell) : Bool :=
  match subject with
  | .unit u => v.canAssistSpell u target spell
  | .gameObject o => v.gameObjectCanAssistSpell o target spell
  | .dynamicObject o => (v.holder? o.toLiveThing).any (v.canAttackSpell · target spell false)
  | .corpse _ => false

end Rapport.View
