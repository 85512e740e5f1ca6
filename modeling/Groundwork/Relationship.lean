import Groundwork.Entity
import Groundwork.Entry.List

/-!
# Relationships

A relationship of an entity with another one. Its entry in a specification is
`name:Target:cardinality`, three parts separated by colons; blanks around them do not count.
`Relationship.parse` reports the first thing that is wrong, the number of parts before anything
else.
-/

namespace Groundwork

open Text

/-- How many entities of the target belong to one entity. -/
inductive Cardinality
  /-- One, to which a foreign key refers. -/
  | one
  /-- Any number. -/
  | many
  deriving DecidableEq, Repr

namespace Cardinality

/-- The words for cardinalities, in lower case. -/
def words : List (String × Cardinality) := [("one", .one), ("many", .many)]

/-- The cardinality that a word names, in any letter case. -/
def ofWord? (word : String) : Option Cardinality := words.lookup (lower word)

/-- The word for a cardinality. -/
def name : Cardinality → String
  | one => "one"
  | many => "many"

end Cardinality

/-- A relationship of an entity. -/
structure Relationship where
  /-- The name of the attribute. -/
  name : String
  /-- The class name of the other entity. -/
  target : String
  /-- How many entities of the target there are. -/
  cardinality : Cardinality
  deriving DecidableEq, Repr

namespace Relationship

/-- The relationship that the parts of `entry` spell. -/
def ofParts (entry : String) : List String → Except EntryError Relationship
  | [name, target, word] =>
    if name = "" then .error (.emptyName entry)
    else if !isMemberName name then .error (.invalidName entry name)
    else if target = "" then .error (.malformedRelationship entry)
    else do
      let entity ← Entity.parse target
      match Cardinality.ofWord? word with
      | some cardinality => pure ⟨name, entity.typeName, cardinality⟩
      | none => throw (.unknownCardinality name word)
  | _ => .error (.malformedRelationship entry)

/-- The relationship that an entry spells. -/
def parse (entry : String) : Except EntryError Relationship :=
  ofParts entry ((split ':' entry).map trim)

/-- The relationships that a list of entries spells. -/
def parseList (spec : Option String) : Except EntryError (List Relationship) :=
  Entry.parseList parse spec

/-- The table of the other entity. -/
def targetTable (r : Relationship) : String := Inflection.tableName r.target

/-- The column that refers to the other entity. -/
def foreignKey (r : Relationship) : String := r.name ++ "_id"

end Relationship

end Groundwork
