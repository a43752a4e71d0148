import RecordSearch.Query.Criteria
import RecordSearch.Text.Quoted
/-!
# Schemas

A schema says how one table's records are kept in the search index: the names of the index and
of the document type, the key attribute, settings and mapping, and the relations to other schemas.
A relation holds its related schema, so a schema is a finite tree of schemas, and whatever follows
relations from schema to schema comes to an end (`sizeOf_related_lt`).
-/

namespace RecordSearch

/-- How many records a relation attaches. -/
inductive Cardinality where
  /-- One record, or none. -/
  | one
  /-- A list of records. -/
  | many
deriving DecidableEq, Inhabited

/-- A relation to records of a related schema. -/
structure RelationTo (σ : Type) where
  /-- The schema of the related records. -/
  related : σ
  /-- The attribute of the owning record. -/
  foreignKey : String
  /-- The attribute of the related records that has the same value. -/
  ownerKey : String
  /-- How many records are attached. -/
  cardinality : Cardinality
  /-- How many related records are fetched at most for a list. -/
  maxRelated : Nat := 10000

/-- How the records of a table are kept in the search index. -/
structure Schema where
  /-- The table of the records. -/
  table : String
  /-- The type of the documents. -/
  typeName : String
  /-- The attribute that identifies a record. -/
  keyName : String
  /-- The settings that a new index gets. -/
  settings : Object
  /-- The mapping of the index. -/
  mapping : Object
  /-- The indices that stand for the base index, under their names. -/
  aliases : Dict String
  /-- The relations under their names. -/
  relations : List (String × RelationTo Schema)
  /-- The rules for free text. -/
  rules : List Rule
  /-- Are records marked in place of being deleted? -/
  softDelete : Bool
  /-- Is the time of a change written into the record? -/
  timestamps : Bool
  /-- The usual length of a page. -/
  perPage : Nat
  /-- How the attributes of a found record are changed, or the record dropped. -/
  cast : Option (Object → Option Object)

/-- A relation of a schema. -/
abbrev Relation : Type := RelationTo Schema

namespace Schema

/-- The settings of a new index, unless the schema has its own. -/
def defaultSettings : Object :=
  .ofList [("number_of_shards", .ofNat 5), ("number_of_replicas", .ofNat 1)]

/-- The mapping of an index, unless the schema has its own. -/
def defaultMapping : Object :=
  .single "properties" (.single "id" (.single "type" (.string "long")))

/-- The plain schema of a table. -/
def ofTable (table : String) : Schema where
  table := table
  typeName := table
  keyName := "id"
  settings := defaultSettings
  mapping := defaultMapping
  aliases := ∅
  relations := []
  rules := [.queryString]
  softDelete := false
  timestamps := false
  perPage := 15
  cast := none

/-- The schema with pages of a length of its own, one at least. -/
def withPerPage (schema : Schema) (perPage : Nat) : Schema :=
  { schema with perPage := max perPage 1 }

/-- The schema with settings of its own; only the fields of an object count. -/
def withSettings (schema : Schema) (settings : Json) : Schema :=
  { schema with settings := settings.fieldsOrNone }

/-- The schema with a mapping of its own; only the fields of an object count. -/
def withMapping (schema : Schema) (mapping : Json) : Schema :=
  { schema with mapping := mapping.fieldsOrNone }

/-- The schema with one more relation. -/
def withRelation (schema : Schema) (name : String) (relation : Relation) : Schema :=
  { schema with relations := Fields.insert schema.relations name relation }

/-- The name of the base index. -/
def indexName (schema : Schema) : String :=
  schema.table ++ "_index"

/-- The index that an alias stands for. -/
def aliasIndex? (schema : Schema) (name : String) : Option String :=
  schema.aliases.get? name

/-- The relation of a name. -/
def relation? (schema : Schema) (name : String) : Option Relation :=
  Fields.get? schema.relations name

/-- The related schema is a part of the schema. -/
theorem sizeOf_related_lt {schema : Schema} {name : String} {relation : Relation}
    (h : schema.relation? name = some relation) : sizeOf relation.related < sizeOf schema := by
  have hlt : sizeOf relation < sizeOf schema.relations := Fields.sizeOf_lt_of_get?_eq_some h
  cases schema
  cases relation
  simp only [Schema.mk.sizeOf_spec, RelationTo.mk.sizeOf_spec] at hlt ⊢
  omega

/-- A truth value in words. -/
private def truth (b : Bool) : String :=
  if b then "true" else "false"

/-- A summary of the schema in one line. -/
def summary (schema : Schema) : String :=
  let names := schema.relations.map fun relation ↦ Text.quoted relation.1
  "ModelSchema \x7b table: " ++ Text.quoted schema.table ++
    ", type_name: " ++ Text.quoted schema.typeName ++
    ", key_name: " ++ Text.quoted schema.keyName ++
    ", relations: [" ++ ", ".intercalate names ++
    "], search_rules: " ++ toString schema.rules.length ++
    ", soft_delete: " ++ truth schema.softDelete ++
    ", timestamps: " ++ truth schema.timestamps ++
    ", per_page: " ++ toString schema.perPage ++
    ", callback_model: " ++ truth schema.cast.isSome ++ " \x7d"

end Schema

end RecordSearch
