import RecordSearch.Query.Basic
/-!
# Records

A record is what is known of one thing of a schema: its attributes, and the related records that
were loaded along. Its key is the text of its key attribute, so the number one and the text `1`
are the same key. What is written into the index is an `Entry`; a record is one kind of entry.
-/

namespace RecordSearch

/-- The records that a relation attaches. -/
inductive Related (ρ : Type) where
  /-- One record, or none. -/
  | one (record : Option ρ)
  /-- A list of records. -/
  | many (records : List ρ)

/-- A record of a schema. -/
structure Record where
  /-- The schema of the record. -/
  schema : Schema
  /-- The attributes. -/
  attributes : Object
  /-- The related records under the names of their relations. -/
  relations : List (String × Related Record) := []

/-- What is written into the index for one document. -/
structure Entry where
  /-- The schema that says where the document goes. -/
  schema : Schema
  /-- The id of the document, if it is known. -/
  key : Option String
  /-- The contents of the document; without contents nothing is written. -/
  projection : Object

namespace Record

/-- The record with the given attributes; without attributes there is no record. -/
def hydrate? (schema : Schema) (attributes : Object) : Option Record :=
  if attributes.isEmpty then none else some { schema := schema, attributes := attributes }

/-- The record of a document; only an object with fields is one. -/
def ofSource? (schema : Schema) (source : Json) : Option Record :=
  source.object?.bind (hydrate? schema)

/-- The value of an attribute. -/
def get? (record : Record) (name : String) : Option Json :=
  record.attributes.get? name

/-- The record with an attribute. -/
def set (record : Record) (name : String) (value : Json) : Record :=
  { record with attributes := record.attributes.insert name value }

/-- The record with attributes written over its own. -/
def fill (record : Record) (attributes : Object) : Record :=
  { record with attributes := record.attributes.overlay attributes }

/-- The record changed at a time, if its schema keeps the time of changes. -/
def touch (record : Record) (now : String) : Record :=
  if record.schema.timestamps then record.set "updated_at" (.string now) else record

/-- The text of an attribute. -/
def attributeText? (record : Record) (name : String) : Option String :=
  (record.get? name).bind Json.scalarText?

/-- The key of a record. -/
def key? (record : Record) : Option String :=
  record.attributeText? record.schema.keyName

/-- The records attached for a relation. -/
def relation? (record : Record) (name : String) : Option (Related Record) :=
  Fields.get? record.relations name

/-- The record with records attached for a relation. -/
def attach (record : Record) (name : String) (related : Related Record) : Record :=
  { record with relations := Fields.insert record.relations name related }

/-- What a reader makes of the attributes; a record without the shape that the reader wants is
malformed. -/
def readAs {α : Type} (record : Record) (read? : Object → Option α) : Except Error α :=
  match read? record.attributes with
  | some value => .ok value
  | none => .error (.malformed (.unfitRecord record.schema.table))

/-- What is written into the index for a record. -/
def toEntry (record : Record) : Entry where
  schema := record.schema
  key := record.key?
  projection := record.attributes

mutual

/-- Equality of records: of table, attributes and attached records. -/
def same : Record → Record → Bool
  | ⟨s, a, r⟩, ⟨s', a', r'⟩ =>
    s.table == s'.table && Json.sameFields a.entries a'.entries && sameRelations r r'

/-- Equality of attached records, relation by relation. -/
def sameRelations : List (String × Related Record) → List (String × Related Record) → Bool
  | [], [] => true
  | (k, x) :: xs, (l, y) :: ys => k == l && sameRelated x y && sameRelations xs ys
  | _, _ => false

/-- Equality of the records of one relation. -/
def sameRelated : Related Record → Related Record → Bool
  | .one a, .one b => sameOptions a b
  | .many as, .many bs => sameLists as bs
  | _, _ => false

/-- Equality of records that may be absent. -/
def sameOptions : Option Record → Option Record → Bool
  | none, none => true
  | some a, some b => same a b
  | _, _ => false

/-- Equality of lists of records. -/
def sameLists : List Record → List Record → Bool
  | [], [] => true
  | a :: as, b :: bs => same a b && sameLists as bs
  | _, _ => false

end

@[simp]
theorem hydrate?_eq_none_iff {schema : Schema} {attributes : Object} :
    hydrate? schema attributes = none ↔ attributes = ∅ := by
  unfold hydrate?
  split <;> simp_all

theorem hydrate?_of_ne_empty (schema : Schema) {attributes : Object} (h : attributes ≠ ∅) :
    hydrate? schema attributes = some { schema := schema, attributes := attributes } := by
  rw [hydrate?]
  rw [if_neg fun e ↦ h (Dict.isEmpty_iff.1 e)]

/-- Filling asks the new attributes first. -/
theorem get?_fill (record : Record) (attributes : Object) (name : String) :
    (record.fill attributes).get? name = (attributes.get? name).or (record.get? name) :=
  Dict.get?_overlay _ _ _

end Record

end RecordSearch
