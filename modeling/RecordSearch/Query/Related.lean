import RecordSearch.Query.Search
import RecordSearch.Query.Steps
/-!
# Loading related records along

`Query.complete` maps a response and attaches the related records that the query asks for. Each
relation takes one query, for the related records whose owner key is among the foreign keys of all
records at once; a path of relations is handed to the query for its first part. Records and
related records are matched by the text of their keys.

Each of these queries is over a related schema, which is a part of the schema at hand
(`Schema.sizeOf_related_lt`), so the loading ends.
-/

namespace RecordSearch

/-- The values of an attribute, each once and in order of appearance; null is no value. -/
def distinctValues (records : List Record) (name : String) : List Json :=
  records.foldl (fun seen record ↦
    match record.get? name with
    | none => seen
    | some .null => seen
    | some value => if seen.any fun known ↦ known.same value then seen else seen ++ [value]) []

namespace Load

/-- The rest of a text behind a beginning. -/
def behind? : List Char → List Char → Option (List Char)
  | [], text => some text
  | c :: start, d :: text => if c = d then behind? start text else none
  | _ :: _, [] => none

/-- The load as the query for a relation sees it, if its path begins with the relation. -/
def under? (load : Load) (parent : String) : Option Load :=
  (behind? (parent.toList ++ ['.']) load.name.toList).map fun rest ↦
    { load with name := String.ofList rest }

/-- The refinement that asks for a load. -/
def toStep (load : Load) : Step :=
  .load load.name load.constraint

end Load

/-- The query for the related records of some keys. -/
def Relation.query (relation : Relation) (load : Load) (loads : List Load) (keys : List Json) :
    Query :=
  let size := match relation.cardinality with
    | .one => keys.length
    | .many => relation.maxRelated
  let nested := loads.filterMap fun other ↦ other.under? load.name
  (((relation.related.query.take size).refine (load.constraint.getD [])).refine
    (nested.map Load.toStep)).refine [.whereIn relation.ownerKey keys]

@[simp]
theorem Relation.schema_query (relation : Relation) (load : Load) (loads : List Load)
    (keys : List Json) : (relation.query load loads keys).schema = relation.related := by
  simp [Relation.query, Query.take]

/-- The related records of a record: those whose owner key has the text of its foreign key. -/
def Relation.matching (relation : Relation) (record : Record) (related : List Record) :
    Related Record :=
  let found := match record.attributeText? relation.foreignKey with
    | some key => related.filter fun other ↦ other.attributeText? relation.ownerKey = some key
    | none => []
  match relation.cardinality with
  | .one => .one found.head?
  | .many => .many found

namespace Query

/-- The result of a query from its response, related records attached. -/
def complete (query : Query) (response : Response) : Fetch Mapped :=
  match response.map query with
  | .buckets buckets => pure (.buckets buckets)
  | .records [] => pure (.records [])
  | .records found => do
    let direct := query.loads.filter fun load ↦ !load.isNested
    let loaded ← direct.foldlM (fun records load ↦
      match _h : query.schema.relation? load.name with
      | none => throw (.configuration (.unknownRelation query.schema.table load.name))
      | some relation => do
        let keys := distinctValues records relation.foreignKey
        let related ←
          if keys.isEmpty then pure []
          else do
            let inner := relation.query load query.loads keys
            let response ← inner.search
            let mapped ← complete inner response
            pure mapped.toRecords
        pure (records.map fun record ↦
          record.attach load.name (relation.matching record related))) found
    pure (.records loaded)
termination_by sizeOf query.schema
decreasing_by
  rw [Relation.schema_query]
  exact Schema.sizeOf_related_lt ‹_›

/-- The result of a query, related records attached. -/
def get (query : Query) : Fetch Mapped := do
  let response ← query.search
  query.complete response

end Query

end RecordSearch
