import RecordSearch.Json.Path
import RecordSearch.Record
/-!
# Responses and what they map to

A response is read leniently: what is not there, or not of the expected kind, counts as nothing.
`Response.map` turns it into records of a query's schema, or into the buckets of its first
aggregation if the query groups. A hit without attributes is no record.
-/

namespace RecordSearch

/-! ### Responses -/

/-- The total that an answer reports: a number, or the value of an object. -/
def totalHits (body : Json) : Nat :=
  match body.at? ["hits", "total"] with
  | some (.number n) => n.nat?.getD 0
  | some (.object fields) => (((Json.object fields).field? "value").bind Json.nat?).getD 0
  | _ => 0

/-- One document that was found. -/
structure Hit where
  /-- The id of the document. -/
  id : Option String
  /-- The index of the document. -/
  index : Option String
  /-- The fields of the document. -/
  source : Object
deriving DecidableEq

/-- Read a hit. -/
def Hit.read (hit : Json) : Hit where
  id := (hit.field? "_id").bind Json.scalarText?
  index := (hit.field? "_index").bind Json.string?
  source := ((hit.field? "_source").bind Json.object?).getD ∅

/-- The answer to a search, with the request that it answers. -/
structure Response where
  /-- The answer. -/
  body : Json := .null
  /-- The request; a search done by hand has none. -/
  payload : Option Json := none
deriving DecidableEq

namespace Response

/-- The reported total. -/
def total (response : Response) : Nat :=
  totalHits response.body

/-- The documents found, in order. -/
def hits (response : Response) : List Hit :=
  (((response.body.at? ["hits", "hits"]).bind Json.array?).getD []).map Hit.read

/-- The ids of the documents found, in order. -/
def ids (response : Response) : List String :=
  response.hits.filterMap Hit.id

/-- The buckets of an aggregation. -/
def buckets (response : Response) (name : String) : List Json :=
  ((((response.body.field? "aggregations").bind (·.field? name)).bind (·.field? "buckets")).bind
    Json.array?).getD []

end Response

/-! ### Mapped results -/

/-- The result of a search. -/
inductive Mapped where
  /-- Records, in the order of the hits. -/
  | records (records : List Record)
  /-- The buckets of an aggregation. -/
  | buckets (buckets : List Json)

namespace Mapped

/-- The number of records or buckets. -/
def size : Mapped → Nat
  | records rs => rs.length
  | buckets bs => bs.length

/-- Is there nothing? -/
def isEmpty (mapped : Mapped) : Bool :=
  mapped.size == 0

/-- The records; a grouped result has none. -/
def toRecords : Mapped → List Record
  | records rs => rs
  | buckets _ => []

/-- The buckets; an ungrouped result has none. -/
def toBuckets : Mapped → List Json
  | records _ => []
  | buckets bs => bs

end Mapped

/-- The attributes of a hit; with `tagged` the index of the hit is one of them. -/
def Hit.attributes (hit : Hit) (tagged : Bool) : Object :=
  match tagged, hit.index with
  | true, some index => hit.source.insert "_index" (.string index)
  | _, _ => hit.source

/-- The record of a hit, changed as the schema says. -/
def Hit.record? (hit : Hit) (schema : Schema) (tagged : Bool) : Option Record :=
  (Record.hydrate? schema (hit.attributes tagged)).bind fun record ↦
    match schema.cast with
    | some cast => (cast record.attributes).bind (Record.hydrate? schema)
    | none => some record

/-- The result of a query. Without a total there is none; a query that groups gives buckets; a
query over several indices tags each record with its index. -/
def Response.map (response : Response) (query : Query) : Mapped :=
  if response.total = 0 then .records []
  else
    match query.criteria.groups.first? with
    | some (name, _) => .buckets (response.buckets name)
    | none =>
      .records <| response.hits.filterMap fun hit ↦
        hit.record? query.schema (!query.criteria.unions.isEmpty)

end RecordSearch
