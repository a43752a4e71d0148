import RecordSearch.Query.Criteria
import RecordSearch.Request.Envelope
/-!
# Search requests

A search request is an envelope with the parts of a search: the query, and what is asked about
order, window and presentation. The setters follow one rule: what says nothing (an empty list, an
absent value, a score of zero, false) leaves the request as it is.

`mergeFilter` appends conditions to one bucket of the query's filter. Whatever is not an object on
the way to that bucket is replaced by an object; whatever is not a list in the bucket counts as no
conditions.
-/

namespace RecordSearch

/-- A search request. -/
structure SearchRequest where
  /-- Identity, parameters and client options. -/
  envelope : Envelope
  /-- The Boolean query. -/
  query : Option Object := none
  /-- The fields to return. -/
  source : List String := []
  /-- The field by which documents are folded. -/
  collapse : Option String := none
  /-- The sort entries. -/
  sort : List Json := []
  /-- Are scores explained? -/
  explain : Bool := false
  /-- Is the timing reported? -/
  profile : Bool := false
  /-- The least score. -/
  minScore : Option Binary64 := none
  /-- The number of documents passed over. -/
  offset : Option Nat := none
  /-- The greatest number of documents returned. -/
  size : Option Nat := none
  /-- The aggregations. -/
  aggs : Object := ∅
  /-- The highlight section. -/
  highlight : Option Json := none

namespace SearchRequest

/-- The request with a Boolean query; an empty one says nothing. -/
def setQuery (request : SearchRequest) (fragment : Object) : SearchRequest :=
  if fragment.isEmpty then request else { request with query := some fragment }

/-- The request for all documents. -/
def setMatchAll (request : SearchRequest) : SearchRequest :=
  request.setQuery (.single "must" (.single "match_all" .emptyObject))

/-- The request with a highlight section. -/
def setHighlight (request : SearchRequest) (highlight : Option Json) : SearchRequest :=
  match highlight with
  | some value => if value.isVoid then request else { request with highlight := some value }
  | none => request

/-- The request for some fields. -/
def setSource (request : SearchRequest) (fields : List String) : SearchRequest :=
  if fields.isEmpty then request else { request with source := fields }

/-- The request folded by a field. -/
def setCollapse (request : SearchRequest) (field : Option String) : SearchRequest :=
  match field with
  | some name => if name.isEmpty then request else { request with collapse := some name }
  | none => request

/-- The request with sort entries. -/
def setSort (request : SearchRequest) (sort : List Json) : SearchRequest :=
  if sort.isEmpty then request else { request with sort := sort }

/-- The request with explained scores. -/
def setExplain (request : SearchRequest) (explain : Bool) : SearchRequest :=
  { request with explain := request.explain || explain }

/-- The request with reported timing. -/
def setProfile (request : SearchRequest) (profile : Bool) : SearchRequest :=
  { request with profile := request.profile || profile }

/-- The request with a least score. -/
def setMinScore (request : SearchRequest) (score : Option Binary64) : SearchRequest :=
  match score with
  | some x => if x.isZero then request else { request with minScore := some x }
  | none => request

/-- The request with a number of documents to pass over; zero is such a number. -/
def setOffset (request : SearchRequest) (offset : Option Nat) : SearchRequest :=
  { request with offset := offset.or request.offset }

/-- The request with a greatest number of documents. -/
def setSize (request : SearchRequest) (size : Option Nat) : SearchRequest :=
  { request with size := size.or request.size }

/-- The request with aggregations. -/
def setAggs (request : SearchRequest) (aggs : Object) : SearchRequest :=
  if aggs.isEmpty then request else { request with aggs := aggs }

/-! ### The filter -/

/-- The conditions that a Boolean query's filter has in a bucket. -/
def filterBucket (query : Object) (bucket : Bucket) : List Json :=
  ((((query.get? "filter").bind (·.field? "bool")).bind (·.field? bucket.name)).bind
    Json.array?).getD []

/-- A Boolean query with the conditions of one bucket of its filter replaced. -/
def withFilterBucket (query : Object) (bucket : Bucket) (clauses : List Json) : Object :=
  let filter := ((query.get? "filter").getD .emptyObject).fieldsOrNone
  let inner := ((filter.get? "bool").getD .emptyObject).fieldsOrNone
  query.insert "filter" <| .ofObject <|
    filter.insert "bool" (.ofObject (inner.insert bucket.name (.array clauses)))

/-- The request with further conditions in one bucket of its filter. -/
def mergeFilter (request : SearchRequest) (bucket : Bucket) (clauses : List Json) :
    SearchRequest :=
  let query := request.query.getD ∅
  let merged := filterBucket query bucket ++ clauses
  if merged.isEmpty then request
  else { request with query := some (withFilterBucket query bucket merged) }

/-! ### Rendering -/

/-- Put a value under a name if there is one. -/
private def optional (body : Object) (name : String) (value : Option Json) : Object :=
  match value with
  | some v => body.insert name v
  | none => body

/-- The body of the request. -/
def body (request : SearchRequest) : Object :=
  let parts : List (String × Option Json) := [
    ("query", request.query.map fun query ↦ .single "bool" (.ofObject query)),
    ("_source", if request.source.isEmpty then none else some (.ofStrings request.source)),
    ("collapse", request.collapse.map fun field ↦ .single "field" (.string field)),
    ("sort", if request.sort.isEmpty then none else some (.array request.sort)),
    ("explain", if request.explain then some (.bool true) else none),
    ("profile", if request.profile then some (.bool true) else none),
    ("min_score", request.minScore.map .ofBinary64),
    ("from", request.offset.map .ofNat),
    ("size", request.size.map .ofNat),
    ("aggs", if request.aggs.isEmpty then none else some (.ofObject request.aggs)),
    ("highlight", request.highlight)]
  parts.foldl (fun body part ↦ optional body part.1 part.2) ∅

/-- The whole request. -/
def render (request : SearchRequest) : Json :=
  .ofObject (request.envelope.toObject.insert "body" (.ofObject request.body))

private theorem get?_optional (body : Object) (name other : String) (value : Option Json) :
    (optional body name value).get? other =
      if name = other ∧ value.isSome then value else body.get? other := by
  cases value with
  | none => simp [optional]
  | some v => simp [optional, Dict.get?_insert]

/-- The query of the body. -/
@[simp]
theorem get?_body_query (request : SearchRequest) :
    request.body.get? "query" =
      request.query.map fun query ↦ .single "bool" (.ofObject query) := by
  cases h : request.query <;> simp [body, get?_optional, h]

/-- The offset of the body. -/
@[simp]
theorem get?_body_from (request : SearchRequest) :
    request.body.get? "from" = request.offset.map .ofNat := by
  cases h : request.offset <;> simp [body, get?_optional, h]

/-- The size of the body. -/
@[simp]
theorem get?_body_size (request : SearchRequest) :
    request.body.get? "size" = request.size.map .ofNat := by
  cases h : request.size <;> simp [body, get?_optional, h]

/-- The highlight section of the body. -/
@[simp]
theorem get?_body_highlight (request : SearchRequest) :
    request.body.get? "highlight" = request.highlight := by
  cases h : request.highlight <;> simp [body, get?_optional, h]

/-- The other parts of the body depend on neither the query nor the highlight section. -/
theorem get?_body_of_ne (request : SearchRequest) (query : Option Object)
    (highlight : Option Json) {name : String} (hquery : name ≠ "query")
    (hhighlight : name ≠ "highlight") :
    { request with query := query, highlight := highlight }.body.get? name =
      request.body.get? name := by
  simp [body, get?_optional, hquery.symm, hhighlight.symm]

end SearchRequest

end RecordSearch
