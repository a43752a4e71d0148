import Mathlib.Data.List.Basic
import RecordSearch.Condition.Holds
import RecordSearch.Memory.Filter
import RecordSearch.Query.Compile
/-!
# The filter of a condition set

Conditions exist twice: as typed nodes, with `Conditions.hold` for their meaning, and rendered in
the filter of a request, where the backend reads them back by the first key of each object.
The two readings agree.

* `accepts_render` — for one clause and, by induction on groups, for one node: the rendered node
  accepts exactly the documents of which the node holds. What a rendered clause is about does not
  depend on its field name or value, since each object has one key.
* `mergeFilter_withBuckets` — one merge appends to one bucket, so the merges of a compilation
  leave exactly the rendered buckets (`withConditions_eq_withBuckets`).
* `accepts_filter` — the filter of a condition set accepts exactly the documents of which the set
  holds, the set without conditions included.
-/

namespace RecordSearch

/-! ### Clauses and nodes -/

namespace Bounds

/-- A rendered bound is found under its name, and an absent one is not found. -/
theorem field?_render (bounds : Bounds) :
    bounds.render.field? "gt" = bounds.gt ∧ bounds.render.field? "gte" = bounds.gte ∧
      bounds.render.field? "lt" = bounds.lt ∧ bounds.render.field? "lte" = bounds.lte := by
  rcases bounds with ⟨_ | gt, _ | gte, _ | lt, _ | lte⟩ <;>
    simp [render, Json.field?, Fields.get?]

end Bounds

namespace Filter

@[simp]
theorem kind?_single (name : String) (value : Json) :
    kind? (.single name value) = some (name, value) :=
  rfl

@[simp]
theorem subject?_single (name : String) (value : Json) :
    subject? (.single name value) = some (name, value) :=
  rfl

/-- A rendered clause accepts the documents of which the clause holds. -/
theorem accepts_render_clause (source : Json) (clause : Clause) :
    accepts source clause.render = clause.holds source := by
  have hkind : kind? clause.render = some (clause.kind, clause.parameters) := rfl
  have hbool : clause.kind ≠ "bool" := by cases clause <;> simp [Clause.kind]
  rw [accepts_of_kind source hkind hbool]
  cases clause with
  | range field bounds =>
    obtain ⟨hgt, hgte, hlt, hlte⟩ := bounds.field?_render
    simp [acceptsField, Clause.kind, Clause.parameters, Clause.holds, Clause.field, hgt, hgte, hlt,
      hlte]
  | present field =>
    simp [acceptsField, Clause.kind, Clause.parameters, Clause.holds, Clause.field, Json.string?]
  | _ => simp [acceptsField, Clause.kind, Clause.parameters, Clause.holds, Clause.field]

/-- The clauses of a Boolean specification with one bucket. -/
theorem bucketClauses_single (key : String) (items : List Json) (name : String) :
    bucketClauses (.single key (.array items)) name = if key = name then items else [] := by
  rw [bucketClauses]
  by_cases h : key = name
  · subst h
    simp
  · simp [Json.single, Json.field?, Fields.get?, h]

mutual

/-- A rendered node accepts the documents of which the node holds. -/
theorem accepts_render (source : Json) : (node : Node) →
    accepts source node.render = node.holds source
  | .leaf clause => by
    rw [Node.render, Node.holds]
    exact accepts_render_clause source clause
  | .group occur children => by
    have hall := all_accepts_renderAll source children
    have hany := any_accepts_renderAll source children
    have hempty : (Node.renderAll children).isEmpty = children.isEmpty := by
      cases children <;> simp [Node.renderAll]
    rw [Node.render, accepts_of_kind_bool source (kind?_single _ _)]
    -- One bucket has the children; the other three read as empty.
    cases occur <;>
      simp [bucketClauses_single, Bucket.name, Node.holds, hall, hany, hempty]

/-- Rendered nodes all accept a document if all the nodes hold of it. -/
theorem all_accepts_renderAll (source : Json) : (nodes : List Node) →
    (Node.renderAll nodes).all (accepts source) = Node.allHold source nodes
  | [] => rfl
  | node :: rest => by
    rw [Node.renderAll, List.all_cons, Node.allHold, accepts_render source node,
      all_accepts_renderAll source rest]

/-- One of the rendered nodes accepts a document if one of the nodes holds of it. -/
theorem any_accepts_renderAll (source : Json) : (nodes : List Node) →
    (Node.renderAll nodes).any (accepts source) = Node.someHolds source nodes
  | [] => rfl
  | node :: rest => by
    rw [Node.renderAll, List.any_cons, Node.someHolds, accepts_render source node,
      any_accepts_renderAll source rest]

end

end Filter

/-! ### Merging into a filter -/

@[simp]
theorem Json.ofObject_single (name : String) (value : Json) :
    ofObject (Dict.single name value) = .single name value :=
  rfl

@[simp]
theorem Json.fieldsOrNone_single (name : String) (value : Json) :
    (Json.single name value).fieldsOrNone = Dict.single name value := by
  rw [← ofObject_single, fieldsOrNone_ofObject]

/-- The buckets of a Boolean filter with clauses appended to one of them. -/
def appendBucket (buckets : Object) (bucket : Bucket) (clauses : List Json) : Object :=
  let merged := ((buckets.get? bucket.name).bind Json.array?).getD [] ++ clauses
  if merged.isEmpty then buckets else buckets.insert bucket.name (.array merged)

namespace SearchRequest

/-- The request with buckets as its filter; no buckets are no filter. -/
def withBuckets (request : SearchRequest) (buckets : Object) : SearchRequest :=
  if buckets.isEmpty then request
  else { request with
    query := some ((request.query.getD ∅).insert "filter" (.single "bool" (.ofObject buckets))) }

@[simp]
theorem withBuckets_empty (request : SearchRequest) : request.withBuckets ∅ = request :=
  rfl

theorem withBuckets_of_ne_empty (request : SearchRequest) {buckets : Object} (h : buckets ≠ ∅) :
    request.withBuckets buckets = { request with
      query := some ((request.query.getD ∅).insert "filter"
        (.single "bool" (.ofObject buckets))) } := by
  rw [withBuckets, if_neg fun e ↦ h (Dict.isEmpty_iff.1 e)]

/-- A merge into a request whose filter is made of buckets appends to one of the buckets. -/
theorem mergeFilter_withBuckets {request : SearchRequest}
    (h : (request.query.getD ∅).get? "filter" = none) (buckets : Object) (bucket : Bucket)
    (clauses : List Json) :
    (request.withBuckets buckets).mergeFilter bucket clauses =
      request.withBuckets (appendBucket buckets bucket clauses) := by
  by_cases hb : buckets = ∅
  · subst hb
    cases clauses with
    | nil => simp [mergeFilter, filterBucket, appendBucket, h]
    | cons clause rest =>
      rw [withBuckets_empty, withBuckets_of_ne_empty _ (by simp [appendBucket])]
      simp only [mergeFilter, filterBucket, h, withFilterBucket, appendBucket, Dict.get?_empty]
      rfl
  · rw [withBuckets_of_ne_empty _ hb]
    simp only [mergeFilter, filterBucket, withFilterBucket, appendBucket, Option.getD_some,
      Dict.get?_insert_self, Option.bind_some, Json.field?_single_self, Json.field?_ofObject,
      Json.fieldsOrNone_single, Dict.insert_insert_self]
    split
    · rw [withBuckets_of_ne_empty _ hb]
    · rw [withBuckets_of_ne_empty _ (Dict.insert_ne_empty _ _ _)]
      simp only [Dict.get?_single_self, Option.getD_some, Json.fieldsOrNone_ofObject,
        Dict.insert_single_self, Json.ofObject_single]

end SearchRequest

/-! ### The filter of a condition set -/

namespace Conditions

/-- The rendered buckets of a condition set; a bucket without conditions is left out. -/
def buckets (conditions : Conditions) : Object :=
  Bucket.all.foldl (fun buckets bucket ↦ appendBucket buckets bucket (conditions.render bucket)) ∅

/-- The filter of a condition set, if there are conditions. -/
def filter? (conditions : Conditions) : Option Json :=
  if conditions.buckets.isEmpty then none
  else some (.single "bool" (.ofObject conditions.buckets))

theorem get?_appendBucket (buckets : Object) (bucket : Bucket) (clauses : List Json)
    (name : String) :
    (appendBucket buckets bucket clauses).get? name =
      let merged := ((buckets.get? bucket.name).bind Json.array?).getD [] ++ clauses
      if bucket.name = name ∧ merged ≠ [] then some (.array merged) else buckets.get? name := by
  rw [appendBucket]
  dsimp only
  split
  · next h => simp [List.isEmpty_iff.1 h]
  · next h =>
    rw [List.isEmpty_iff] at h
    rw [Dict.get?_insert]
    simp [h]

/-- A bucket with conditions is found under its name. -/
theorem get?_buckets_name (conditions : Conditions) (bucket : Bucket) :
    conditions.buckets.get? bucket.name =
      if conditions.render bucket = [] then none else some (.array (conditions.render bucket)) := by
  cases bucket <;> simp [buckets, Bucket.all, get?_appendBucket, Bucket.name]

/-- Nothing is found under the name of no bucket. -/
theorem get?_buckets_of_forall_ne (conditions : Conditions) {name : String}
    (h : ∀ bucket : Bucket, bucket.name ≠ name) : conditions.buckets.get? name = none := by
  simp [buckets, Bucket.all, get?_appendBucket, h]

/-- The backend reads each bucket of the filter as the rendered conditions of that bucket. -/
theorem bucketClauses_buckets (conditions : Conditions) (bucket : Bucket) :
    Filter.bucketClauses (.ofObject conditions.buckets) bucket.name =
      conditions.render bucket := by
  rw [Filter.bucketClauses, Json.field?_ofObject, get?_buckets_name]
  split_ifs with h
  · simp [h]
  · rfl

/-- Conditions hold of a document if its rendered buckets accept it. -/
theorem accepts_buckets (conditions : Conditions) (source : Json) :
    Filter.accepts source (.single "bool" (.ofObject conditions.buckets)) =
      conditions.hold source := by
  have hfilter : Filter.bucketClauses (.ofObject conditions.buckets) "filter" = [] := by
    rw [Filter.bucketClauses, Json.field?_ofObject, get?_buckets_of_forall_ne]
    intro bucket
    cases bucket <;> simp [Bucket.name]
  have hmust := conditions.bucketClauses_buckets .must
  have hmustNot := conditions.bucketClauses_buckets .mustNot
  have hshould := conditions.bucketClauses_buckets .should
  have hempty : (conditions.render .should).isEmpty = conditions.should.isEmpty := by
    rw [render, Node.renderAll_eq_map]
    exact List.isEmpty_map
  simp only [Bucket.name] at hmust hmustNot hshould
  rw [Filter.accepts_of_kind_bool source (Filter.kind?_single _ _), hmust, hmustNot, hshould,
    hfilter, hempty]
  simp only [render, bucket, Filter.all_accepts_renderAll, Filter.any_accepts_renderAll,
    Node.allHold_eq_all, Node.someHolds_eq_any, List.all_nil, Bool.and_true, hold]

/-- There are no buckets if there are no conditions. -/
theorem buckets_eq_empty_iff {conditions : Conditions} :
    conditions.buckets = ∅ ↔ ∀ bucket, conditions.bucket bucket = [] := by
  constructor
  · intro h bucket
    have hnone := conditions.get?_buckets_name bucket
    rw [h, Dict.get?_empty] at hnone
    by_contra hne
    simp [render_eq_nil_iff, hne] at hnone
  · intro h
    simp [buckets, Bucket.all, appendBucket, render_eq_nil_iff.2 (h _)]

/-- Without conditions there is nothing to satisfy. -/
theorem hold_of_buckets_eq_empty {conditions : Conditions} (h : conditions.buckets = ∅)
    (source : Json) : conditions.hold source = true := by
  have hnil := buckets_eq_empty_iff.1 h
  simp [hold, show conditions.must = [] from hnil .must, show conditions.mustNot = [] from
    hnil .mustNot, show conditions.should = [] from hnil .should]

/-- The filter of a condition set accepts the documents of which the set holds. -/
theorem accepts_filter (conditions : Conditions) (source : Json) :
    conditions.filter?.all (Filter.accepts source) = conditions.hold source := by
  rw [filter?]
  split
  · next h => rw [hold_of_buckets_eq_empty (Dict.isEmpty_iff.1 h)]; rfl
  · exact conditions.accepts_buckets source

end Conditions

namespace SearchRequest

/-- The merges of a compilation leave the rendered buckets as the filter. -/
theorem withConditions_eq_withBuckets {request : SearchRequest}
    (h : (request.query.getD ∅).get? "filter" = none) (conditions : Conditions) :
    request.withConditions conditions = request.withBuckets conditions.buckets := by
  suffices ∀ (rest : List Bucket) (buckets : Object),
      rest.foldl (fun request bucket ↦ request.mergeFilter bucket (conditions.render bucket))
        (request.withBuckets buckets) =
      request.withBuckets (rest.foldl
        (fun buckets bucket ↦ appendBucket buckets bucket (conditions.render bucket)) buckets) from
    this Bucket.all ∅
  intro rest
  induction rest with
  | nil => exact fun _ ↦ rfl
  | cons bucket rest ih =>
    intro buckets
    rw [List.foldl_cons, mergeFilter_withBuckets h, ih, List.foldl_cons]

/-- The filter of a request with conditions. -/
theorem get?_filter_withConditions {request : SearchRequest}
    (h : (request.query.getD ∅).get? "filter" = none) (conditions : Conditions) :
    (request.withConditions conditions).query.bind (·.get? "filter") = conditions.filter? := by
  rw [withConditions_eq_withBuckets h]
  by_cases hb : conditions.buckets = ∅
  · rw [hb, withBuckets_empty, Conditions.filter?, hb]
    cases hq : request.query with
    | none => rfl
    | some query => simpa [hq] using h
  · rw [withBuckets_of_ne_empty _ hb, Conditions.filter?, if_neg fun e ↦ hb (Dict.isEmpty_iff.1 e)]
    simp

end SearchRequest

end RecordSearch
