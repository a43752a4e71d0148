import RecordSearch.Document
/-!
# Filters as the memory backend reads them

A filter arrives as JSON. `Filter.accepts` decides it for one document: the first field of an
object is its kind, and the first field under the kind is the document field it is about. What is
no filter of a known kind accepts everything. `accepts_of_kind_bool` and `accepts_of_kind` say what
each kind means.
-/

namespace RecordSearch.Filter

/-- The clauses under a bucket of a Boolean filter: the items of a list, or one object. -/
def bucketClauses (spec : Json) (bucket : String) : List Json :=
  match spec.field? bucket with
  | some (.array items) => items
  | some (.object fields) => [.object fields]
  | _ => []

theorem sizeOf_lt_of_mem_bucketClauses {spec clause : Json} {bucket : String}
    (h : clause ∈ bucketClauses spec bucket) : sizeOf clause < sizeOf spec := by
  rw [bucketClauses] at h
  split at h
  · next items hs =>
    have h1 := Json.sizeOf_lt_of_field?_eq_some hs
    have h2 := List.sizeOf_lt_of_mem h
    simp only [Json.array.sizeOf_spec] at h1
    omega
  · next fields hs =>
    have h1 := Json.sizeOf_lt_of_field?_eq_some hs
    simp_all
  · simp at h

/-- The kind of a clause and what stands under it. -/
def kind? : Json → Option (String × Json)
  | .object fields => fields.head?
  | _ => none

theorem sizeOf_lt_of_kind? {clause spec : Json} {name : String}
    (h : kind? clause = some (name, spec)) : sizeOf spec < sizeOf clause := by
  unfold kind? at h
  split at h
  · next fields =>
    have hmem : (name, spec) ∈ fields := List.mem_of_mem_head? h
    have hlt := List.sizeOf_lt_of_mem hmem
    simp only [Prod.mk.sizeOf_spec, Json.object.sizeOf_spec] at hlt ⊢
    omega
  · simp at h

/-- The document field that a specification is about, and what it says of it. -/
def subject? (spec : Json) : Option (String × Json) :=
  kind? spec

/-- Decide a clause that is not Boolean. -/
def acceptsField (kind : String) (spec source : Json) : Bool :=
  match kind with
  | "term" =>
    match subject? spec with
    | some (field, wanted) => looselyEqual (documentField source field) wanted
    | none => true
  | "terms" =>
    match subject? spec with
    | some (field, .array wanted) =>
      wanted.any fun one ↦ looselyEqual (documentField source field) one
    | some _ => false
    | none => true
  | "match" =>
    match subject? spec with
    | some (field, wanted) => containsText (documentField source field) wanted
    | none => true
  | "exists" =>
    match (spec.field? "field").bind Json.string? with
    | some field => isPresent (documentField source field)
    | none => true
  | "range" =>
    match subject? spec with
    | some (field, bounds) =>
      isWithin (documentField source field) (bounds.field? "gt") (bounds.field? "gte")
        (bounds.field? "lt") (bounds.field? "lte")
    | none => true
  | _ => true

/-- Does a filter accept a document? -/
def accepts (source clause : Json) : Bool :=
  match _h : kind? clause with
  | none => true
  | some ("bool", spec) =>
    let all (bucket : String) :=
      (bucketClauses spec bucket).attach.all fun ⟨inner, _⟩ ↦ accepts source inner
    let any (bucket : String) :=
      (bucketClauses spec bucket).attach.any fun ⟨inner, _⟩ ↦ accepts source inner
    all "must" && all "filter" && !any "must_not" &&
      ((bucketClauses spec "should").isEmpty || any "should")
  | some (kind, spec) => acceptsField kind spec source
termination_by sizeOf clause
decreasing_by
  all_goals
    have := sizeOf_lt_of_kind? _h
    have := sizeOf_lt_of_mem_bucketClauses ‹_›
    omega

/-- A Boolean filter accepts what all of its `must` and `filter` clauses accept, none of its
`must_not` clauses, and one of its `should` clauses if there are any. -/
theorem accepts_of_kind_bool {clause spec : Json} (source : Json)
    (h : kind? clause = some ("bool", spec)) :
    accepts source clause =
      ((bucketClauses spec "must").all (accepts source) &&
        (bucketClauses spec "filter").all (accepts source) &&
        !(bucketClauses spec "must_not").any (accepts source) &&
        ((bucketClauses spec "should").isEmpty ||
          (bucketClauses spec "should").any (accepts source))) := by
  rw [accepts]
  split
  · simp_all
  · next spec' h' =>
    obtain rfl : spec' = spec := by simp_all
    simp only [List.all_subtype, List.any_subtype, List.unattach_attach]
  · next kind spec' hne h' =>
    simp only [h, Option.some.injEq, Prod.mk.injEq] at h'
    exact absurd h'.1.symm hne

/-- A filter of another kind is decided by its field. -/
theorem accepts_of_kind {clause spec : Json} {kind : String} (source : Json)
    (h : kind? clause = some (kind, spec)) (hkind : kind ≠ "bool") :
    accepts source clause = acceptsField kind spec source := by
  rw [accepts]
  split
  · simp_all
  · simp_all
  · simp_all

end RecordSearch.Filter
