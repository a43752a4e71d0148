import RecordSearch.Proofs.RuleFilter
/-!
# Merging into a filter, over and over

A merge reads one bucket of the filter and writes it back, and repairs on the way whatever is no
object. From outside it does not show how a bucket came to its clauses: two merges into one bucket
are one merge of both lists (`mergeFilter_mergeFilter_self`), merges into different buckets can be
swapped (`mergeFilter_comm`), and a merge of no clauses changes nothing (`mergeFilter_nil`). The
first two laws hold of every filter, and the last one of every filter whose fields stand in order,
which is how a merge writes them.

By these laws a run of merges is told by the clauses that each bucket is given:
`merges_told_by_buckets`.
-/

namespace RecordSearch

/-! ### Values with ordered fields -/

namespace Json

/-- If the value is an object, its fields stand in increasing order of their names. -/
def IsOrdered (value : Json) : Prop :=
  ∀ fields, value = .object fields → Fields.Sorted fields

theorem isOrdered_ofObject (fields : Object) : (ofObject fields).IsOrdered := by
  rintro _ ⟨⟩
  exact fields.sorted

/-- An ordered object is made of its own fields. -/
theorem IsOrdered.ofObject_fieldsOrNone {value part : Json} (h : value.IsOrdered) {name : String}
    (hfield : value.field? name = some part) : ofObject value.fieldsOrNone = value := by
  cases value with
  | object fields => exact congrArg ofObject (Dict.ofList_entries ⟨fields, h fields rfl⟩)
  | _ => cases hfield

end Json

/-! ### Buckets -/

/-- The clauses that a bucket has in a list; what is no list counts as none. -/
def listedIn (buckets : Object) (bucket : Bucket) : List Json :=
  ((buckets.get? bucket.name).bind Json.array?).getD []

section Buckets

variable {buckets : Object} {bucket other : Bucket}

theorem listedIn_insert_self (buckets : Object) (bucket : Bucket) (clauses : List Json) :
    listedIn (buckets.insert bucket.name (.array clauses)) bucket = clauses := by
  rw [listedIn, Dict.get?_insert_self]
  rfl

theorem listedIn_insert_of_ne (buckets : Object) (h : bucket ≠ other) (value : Json) :
    listedIn (buckets.insert bucket.name value) other = listedIn buckets other := by
  rw [listedIn, Dict.get?_insert_of_ne _ _ (mt Bucket.name_injective h), listedIn]

theorem appendBucket_of_eq_nil {clauses : List Json} (h : listedIn buckets bucket ++ clauses = []) :
    appendBucket buckets bucket clauses = buckets :=
  if_pos (List.isEmpty_iff.2 h)

theorem appendBucket_of_ne_nil {clauses : List Json} (h : listedIn buckets bucket ++ clauses ≠ []) :
    appendBucket buckets bucket clauses =
      buckets.insert bucket.name (.array (listedIn buckets bucket ++ clauses)) :=
  if_neg (mt List.isEmpty_iff.1 h)

/-- A bucket lists what was appended behind what it listed. -/
theorem listedIn_appendBucket_self (buckets : Object) (bucket : Bucket) (clauses : List Json) :
    listedIn (appendBucket buckets bucket clauses) bucket = listedIn buckets bucket ++ clauses := by
  by_cases h : listedIn buckets bucket ++ clauses = []
  · rw [appendBucket_of_eq_nil h, h, (List.append_eq_nil_iff.1 h).1]
  · rw [appendBucket_of_ne_nil h, listedIn_insert_self]

theorem listedIn_appendBucket_of_ne (buckets : Object) (h : bucket ≠ other) (clauses : List Json) :
    listedIn (appendBucket buckets bucket clauses) other = listedIn buckets other := by
  by_cases hnil : listedIn buckets bucket ++ clauses = []
  · rw [appendBucket_of_eq_nil hnil]
  · rw [appendBucket_of_ne_nil hnil, listedIn_insert_of_ne _ h]

/-- What lists clauses is a list. -/
theorem get?_of_listedIn_ne_nil (h : listedIn buckets bucket ≠ []) :
    buckets.get? bucket.name = some (.array (listedIn buckets bucket)) := by
  unfold listedIn at h ⊢
  cases hvalue : buckets.get? bucket.name with
  | none => rw [hvalue] at h; exact absurd rfl h
  | some value =>
    rw [hvalue] at h
    cases value with
    | array items => rfl
    | _ => exact absurd rfl h

theorem appendBucket_nil (buckets : Object) (bucket : Bucket) :
    appendBucket buckets bucket [] = buckets := by
  by_cases h : listedIn buckets bucket ++ [] = []
  · exact appendBucket_of_eq_nil h
  · rw [appendBucket_of_ne_nil h, List.append_nil]
    rw [List.append_nil] at h
    exact Dict.insert_of_get?_eq_some (get?_of_listedIn_ne_nil h)

/-- What is appended to a bucket in two parts is appended to it as a whole. -/
theorem appendBucket_appendBucket_self (buckets : Object) (bucket : Bucket)
    (first second : List Json) :
    appendBucket (appendBucket buckets bucket first) bucket second =
      appendBucket buckets bucket (first ++ second) := by
  by_cases h : listedIn buckets bucket ++ first = []
  · rw [appendBucket_of_eq_nil h, (List.append_eq_nil_iff.1 h).2, List.nil_append]
  · have hboth : listedIn buckets bucket ++ first ++ second ≠ [] :=
      fun hnil ↦ h (List.append_eq_nil_iff.1 hnil).1
    rw [appendBucket_of_ne_nil (by rwa [listedIn_appendBucket_self]), listedIn_appendBucket_self,
      appendBucket_of_ne_nil h, Dict.insert_insert_self, List.append_assoc,
      appendBucket_of_ne_nil (by rwa [← List.append_assoc])]

/-- Different buckets are appended to in either order. -/
theorem appendBucket_comm (buckets : Object) (h : bucket ≠ other) (first second : List Json) :
    appendBucket (appendBucket buckets bucket first) other second =
      appendBucket (appendBucket buckets other second) bucket first := by
  by_cases hfirst : listedIn buckets bucket ++ first = []
  · rw [appendBucket_of_eq_nil hfirst]
    exact (appendBucket_of_eq_nil (by rwa [listedIn_appendBucket_of_ne buckets h.symm])).symm
  · by_cases hsecond : listedIn buckets other ++ second = []
    · rw [appendBucket_of_eq_nil hsecond]
      exact appendBucket_of_eq_nil (by rwa [listedIn_appendBucket_of_ne buckets h])
    · rw [appendBucket_of_ne_nil (by rwa [listedIn_appendBucket_of_ne buckets h]),
        listedIn_appendBucket_of_ne buckets h, appendBucket_of_ne_nil hfirst,
        appendBucket_of_ne_nil (by rwa [listedIn_appendBucket_of_ne buckets h.symm]),
        listedIn_appendBucket_of_ne buckets h.symm, appendBucket_of_ne_nil hsecond]
      exact Dict.ext_entries (Fields.insert_comm _ (mt Bucket.name_injective h) _ _)

end Buckets

/-! ### Three laws of merging -/

namespace SearchRequest

variable {request : SearchRequest} {bucket other : Bucket}

/-- The filter of the request's query; an empty one if there is none. -/
def filterOf (request : SearchRequest) : Json :=
  ((request.query.getD ∅).get? "filter").getD .emptyObject

/-- The buckets of the request's filter, as far as it is a Boolean one. -/
def buckets (request : SearchRequest) : Object :=
  Filter.buckets request.filterOf

/-- The request with buckets put under the `bool` of its filter. -/
def withOpened (request : SearchRequest) (buckets : Object) : SearchRequest :=
  { request with query := some <|
      (request.query.getD ∅).insert "filter" (Filter.opened request.filterOf buckets) }

theorem filterOf_withOpened (request : SearchRequest) (buckets : Object) :
    (request.withOpened buckets).filterOf = Filter.opened request.filterOf buckets := by
  rw [filterOf, withOpened, Option.getD_some, Dict.get?_insert_self]
  rfl

@[simp]
theorem buckets_withOpened (request : SearchRequest) (clauses : Object) :
    (request.withOpened clauses).buckets = clauses := by
  rw [buckets, filterOf_withOpened, Filter.buckets_opened]

@[simp]
theorem withOpened_withOpened (request : SearchRequest) (first second : Object) :
    (request.withOpened first).withOpened second = request.withOpened second := by
  rw [withOpened, filterOf_withOpened, Filter.opened_opened, withOpened, Option.getD_some,
    Dict.insert_insert_self, withOpened]

theorem filterBucket_eq (request : SearchRequest) (bucket : Bucket) :
    filterBucket (request.query.getD ∅) bucket = listedIn request.buckets bucket := by
  rw [filterBucket, listedIn, buckets, Filter.get?_buckets, filterOf]
  cases (request.query.getD ∅).get? "filter" <;> rfl

theorem mergeFilter_of_eq_nil {clauses : List Json}
    (h : listedIn request.buckets bucket ++ clauses = []) :
    request.mergeFilter bucket clauses = request := by
  rw [mergeFilter, filterBucket_eq, h]
  rfl

/-- A merge that leaves clauses in the bucket opens the filter and appends to the bucket. -/
theorem mergeFilter_of_ne_nil {clauses : List Json}
    (h : listedIn request.buckets bucket ++ clauses ≠ []) :
    request.mergeFilter bucket clauses =
      request.withOpened (appendBucket request.buckets bucket clauses) := by
  rw [mergeFilter, filterBucket_eq, if_neg (mt List.isEmpty_iff.1 h), appendBucket_of_ne_nil h]
  rfl

/-- A merge shows in the buckets as what it appends. -/
@[simp]
theorem buckets_mergeFilter (request : SearchRequest) (bucket : Bucket) (clauses : List Json) :
    (request.mergeFilter bucket clauses).buckets =
      appendBucket request.buckets bucket clauses := by
  by_cases h : listedIn request.buckets bucket ++ clauses = []
  · rw [mergeFilter_of_eq_nil h, appendBucket_of_eq_nil h]
  · rw [mergeFilter_of_ne_nil h, buckets_withOpened]

theorem withOpened_mergeFilter (request : SearchRequest) (bucket : Bucket) (clauses : List Json)
    (opened : Object) :
    (request.mergeFilter bucket clauses).withOpened opened = request.withOpened opened := by
  by_cases h : listedIn request.buckets bucket ++ clauses = []
  · rw [mergeFilter_of_eq_nil h]
  · rw [mergeFilter_of_ne_nil h, withOpened_withOpened]

theorem mergeFilter_mergeFilter_of_ne_nil {first second : List Json}
    (h : listedIn (appendBucket request.buckets bucket first) other ++ second ≠ []) :
    (request.mergeFilter bucket first).mergeFilter other second =
      request.withOpened
        (appendBucket (appendBucket request.buckets bucket first) other second) := by
  rw [mergeFilter_of_ne_nil (by rwa [buckets_mergeFilter]), withOpened_mergeFilter,
    buckets_mergeFilter]

/-- **Two merges into one bucket are one.** -/
theorem mergeFilter_mergeFilter_self (request : SearchRequest) (bucket : Bucket)
    (first second : List Json) :
    (request.mergeFilter bucket first).mergeFilter bucket second =
      request.mergeFilter bucket (first ++ second) := by
  by_cases h : listedIn request.buckets bucket ++ first ++ second = []
  · have hfirst := (List.append_eq_nil_iff.1 h).1
    rw [mergeFilter_of_eq_nil hfirst, (List.append_eq_nil_iff.1 hfirst).2, List.nil_append]
  · rw [mergeFilter_mergeFilter_of_ne_nil (by rwa [listedIn_appendBucket_self]),
      appendBucket_appendBucket_self, mergeFilter_of_ne_nil (by rwa [← List.append_assoc])]

/-- **Merges into different buckets can be swapped.** -/
theorem mergeFilter_comm (request : SearchRequest) (h : bucket ≠ other)
    (first second : List Json) :
    (request.mergeFilter bucket first).mergeFilter other second =
      (request.mergeFilter other second).mergeFilter bucket first := by
  have hother := listedIn_appendBucket_of_ne request.buckets h first
  have hbucket := listedIn_appendBucket_of_ne request.buckets h.symm second
  by_cases hfirst : listedIn request.buckets bucket ++ first = []
  · rw [mergeFilter_of_eq_nil hfirst]
    exact (mergeFilter_of_eq_nil (by rwa [buckets_mergeFilter, hbucket])).symm
  · by_cases hsecond : listedIn request.buckets other ++ second = []
    · rw [mergeFilter_of_eq_nil hsecond]
      exact mergeFilter_of_eq_nil (by rwa [buckets_mergeFilter, hother])
    · rw [mergeFilter_mergeFilter_of_ne_nil (by rwa [hother]),
        mergeFilter_mergeFilter_of_ne_nil (by rwa [hbucket]), appendBucket_comm _ h]

/-- The fields of the request's filter, and of what stands under its `bool`, are ordered. -/
structure HasOrderedFilter (request : SearchRequest) : Prop where
  /-- The filter is ordered. -/
  filter : request.filterOf.IsOrdered
  /-- So is what stands under `bool`. -/
  spec : ∀ spec, request.filterOf.field? "bool" = some spec → spec.IsOrdered

/-- A merge leaves an ordered filter. -/
theorem HasOrderedFilter.mergeFilter (h : request.HasOrderedFilter) (bucket : Bucket)
    (clauses : List Json) : (request.mergeFilter bucket clauses).HasOrderedFilter := by
  by_cases hnil : listedIn request.buckets bucket ++ clauses = []
  · rwa [mergeFilter_of_eq_nil hnil]
  · rw [mergeFilter_of_ne_nil hnil]
    constructor
    · rw [filterOf_withOpened]
      exact Json.isOrdered_ofObject _
    · intro spec hspec
      rw [filterOf_withOpened, Filter.opened, Json.field?_ofObject, Dict.get?_insert_self] at hspec
      exact Option.some.inj hspec ▸ Json.isOrdered_ofObject _

/-- **A merge of no clauses changes nothing.** -/
theorem HasOrderedFilter.mergeFilter_nil (h : request.HasOrderedFilter) (bucket : Bucket) :
    request.mergeFilter bucket [] = request := by
  by_cases hnil : listedIn request.buckets bucket ++ [] = []
  · exact mergeFilter_of_eq_nil hnil
  · rw [mergeFilter_of_ne_nil hnil, appendBucket_nil]
    -- The bucket lists clauses, so there is a filter, with a `bool` that has the bucket.
    rw [List.append_nil] at hnil
    have hlisted := get?_of_listedIn_ne_nil hnil
    rw [buckets, Filter.get?_buckets] at hlisted
    obtain ⟨spec, hspec, hbucket⟩ := Option.bind_eq_some_iff.1 hlisted
    have hfilter : (request.query.getD ∅).get? "filter" = some request.filterOf := by
      unfold filterOf at hspec ⊢
      cases hget : (request.query.getD ∅).get? "filter" with
      | none => rw [hget] at hspec; cases hspec
      | some filter => rfl
    have hopened : Filter.opened request.filterOf request.buckets = request.filterOf := by
      rw [Json.field?_eq_get?_fieldsOrNone] at hspec
      rw [buckets, Filter.buckets, hspec, Option.getD_some, Filter.opened,
        (h.spec spec (by rwa [Json.field?_eq_get?_fieldsOrNone])).ofObject_fieldsOrNone hbucket,
        Dict.insert_of_get?_eq_some hspec]
      exact h.filter.ofObject_fieldsOrNone ((Json.field?_eq_get?_fieldsOrNone _ _).trans hspec)
    rw [withOpened, hopened, Dict.insert_of_get?_eq_some hfilter]
    cases hquery : request.query with
    | none => rw [hquery] at hfilter; cases hfilter
    | some query => rw [Option.getD_some, ← hquery]

/-! ### Runs of merges -/

/-- The request after several merges. -/
def mergeEach (request : SearchRequest) (merges : List (Bucket × List Json)) : SearchRequest :=
  merges.foldl (fun request merge ↦ request.mergeFilter merge.1 merge.2) request

end SearchRequest

/-- The clauses that merges add to a bucket, all in one list. -/
def addedTo (merges : List (Bucket × List Json)) (bucket : Bucket) : List Json :=
  (merges.filter fun merge ↦ merge.1 = bucket).flatMap Prod.snd

/-- One merge for each of the buckets, of all the clauses that it is given. -/
def gathered (merges : List (Bucket × List Json)) (order : List Bucket) :
    List (Bucket × List Json) :=
  order.map fun bucket ↦ (bucket, addedTo merges bucket)

theorem addedTo_cons_self (bucket : Bucket) (clauses : List Json)
    (rest : List (Bucket × List Json)) :
    addedTo ((bucket, clauses) :: rest) bucket = clauses ++ addedTo rest bucket := by
  rw [addedTo, List.filter_cons_of_pos (by simp), List.flatMap_cons, addedTo]

theorem addedTo_cons_of_ne {bucket other : Bucket} (h : bucket ≠ other) (clauses : List Json)
    (rest : List (Bucket × List Json)) :
    addedTo ((bucket, clauses) :: rest) other = addedTo rest other := by
  rw [addedTo, List.filter_cons_of_neg (by simpa using h), addedTo]

namespace SearchRequest

variable {request : SearchRequest}

/-- The order of the buckets does not matter to gathered merges. -/
theorem mergeEach_gathered_of_perm (request : SearchRequest) (merges : List (Bucket × List Json))
    {order other : List Bucket} (h : order.Perm other) :
    request.mergeEach (gathered merges order) = request.mergeEach (gathered merges other) := by
  rw [mergeEach, mergeEach, gathered, gathered, List.foldl_map, List.foldl_map]
  refine h.foldl_eq' (fun first _ second _ request ↦ ?_) request
  by_cases heq : first = second
  · rw [heq]
  · exact request.mergeFilter_comm heq _ _

/-- Merges of no clauses change nothing. -/
theorem HasOrderedFilter.mergeEach_eq_self (h : request.HasOrderedFilter)
    {merges : List (Bucket × List Json)} (hnil : ∀ merge ∈ merges, merge.2 = []) :
    request.mergeEach merges = request := by
  induction merges with
  | nil => rfl
  | cons merge rest ih =>
    obtain ⟨hmerge, hrest⟩ := List.forall_mem_cons.1 hnil
    rw [mergeEach, List.foldl_cons, hmerge, h.mergeFilter_nil]
    exact ih hrest

/-- **The run law.** Several merges come to one merge for each bucket. -/
theorem HasOrderedFilter.mergeEach_eq_gathered (h : request.HasOrderedFilter)
    (merges : List (Bucket × List Json)) :
    request.mergeEach merges = request.mergeEach (gathered merges Bucket.all) := by
  induction merges generalizing request with
  | nil =>
    refine (h.mergeEach_eq_self fun merge hmerge ↦ ?_).symm
    obtain ⟨bucket, -, rfl⟩ := List.mem_map.1 hmerge
    rfl
  | cons merge rest ih =>
    obtain ⟨bucket, clauses⟩ := merge
    -- With the bucket of the first merge in front, that merge joins the gathered one of the rest.
    have hfront : Bucket.all.Perm (bucket :: Bucket.all.erase bucket) :=
      List.perm_cons_erase bucket.mem_all
    have hnodup : Bucket.all.Nodup := by decide
    have hothers : gathered ((bucket, clauses) :: rest) (Bucket.all.erase bucket) =
        gathered rest (Bucket.all.erase bucket) := by
      refine List.map_congr_left fun other hother ↦ ?_
      have hne : bucket ≠ other := fun heq ↦ hnodup.not_mem_erase (heq ▸ hother)
      rw [addedTo_cons_of_ne hne]
    calc request.mergeEach ((bucket, clauses) :: rest)
        = (request.mergeFilter bucket clauses).mergeEach (gathered rest Bucket.all) :=
          ih (h.mergeFilter bucket clauses)
      _ = (request.mergeFilter bucket clauses).mergeEach
            (gathered rest (bucket :: Bucket.all.erase bucket)) :=
          mergeEach_gathered_of_perm _ _ hfront
      _ = (request.mergeFilter bucket (clauses ++ addedTo rest bucket)).mergeEach
            (gathered rest (Bucket.all.erase bucket)) := by
          rw [← request.mergeFilter_mergeFilter_self]
          rfl
      _ = request.mergeEach (gathered ((bucket, clauses) :: rest)
            (bucket :: Bucket.all.erase bucket)) := by
          rw [← addedTo_cons_self, ← hothers]
          rfl
      _ = request.mergeEach (gathered ((bucket, clauses) :: rest) Bucket.all) :=
          mergeEach_gathered_of_perm _ _ hfront.symm

/-- A merge changes the query of a request, and of the query its filter. -/
theorem mergeFilter_eq_query (request : SearchRequest) (bucket : Bucket) (clauses : List Json) :
    ∃ query, request.mergeFilter bucket clauses = { request with query := query } ∧
      ∀ name ≠ "filter", (query.getD ∅).get? name = (request.query.getD ∅).get? name := by
  by_cases h : listedIn request.buckets bucket ++ clauses = []
  · exact ⟨request.query, mergeFilter_of_eq_nil h, fun _ _ ↦ rfl⟩
  · exact ⟨_, mergeFilter_of_ne_nil h, fun name hname ↦ Dict.get?_insert_of_ne _ _ hname.symm⟩

/-- So do several merges. -/
theorem mergeEach_eq_query (request : SearchRequest) (merges : List (Bucket × List Json)) :
    ∃ query, request.mergeEach merges = { request with query := query } ∧
      ∀ name ≠ "filter", (query.getD ∅).get? name = (request.query.getD ∅).get? name := by
  induction merges generalizing request with
  | nil => exact ⟨request.query, rfl, fun _ _ ↦ rfl⟩
  | cons merge rest ih =>
    obtain ⟨first, hfirst, hsame⟩ := request.mergeFilter_eq_query merge.1 merge.2
    obtain ⟨query, hrest, hsames⟩ := ih { request with query := first }
    refine ⟨query, ?_, fun name hname ↦ (hsames name hname).trans (hsame name hname)⟩
    rw [mergeEach, List.foldl_cons, hfirst]
    exact hrest

/-- **Merges are told by the buckets.** Take any request; its filter, if it has one, may be of any
shape, with ordered fields. Any run of merges into it comes to one merge for each bucket, of the
clauses that the bucket is given, one list behind the other, and the buckets may be taken in any
order. If no clauses are given the request stays as it is. In any case nothing changes in it but its
query, and in the query nothing but the filter. -/
theorem merges_told_by_buckets (request : SearchRequest) (h : request.HasOrderedFilter)
    (merges : List (Bucket × List Json)) (order : List Bucket) (horder : order.Perm Bucket.all) :
    request.mergeEach merges = request.mergeEach (gathered merges order) ∧
      ((∀ merge ∈ merges, merge.2 = []) → request.mergeEach merges = request) ∧
      ∃ query, request.mergeEach merges = { request with query := query } ∧
        ∀ name ≠ "filter", (query.getD ∅).get? name = (request.query.getD ∅).get? name := by
  refine ⟨?_, h.mergeEach_eq_self, request.mergeEach_eq_query merges⟩
  rw [h.mergeEach_eq_gathered, request.mergeEach_gathered_of_perm merges horder]

/-- A request for posts whose filter has something for every bucket, of which only the alternatives
are a list, and a clause next to its `bool`. -/
def oddPosts : SearchRequest where
  envelope := .forType (.ofTable "posts")
  query := some <| .ofList [("must", .single "match_all" .emptyObject),
    ("filter", .ofFields [
      ("bool", .ofFields [("must", .single "exists" (.single "field" (.string "title"))),
        ("must_not", .string "drafts"), ("should", .array [.null])]),
      ("term", .single "lang" (.string "en"))])]

/-- Two merges of what has to hold, one of an alternative, and two of nothing. -/
def mixedMerges : List (Bucket × List Json) :=
  [(.mustNot, []), (.must, [.bool true]), (.should, [.ofNat 1]), (.must, [.bool false]),
    (.should, [])]

/-- The alternative stands behind the one that was there, what has to hold takes the place of the
single clause, and the rest of the filter is as it was. -/
theorem merges_told_by_buckets_oddPosts :
    oddPosts.HasOrderedFilter ∧ [Bucket.should, .mustNot, .must].Perm Bucket.all ∧
      (oddPosts.mergeEach mixedMerges).filterOf = .ofFields [
        ("bool", .ofFields [("must", .array [.bool true, .bool false]),
          ("must_not", .string "drafts"), ("should", .array [.null, .ofNat 1])]),
        ("term", .single "lang" (.string "en"))] ∧
      oddPosts.mergeEach [(.should, []), (.must, [])] = oddPosts := by
  have hordered : oddPosts.HasOrderedFilter := by
    refine ⟨Json.isOrdered_ofObject _, fun spec hspec ↦ ?_⟩
    obtain rfl := Option.some.inj hspec
    exact Json.isOrdered_ofObject _
  have horder : [Bucket.should, .mustNot, .must].Perm Bucket.all := by decide
  obtain ⟨hgathered, -⟩ := merges_told_by_buckets oddPosts hordered mixedMerges _ horder
  obtain ⟨-, hnothing, -⟩ :=
    merges_told_by_buckets oddPosts hordered [(.should, []), (.must, [])] _ horder
  refine ⟨hordered, horder, ?_, hnothing (by simp)⟩
  rw [hgathered]
  decide +kernel

end SearchRequest

end RecordSearch
