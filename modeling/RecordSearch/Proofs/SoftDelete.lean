import RecordSearch.Proofs.RuleFilter
/-!
# Deleted records and the scopes of a query

A schema may mark its records in place of deleting them. A query for such records starts with a
seed, the condition that the mark is zero, and only the choice of another **scope** (`withTrashed`,
`onlyTrashed`) takes it away: every other refinement keeps what has to hold (`mem_must_refine`).

A condition that has to hold is respected by every request of a query, whatever rule the request
comes from (`holds_of_mem_found`), as long as no field of the rule's filter comes before `bool` in
the order of names. So no deleted record is ever found (`search_hides_deleted`).

A query without free text is the same question in all scopes, asked of other documents: the query
with deleted records is the view, and the other two scopes keep those documents of it that have the
mark zero or one (`scopes_restrict_view`).
-/

namespace RecordSearch

namespace Step

/-- Does the step leave the scope alone? The steps inside a group are free. -/
def keepsScope : Step → Bool
  | .withTrashed => false
  | .onlyTrashed => false
  | _ => true

end Step

/-- Is the deletion mark of the document loosely equal to the given one? -/
def Found.isMarked (mark : Nat) (found : Found) : Bool :=
  looselyEqual (documentField found.source softDeleteField) (.ofNat mark)

/-! ### The seed stays -/

namespace Query

variable {query : Query} {node : Node}

/-- Unless it chooses a scope, a step keeps what has to hold. -/
theorem mem_must_apply {step : Step} (h : step.keepsScope = true)
    (hnode : node ∈ query.criteria.conditions.must) :
    node ∈ (step.apply query).criteria.conditions.must := by
  have hpush : ∀ bucket added, node ∈ (query.push bucket added).criteria.conditions.must := by
    intro bucket added
    have hbucket := query.criteria.conditions.bucket_push bucket .must added
    rw [show (query.push bucket added).criteria.conditions.must =
      (query.criteria.conditions.push bucket added).bucket .must from rfl, hbucket]
    exact List.mem_append_left _ hnode
  cases step with
  | condition bucket clause => exact hpush bucket _
  | orGroup steps => exact hpush .must _
  | withTrashed | onlyTrashed => exact absurd h Bool.false_ne_true
  | _ => exact hnode

/-- Steps that leave the scope alone keep what has to hold. -/
theorem mem_must_refine {steps : List Step} (h : ∀ step ∈ steps, step.keepsScope = true)
    (hnode : node ∈ query.criteria.conditions.must) :
    node ∈ (query.refine steps).criteria.conditions.must := by
  induction steps generalizing query with
  | nil => exact hnode
  | cons step rest ih =>
    obtain ⟨hstep, hrest⟩ := List.forall_mem_cons.1 h
    exact ih hrest (mem_must_apply hstep hnode)

end Query

/-- A query for records with deletion marks starts with the condition that they are kept. -/
theorem Schema.seed_mem_must {schema : Schema} (h : schema.softDelete = true) :
    .leaf (softDeleteClause 0) ∈ schema.query.criteria.conditions.must := by
  rw [query, if_pos h]
  exact List.mem_singleton_self _

/-- So does a query for a free text. -/
theorem Schema.seed_mem_must_search {schema : Schema} (h : schema.softDelete = true)
    (text : String) :
    .leaf (softDeleteClause 0) ∈ (schema.search text).criteria.conditions.must := by
  rw [search]
  split <;> exact schema.seed_mem_must h

/-! ### Conditions that have to hold are respected -/

namespace Filter

/-- A filter into which conditions are merged accepts only what satisfies those that have to
hold. -/
theorem BoolFirst.holds_of_accepts {filter : Json} (h : BoolFirst filter) {conditions : Conditions}
    {node : Node} (hnode : node ∈ conditions.must) {source : Json}
    (haccepts : accepts source (mergeAll conditions Bucket.all filter) = true) :
    node.holds source = true := by
  have hrender : conditions.render .must = conditions.must.map Node.render :=
    Node.renderAll_eq_map _
  have hne : conditions.render .must ≠ [] := by
    rw [hrender, ne_eq, List.map_eq_nil_iff]
    exact List.ne_nil_of_mem hnode
  have hmust := bucketClauses_appendAll conditions filter .must
  rw [Bucket.name] at hmust
  rw [mergeAll_eq_opened ⟨.must, Bucket.mem_all _, hne⟩,
    accepts_of_kind_bool source (h.kind?_opened _), hmust, hrender] at haccepts
  simp only [Bool.and_eq_true, List.all_eq_true] at haccepts
  have hone := haccepts.1.1.1 node.render (List.mem_append_right _ (List.mem_map_of_mem hnode))
  rwa [accepts_render] at hone

end Filter

/-- What satisfies a condition set satisfies each of the conditions that have to hold. -/
theorem Conditions.holds_of_hold {conditions : Conditions} {node : Node}
    (hnode : node ∈ conditions.must) {source : Json} (h : conditions.hold source = true) :
    node.holds source = true := by
  rw [hold, Bool.and_eq_true, Bool.and_eq_true] at h
  exact List.all_eq_true.1 h.1.1 node hnode

namespace Query

variable {query : Query} {store : Store} {base : String}

/-- No rule of the query puts a field of its filter before `bool`. -/
def LetsBoolFirst (query : Query) : Prop :=
  ∀ rule ∈ query.effectiveRules, ∀ fragment, rule.fragment? query.criteria = some fragment →
    ∀ filter, fragment.get? "filter" = some filter → Filter.BoolFirst filter

/-- The filters of such rules are those of the requests before the criteria are added. -/
theorem LetsBoolFirst.of_mem_baseRequests (h : query.LetsBoolFirst) {options : Options}
    {request : SearchRequest} (hrequest : request ∈ query.baseRequests options) {filter : Json}
    (hfilter : request.query.bind (·.get? "filter") = some filter) : Filter.BoolFirst filter := by
  rcases query.of_mem_baseRequests hrequest with rfl | ⟨rule, hrule, hsome⟩
  · rw [SearchRequest.setMatchAll_eq] at hfilter
    simp [Dict.get?_single] at hfilter
  · rw [rule.request?_eq] at hsome
    obtain ⟨fragment, hfragment, rfl⟩ := Option.map_eq_some_iff.1 hsome
    split at hfilter
    · cases hfilter
    · exact h rule hrule fragment hfragment filter hfilter

/-- **What has to hold is respected by every request.** A document that a request of the query
finds satisfies each condition that has to hold. -/
theorem LetsBoolFirst.holds_of_mem_found (h : query.LetsBoolFirst) {node : Node}
    (hnode : node ∈ query.criteria.conditions.must) {options : Options} {payload : Json}
    (hpayload : payload ∈ query.payloads base options) {found : Found}
    (hfound : found ∈ store.found payload) : node.holds found.source = true := by
  obtain ⟨request, hrequest, rfl⟩ := List.mem_map.1 hpayload
  rw [found_directed] at hfound
  obtain ⟨index, -, hindex⟩ := List.mem_flatMap.1 hfound
  rw [Store.foundIn_eq_filter] at hindex
  have haccepts := (List.mem_filter.1 hindex).2
  cases hfilter : request.query.bind (·.get? "filter") with
  | none =>
    have hnone : (request.query.getD ∅).get? "filter" = none := by
      cases hquery : request.query with
      | none => rfl
      | some fragment => rwa [hquery] at hfilter
    rw [SearchRequest.get?_filter_withConditions hnone, Conditions.accepts_filter] at haccepts
    exact Conditions.holds_of_hold hnode haccepts
  | some filter =>
    rw [SearchRequest.get?_filter_withConditions_of_some hfilter, Option.all_some] at haccepts
    exact (h.of_mem_baseRequests hrequest hfilter).holds_of_accepts hnode haccepts

/-- The alias of the query, if it has one, is known to the schema. -/
def KnowsAlias (query : Query) : Prop :=
  ∀ name, query.criteria.aliasName = some name → (query.schema.aliasIndex? name).isSome = true

theorem KnowsAlias.exists_base (h : query.KnowsAlias) : ∃ base, query.baseIndex? = .ok base := by
  unfold baseIndex?
  cases halias : query.criteria.aliasName with
  | none => exact ⟨_, rfl⟩
  | some name =>
    obtain ⟨index, hindex⟩ := Option.isSome_iff_exists.1 (h name halias)
    exact ⟨index, by simp only [hindex]⟩

end Query

/-! ### No deleted record is found -/

/-- The mark is no path: it is looked up as a field. -/
theorem documentField_softDeleteField (source : Json) :
    documentField source softDeleteField = source.field? softDeleteField := by
  have hpath : fieldPath softDeleteField = [softDeleteField] :=
    fieldPath_of_plain (by decide) (by decide) (by decide)
  have hplace : Json.place? softDeleteField = none := by decide
  rw [documentField, hpath, Json.at?_cons]
  cases source with
  | object fields =>
    rw [Json.step?, Json.field?]
    cases Fields.get? fields softDeleteField <;> rfl
  | array items => rw [Json.step?, hplace]; rfl
  | _ => rfl

/-- The mark of a document is that of its hit. -/
theorem Found.isMarked_eq (found : Found) (mark : Nat) :
    found.isMarked mark =
      looselyEqual (found.hit.source.get? softDeleteField) (.ofNat mark) := by
  rw [isMarked, documentField_softDeleteField, Json.field?_eq_get?_fieldsOrNone]
  rfl

namespace Query

/-- **No deleted record is found.** Take a query for records with deletion marks, with free text or
without, and refine it in any way that leaves the scope alone, with rules that put no field of their
filters before `bool` and with an alias that is known. Its search of a store without waiting answers
succeeds and shows a window of its winners, and all of these have the mark zero. -/
theorem search_hides_deleted (schema : Schema) (hsoft : schema.softDelete = true) (start : Query)
    (hstart : start = schema.query ∨ ∃ text, start = schema.search text) (steps : List Step)
    (hsteps : ∀ step ∈ steps, step.keepsScope = true)
    (hcallback : (start.refine steps).callback = none)
    (halias : (start.refine steps).KnowsAlias) (hrules : (start.refine steps).LetsBoolFirst)
    (store : Store) (hidle : ∀ index, Store.Idle store.searchAnswers index) (options : Options) :
    let query := start.refine steps
    ∃ base response after, query.baseIndex? = .ok base ∧
      (query.respond options).runOn Store.backend store = (.ok response, after) ∧
      response.hits = (((query.winners store base).drop (query.criteria.offset.getD 0)).take
        (query.criteria.limit.getD 10)).map Found.hit ∧
      (∀ found ∈ query.winners store base, found.isMarked 0 = true) ∧
      ∀ hit ∈ response.hits,
        looselyEqual (hit.source.get? softDeleteField) (.ofNat 0) = true := by
  intro query
  have hseed : .leaf (softDeleteClause 0) ∈ query.criteria.conditions.must := by
    refine mem_must_refine hsteps ?_
    rcases hstart with rfl | ⟨text, rfl⟩
    · exact schema.seed_mem_must hsoft
    · exact schema.seed_mem_must_search hsoft text
  obtain ⟨base, hbase⟩ := halias.exists_base
  have hkept : ∀ found ∈ query.winners store base, found.isMarked 0 = true := by
    intro found hfound
    obtain ⟨payload, hpayload, hmem⟩ := exists_payload_of_mem_winners hfound
    exact hrules.holds_of_mem_found hseed hpayload hmem
  obtain ⟨response, after, hrun, -, -, hhits⟩ :=
    respond_runOn_winners hcallback options hbase (hidle base) ⟨store.requests, rfl⟩
  refine ⟨base, response, after, hbase, hrun, hhits, hkept, fun hit hhit ↦ ?_⟩
  rw [hhits] at hhit
  obtain ⟨found, hfound, rfl⟩ := List.mem_map.1 hhit
  rw [← found.isMarked_eq]
  exact hkept found (List.mem_of_mem_drop (List.mem_of_mem_take hfound))

/-- A schema of posts that are marked in place of being deleted, with an archive. -/
def archivedPosts : Schema :=
  { Schema.ofTable "posts" with
    softDelete := true, aliases := .single "archive" "old_posts", rules := [] }

/-- Posts with a title in the archive and in the index of today, by three rules: the first one has a
Boolean filter that no document passes, the second one a list for a filter, and the third one no
filter. The group of alternatives asks for deleted records too, which is no matter of the query
around it. -/
def archiveSteps : List Step :=
  let french := Json.single "term" (.single "lang" (.string "fr"))
  [.orGroup [.withTrashed, .condition .must (.present "title")], .useAlias "archive",
    .union ["posts_index"],
    .rule (.callable fun _ ↦
      .single "filter" (.single "bool" (.single "must" (.array [french])))),
    .rule (.conditional (fun _ ↦ true) (fun _ ↦ .single "filter" (.array [french])) fun _ ↦ none),
    .rule (.callable fun _ ↦ ∅)]

/-- A deleted post and three that are not, one of them without a mark. -/
def archiveStore : Store :=
  let post (mark : Json) : Json :=
    .ofFields [("title", .string "x"), (softDeleteField, mark)]
  ((((({} : Store).put "old_posts" "1" (post (.ofNat 1))).put "old_posts" "2"
    (post (.string "0"))).put "posts_index" "3" (post (.ofNat 0))).put "posts_index" "4"
    (.single "title" (.string "x")))

theorem letsBoolFirst_archiveSteps :
    ((archivedPosts.search "x").refine archiveSteps).LetsBoolFirst := by
  intro rule hrule fragment hfragment filter hfilter
  have hrule : rule ∈ archiveSteps.filterMap fun step ↦
      match step with
      | .rule added => some added
      | _ => none := hrule
  simp only [archiveSteps, List.filterMap_cons, List.filterMap_nil, List.mem_cons,
    List.not_mem_nil, or_false] at hrule
  rcases hrule with rfl | rfl | rfl
  · obtain rfl := Option.some.inj hfragment
    rw [Dict.get?_single_self] at hfilter
    obtain rfl := Option.some.inj hfilter
    exact Filter.boolFirst_of_mem_kinds (by decide) _
  · obtain rfl := Option.some.inj hfragment
    rw [Dict.get?_single_self] at hfilter
    obtain rfl := Option.some.inj hfilter
    exact Filter.boolFirst_array _
  · obtain rfl := Option.some.inj hfragment
    cases hfilter

/-- The second rule finds the two posts that are marked as kept; the deleted one and the one without
a mark stay hidden. -/
theorem search_hides_deleted_archive :
    let query := (archivedPosts.search "x").refine archiveSteps
    archivedPosts.softDelete = true ∧ (∀ step ∈ archiveSteps, step.keepsScope = true) ∧
      query.callback = none ∧ query.KnowsAlias ∧ query.LetsBoolFirst ∧
      ∃ response after, query.search.runOn Store.backend archiveStore = (.ok response, after) ∧
        response.hits.map Hit.id = [some "2", some "3"] ∧
        ∀ hit ∈ response.hits,
          looselyEqual (hit.source.get? softDeleteField) (.ofNat 0) = true := by
  intro query
  have halias : query.KnowsAlias := by
    rintro _ ⟨⟩
    rfl
  have hsteps : ∀ step ∈ archiveSteps, step.keepsScope = true := by
    simp [archiveSteps, Step.keepsScope]
  obtain ⟨base, response, after, hbase, hrun, hhits, -, hkept⟩ :=
    search_hides_deleted archivedPosts rfl (archivedPosts.search "x") (.inr ⟨"x", rfl⟩)
      archiveSteps hsteps rfl halias letsBoolFirst_archiveSteps archiveStore (fun _ ↦ rfl) {}
  obtain rfl : "old_posts" = base := Except.ok.inj hbase
  refine ⟨rfl, hsteps, rfl, halias, letsBoolFirst_archiveSteps, response, after, hrun, ?_, hkept⟩
  rw [hhits]
  decide +kernel

end Query

/-! ### Scopes -/

/-- Of conditions that contain a clause all hold exactly if the clause holds and so do those that
are not it. -/
theorem Node.all_holds_eq_filter {clause : Clause} {nodes : List Node}
    (h : .leaf clause ∈ nodes) (source : Json) :
    nodes.all (holds source) =
      ((nodes.filter fun node ↦ !node.isLeaf clause).all (holds source) &&
        clause.holds source) := by
  rw [Bool.eq_iff_iff, Bool.and_eq_true, List.all_eq_true, List.all_eq_true]
  constructor
  · intro hall
    exact ⟨fun node hnode ↦ hall node (List.mem_filter.1 hnode).1, hall _ h⟩
  · rintro ⟨hothers, hclause⟩ node hnode
    by_cases hleaf : node.isLeaf clause = true
    · rw [isLeaf_iff.1 hleaf, holds]
      exact hclause
    · exact hothers node (List.mem_filter.2 ⟨hnode, by simpa using hleaf⟩)

namespace Query

variable {query : Query}

/-- A query with the seed finds what it finds without it, less what is not marked as kept. -/
theorem accepted_eq_filter_withTrashed
    (hseed : .leaf (softDeleteClause 0) ∈ query.criteria.conditions.must) (store : Store)
    (base : String) :
    query.accepted store base = (query.withTrashed.accepted store base).filter
      (Found.isMarked 0) := by
  refine accepted_eq_filter query.withTrashed query
    (fun source ↦ (softDeleteClause 0).holds source) rfl (fun source ↦ ?_) store base
  show query.criteria.conditions.hold source = _
  rw [Conditions.hold, Node.all_holds_eq_filter hseed, withTrashed, Conditions.hold]
  ac_rfl

/-- No refinement changes the free text. -/
theorem freeText_refine (query : Query) (steps : List Step) :
    (query.refine steps).criteria.freeText = query.criteria.freeText := by
  induction steps generalizing query with
  | nil => rfl
  | cons step rest ih =>
    rw [refine_cons, ih]
    cases step <;> rfl

/-- **The scopes restrict one view.** Take the query for the records of a schema with deletion
marks, and refine it in any way that leaves the scope alone, with an alias that is known. In each
scope there is one request. With deleted records it finds the view; as it is, the query finds those
documents of the view that are marked as kept, and with deleted records only those that are marked
as deleted, in the order of the view. To ask for deleted records twice is to ask once. -/
theorem scopes_restrict_view (schema : Schema) (hsoft : schema.softDelete = true)
    (steps : List Step) (hsteps : ∀ step ∈ steps, step.keepsScope = true)
    (halias : (schema.query.refine steps).KnowsAlias) (store : Store) (options : Options) :
    let query := schema.query.refine steps
    ∃ kept all deleted : SearchRequest,
      query.compile options = .ok [kept] ∧ query.withTrashed.compile options = .ok [all] ∧
      query.onlyTrashed.compile options = .ok [deleted] ∧
      store.found kept.render = (store.found all.render).filter (Found.isMarked 0) ∧
      store.found deleted.render = (store.found all.render).filter (Found.isMarked 1) ∧
      query.withTrashed.withTrashed.criteria.conditions =
        query.withTrashed.criteria.conditions := by
  intro query
  have htext : query.criteria.freeText = none :=
    (schema.query.freeText_refine steps).trans (schema_query_eq schema).1
  obtain ⟨base, hbase⟩ := halias.exists_base
  -- The scopes differ in what has to hold, and not in free text and target.
  have hcompile : ∀ other : Query, other.criteria.freeText = query.criteria.freeText →
      other.baseIndex? = query.baseIndex? →
      other.compile options = .ok [other.request options base] := by
    intro other hfreeText hindex
    rw [compile_eq_map_request (hfreeText.trans htext), hindex.trans hbase]
    rfl
  refine ⟨_, _, _, hcompile query rfl rfl, hcompile query.withTrashed rfl rfl,
    hcompile query.onlyTrashed rfl rfl, ?_, ?_, ?_⟩
  · rw [found_request, found_request]
    exact accepted_eq_filter_withTrashed (mem_must_refine hsteps (schema.seed_mem_must hsoft)) _ _
  · rw [found_request, found_request]
    exact query.withTrashed.accepted_push_must (.leaf (softDeleteClause 1)) store base
  · simp only [withTrashed, List.filter_filter, Bool.and_self]

/-- Posts of the archive and of today that are asked for twice to be kept, by a condition that is
the seed again and by a group of alternatives that has it for one. -/
def keptTwiceSteps : List Step :=
  [.condition .must (softDeleteClause 0),
    .orGroup [.condition .must (softDeleteClause 0), .condition .must (.present "title")],
    .useAlias "archive", .union ["posts_index"]]

/-- The view has all four posts: the condition goes with the seed, and all of them pass the group.
Two of them are kept and one is deleted. -/
theorem scopes_restrict_archive :
    let query := archivedPosts.query.refine keptTwiceSteps
    archivedPosts.softDelete = true ∧ (∀ step ∈ keptTwiceSteps, step.keepsScope = true) ∧
      query.KnowsAlias ∧ ∃ kept all deleted : SearchRequest,
      query.compile {} = .ok [kept] ∧ query.withTrashed.compile {} = .ok [all] ∧
      query.onlyTrashed.compile {} = .ok [deleted] ∧
      (archiveStore.found all.render).map Found.id = ["1", "2", "3", "4"] ∧
      (archiveStore.found kept.render).map Found.id = ["2", "3"] ∧
      (archiveStore.found deleted.render).map Found.id = ["1"] := by
  intro query
  have halias : query.KnowsAlias := by
    rintro _ ⟨⟩
    rfl
  have hbase : query.withTrashed.baseIndex? = .ok "old_posts" := rfl
  have hsteps : ∀ step ∈ keptTwiceSteps, step.keepsScope = true := by
    simp [keptTwiceSteps, Step.keepsScope]
  obtain ⟨kept, all, deleted, hkept, hall, hdeleted, hzero, hone, -⟩ :=
    scopes_restrict_view archivedPosts rfl keptTwiceSteps hsteps halias archiveStore {}
  have hview := hall
  rw [compile_eq_map_request rfl, hbase] at hview
  obtain rfl := (List.cons.inj (Except.ok.inj hview)).1
  refine ⟨rfl, hsteps, halias, kept, _, deleted, hkept, hall, hdeleted, ?_, ?_, ?_⟩
  · decide +kernel
  · rw [hzero]
    decide +kernel
  · rw [hone]
    decide +kernel

end Query

end RecordSearch
