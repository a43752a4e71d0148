import RecordSearch.Proofs.Answer
import RecordSearch.Proofs.Exchange
import RecordSearch.Query.Steps
/-!
# Searching the store with conditions

A query compiles to requests that its criteria shape and direct (`compile_eq_map`). Without free
text there is one of them (`compile_eq_map_request`), and what that request finds in a store is what
the typed conditions of the query say (`found_request`): the documents of the searched index and
then of the further indices, each index in the order of its ids, those of which the conditions hold.
A search shows the window of this list and a count its length (`search_runOn`, `count_runOn`).

`search_refine_shows_accepted` puts this together for every query that is built by conditions,
groups, windows and further indices.
-/

namespace RecordSearch

/-! ### Compiled requests -/

namespace SearchRequest

variable (request : SearchRequest)

theorem setQuery_eq (fragment : Object) :
    request.setQuery fragment =
      { request with query := if fragment.isEmpty then request.query else some fragment } := by
  rw [setQuery]
  split <;> rfl

theorem setHighlight_eq (highlight : Option Json) :
    request.setHighlight highlight =
      { request with
        highlight := (highlight.filter fun value ↦ !value.isVoid).or request.highlight } := by
  unfold setHighlight
  cases highlight with
  | none => rfl
  | some value => by_cases h : value.isVoid <;> simp [Option.filter_some, h]

theorem setSource_eq (fields : List String) :
    request.setSource fields =
      { request with source := if fields.isEmpty then request.source else fields } := by
  rw [setSource]
  split <;> rfl

theorem setCollapse_eq (field : Option String) :
    request.setCollapse field =
      { request with
        collapse := (field.filter fun name ↦ !name.isEmpty).or request.collapse } := by
  unfold setCollapse
  cases field with
  | none => rfl
  | some name => by_cases h : name.isEmpty <;> simp [Option.filter_some, h]

theorem setSort_eq (sort : List Json) :
    request.setSort sort =
      { request with sort := if sort.isEmpty then request.sort else sort } := by
  rw [setSort]
  split <;> rfl

theorem setMinScore_eq (score : Option Binary64) :
    request.setMinScore score =
      { request with minScore := (score.filter fun x ↦ !x.isZero).or request.minScore } := by
  unfold setMinScore
  cases score with
  | none => rfl
  | some x => by_cases h : x.isZero <;> simp [Option.filter_some, h]

theorem setAggs_eq (aggs : Object) :
    request.setAggs aggs =
      { request with aggs := if aggs.isEmpty then request.aggs else aggs } := by
  rw [setAggs]
  split <;> rfl

theorem setMatchAll_eq :
    request.setMatchAll =
      { request with query := some (.single "must" (.single "match_all" .emptyObject)) } := by
  rw [setMatchAll, setQuery, if_neg]
  simp

/-- Conditions change the query of a request and nothing else. -/
theorem withConditions_eq (conditions : Conditions) :
    request.withConditions conditions =
      { request with query := (request.withConditions conditions).query } := by
  suffices ∀ (rest : List Bucket) (start : SearchRequest), start = { request with
      query := start.query } → ∀ merged, merged = rest.foldl
        (fun request bucket ↦ request.mergeFilter bucket (conditions.render bucket)) start →
        merged = { request with query := merged.query } from
    this Bucket.all request rfl _ rfl
  intro rest
  induction rest with
  | nil => rintro start hstart merged rfl; exact hstart
  | cons bucket rest ih =>
    intro start hstart
    refine ih _ ?_
    unfold mergeFilter
    dsimp only
    split
    · exact hstart
    · rw [hstart]

/-- A merge makes of equal queries equal queries. -/
theorem query_mergeFilter_congr {request other : SearchRequest} (h : request.query = other.query)
    (bucket : Bucket) (clauses : List Json) :
    (request.mergeFilter bucket clauses).query = (other.mergeFilter bucket clauses).query := by
  simp only [mergeFilter, h, apply_ite SearchRequest.query]

/-- The merges of a compilation make of equal queries equal queries. -/
theorem query_withConditions_congr {request other : SearchRequest}
    (h : request.query = other.query) (conditions : Conditions) :
    (request.withConditions conditions).query = (other.withConditions conditions).query := by
  unfold withConditions
  induction Bucket.all generalizing request other with
  | nil => exact h
  | cons bucket rest ih => exact ih (query_mergeFilter_congr h bucket _)

/-- The request shaped by criteria, but not yet sent to their target. -/
def shaped (criteria : Criteria) (options : Options) : SearchRequest :=
  ((request
    |>.setSource criteria.select
    |>.setCollapse criteria.collapse
    |>.setSort criteria.sort
    |>.setExplain options.explain
    |>.setProfile options.profile
    |>.setMinScore criteria.minScore
    |>.setOffset criteria.offset
    |>.setSize criteria.limit).withConditions criteria.conditions).setAggs criteria.groups

variable (criteria : Criteria) (options : Options)

/-- The parts of a shaped request. -/
theorem shaped_eq : request.shaped criteria options =
    { request with
      query := (request.withConditions criteria.conditions).query
      source := if criteria.select.isEmpty then request.source else criteria.select
      collapse := (criteria.collapse.filter fun name ↦ !name.isEmpty).or request.collapse
      sort := if criteria.sort.isEmpty then request.sort else criteria.sort
      explain := request.explain || options.explain
      profile := request.profile || options.profile
      minScore := (criteria.minScore.filter fun x ↦ !x.isZero).or request.minScore
      offset := criteria.offset.or request.offset
      size := criteria.limit.or request.size
      aggs := if criteria.groups.isEmpty then request.aggs else criteria.groups } := by
  rw [shaped, setAggs_eq, withConditions_eq]
  simp only [setSource_eq, setCollapse_eq, setSort_eq, setMinScore_eq, setExplain, setProfile,
    setOffset, setSize]
  congr 1
  exact query_withConditions_congr (by rfl) criteria.conditions

/-- The criteria leave the envelope of a request as it is. -/
theorem envelope_shaped : (request.shaped criteria options).envelope = request.envelope := by
  rw [shaped_eq]

/-- The criteria change the query of a request by their conditions. -/
theorem query_shaped : (request.shaped criteria options).query =
    (request.withConditions criteria.conditions).query := by
  rw [shaped_eq]

/-- The filter of a shaped request are the criteria's conditions, if it had no filter before. -/
theorem filter_shaped {request : SearchRequest}
    (h : (request.query.getD ∅).get? "filter" = none) :
    (request.shaped criteria options).query.bind (·.get? "filter") =
      criteria.conditions.filter? := by
  rw [query_shaped]
  exact get?_filter_withConditions h criteria.conditions

end SearchRequest

/-! ### Requests of rules -/

namespace Rule

variable (rule : Rule) (criteria : Criteria)

/-- The fragment of a rule, if it applies. -/
def fragment? (rule : Rule) (criteria : Criteria) : Option Object :=
  match rule with
  | callable fragment => some (fragment criteria)
  | conditional applies fragment _ =>
    if applies criteria then some (fragment criteria) else none

/-- The highlight section of a rule, if it says anything; a function has none. -/
def highlight? : Option Json :=
  match rule with
  | callable _ => none
  | conditional _ _ highlight => (highlight criteria).filter fun value ↦ !value.isVoid

/-- The request of a rule that applies has its fragment for a query, unless that is empty, and its
highlight section, if the options want it. -/
theorem request?_eq (options : Options) (envelope : Envelope) :
    rule.request? criteria options envelope =
      (rule.fragment? criteria).map fun fragment ↦
        { envelope := envelope
          query := if fragment.isEmpty then none else some fragment
          highlight := if options.highlight then rule.highlight? criteria else none } := by
  cases rule with
  | callable fragment =>
    rw [request?, fragment?, highlight?, SearchRequest.setQuery_eq, ite_self]
    rfl
  | conditional applies fragment highlight =>
    rw [request?, fragment?, highlight?]
    split
    · split <;>
        simp only [SearchRequest.setHighlight_eq, SearchRequest.setQuery_eq, Option.or_none,
          Option.map_some]
    · rfl

/-- The query of a rule's request is its fragment, unless that is empty. -/
theorem query_request?_eq (options : Options) (envelope : Envelope) :
    (rule.request? criteria options envelope).map SearchRequest.query =
      (rule.fragment? criteria).map fun fragment ↦
        if fragment.isEmpty then none else some fragment := by
  rw [request?_eq, Option.map_map]
  rfl

end Rule

/-- A further condition that has to hold is one more to satisfy. -/
theorem Conditions.hold_push_must (conditions : Conditions) (node : Node) (source : Json) :
    (conditions.push .must node).hold source = (conditions.hold source && node.holds source) := by
  simp only [hold, push, setBucket, bucket, List.all_append, List.all_cons, List.all_nil,
    Bool.and_true]
  ac_rfl

namespace Query

variable (query : Query)

/-- The index that a query searches first: the base index of its schema, or what its alias stands
for. -/
def baseIndex? : Except Error String :=
  match query.criteria.aliasName with
  | none => .ok query.schema.indexName
  | some name =>
    match query.schema.aliasIndex? name with
    | some index => .ok index
    | none => .error (.configuration (.unknownAlias query.schema.table name))

/-- The envelope of the query's requests, if its first index is the given one. -/
def envelope (base : String) : Envelope :=
  Envelope.addUnions { Envelope.forType query.schema with target := .single base }
    query.criteria.unions

/-- The envelope goes to the first index and the further indices of the query. -/
theorem names_envelope (base : String) :
    (query.envelope base).target.names = base :: query.criteria.unions := by
  rw [envelope, Envelope.addUnions]
  split
  · next h => rw [List.isEmpty_iff.1 h]; rfl
  · rfl

theorem params_envelope (base : String) : (query.envelope base).params = ∅ := by
  rw [envelope, Envelope.addUnions]
  split <;> rfl

/-- A request to the schema's documents is sent to the query's target, unless the alias is
unknown. -/
theorem withTarget_eq {request : SearchRequest}
    (h : request.envelope = .forType query.schema) :
    request.withTarget query.schema query.criteria =
      query.baseIndex?.map fun base ↦ { request with envelope := query.envelope base } := by
  rw [SearchRequest.withTarget, baseIndex?]
  cases query.criteria.aliasName with
  | none => rw [h]; rfl
  | some name =>
    unfold Envelope.useAlias
    dsimp only
    cases query.schema.aliasIndex? name with
    | none => rfl
    | some index => rw [h]; rfl

/-- A request shaped by the criteria of the query and sent to its target, if the first index is the
given one. -/
def directed (options : Options) (base : String) (request : SearchRequest) : SearchRequest :=
  { request.shaped query.criteria options with envelope := query.envelope base }

/-- The request of a query without free text, if its first index is the given one. -/
def request (options : Options) (base : String) : SearchRequest :=
  { (SearchRequest.setMatchAll { envelope := .forType query.schema }).shaped query.criteria
      options with
    envelope := query.envelope base }

theorem baseRequests_ne_nil (options : Options) : query.baseRequests options ≠ [] := by
  rw [baseRequests]
  split
  · exact List.cons_ne_nil _ _
  · next hne => exact hne

/-- Before the criteria are added, a request is that of a rule or asks for all documents. -/
theorem of_mem_baseRequests {options : Options} {request : SearchRequest}
    (h : request ∈ query.baseRequests options) :
    request = SearchRequest.setMatchAll { envelope := .forType query.schema } ∨
      ∃ rule ∈ query.effectiveRules,
        rule.request? query.criteria options (.forType query.schema) = some request := by
  rw [baseRequests] at h
  split at h
  · exact .inl (List.mem_singleton.1 h)
  · rw [ruleRequests] at h
    split at h
    · exact .inr (List.mem_filterMap.1 h)
    · exact absurd h List.not_mem_nil

/-- Before the criteria are added, requests go to the documents of the schema, and have nothing but
a query and a highlight section. -/
theorem eq_of_mem_baseRequests {options : Options} {request : SearchRequest}
    (h : request ∈ query.baseRequests options) :
    request = { envelope := .forType query.schema, query := request.query,
                highlight := request.highlight } := by
  rcases query.of_mem_baseRequests h with rfl | ⟨rule, -, hrule⟩
  · rw [SearchRequest.setMatchAll_eq]
  · rw [rule.request?_eq] at hrule
    obtain ⟨fragment, -, rfl⟩ := Option.map_eq_some_iff.1 hrule
    rfl

/-- The criteria shape every request and send it to the query's target, unless the alias is
unknown. -/
theorem compile_eq_map (options : Options) :
    query.compile options =
      query.baseIndex?.map fun base ↦
        (query.baseRequests options).map (query.directed options base) := by
  have hcriteria : ∀ request ∈ query.baseRequests options,
      request.withCriteria query.schema query.criteria options =
        query.baseIndex?.map fun base ↦ query.directed options base request :=
    fun request hrequest ↦ query.withTarget_eq <|
      (request.envelope_shaped query.criteria options).trans (by
        rw [query.eq_of_mem_baseRequests hrequest])
  rw [compile]
  cases hbase : query.baseIndex? with
  | error e =>
    rw [hbase] at hcriteria
    obtain ⟨first, rest, hcons⟩ := List.exists_cons_of_ne_nil (query.baseRequests_ne_nil options)
    rw [hcons, List.mapM_cons, hcriteria first (hcons ▸ List.mem_cons_self)]
    rfl
  | ok base =>
    rw [hbase] at hcriteria
    show _ = Except.ok _
    generalize query.baseRequests options = requests at hcriteria ⊢
    induction requests with
    | nil => rfl
    | cons request rest ih =>
      obtain ⟨hrequest, hrest⟩ := List.forall_mem_cons.1 hcriteria
      rw [List.mapM_cons, hrequest, ih hrest]
      rfl

theorem targetIndices_directed (options : Options) (base : String) (request : SearchRequest) :
    targetIndices (query.directed options base request).render =
      base :: query.criteria.unions := by
  have hparams : (query.directed options base request).envelope.params.get? "index" = none := by
    rw [show (query.directed options base request).envelope = query.envelope base from rfl,
      params_envelope, Dict.get?_empty]
  rw [SearchRequest.targetIndices_render _ hparams]
  exact query.names_envelope base

variable {query}

/-- What a query compiles to are its requests, shaped and sent to the target. -/
theorem exists_base_of_compile {options : Options} {requests : List SearchRequest}
    (h : query.compile options = .ok requests) :
    ∃ base, query.baseIndex? = .ok base ∧
      requests = (query.baseRequests options).map (query.directed options base) := by
  rw [compile_eq_map] at h
  cases hbase : query.baseIndex? with
  | error e => rw [hbase] at h; exact absurd h nofun
  | ok base => rw [hbase] at h; exact ⟨base, rfl, (Except.ok.inj h).symm⟩

/-- A query is compiled to at least one request. -/
theorem compile_ne_nil {options : Options} {requests : List SearchRequest}
    (h : query.compile options = .ok requests) : requests ≠ [] := by
  obtain ⟨base, -, rfl⟩ := exists_base_of_compile h
  exact mt List.map_eq_nil_iff.1 (query.baseRequests_ne_nil options)

/-- A query without free text compiles to one request. -/
theorem compile_eq_map_request (h : query.criteria.freeText = none) (options : Options) :
    query.compile options = query.baseIndex?.map fun base ↦ [query.request options base] := by
  have hbase : query.baseRequests options =
      [SearchRequest.setMatchAll { envelope := .forType query.schema }] := by
    simp [baseRequests, ruleRequests, h]
  rw [compile_eq_map, hbase]
  rfl

/-! ### Accepted documents -/

/-- The documents of which the conditions of a query hold: those of the first index and then those
of the further indices, each index in the order of its ids. -/
def accepted (query : Query) (store : Store) (base : String) : List Found :=
  (base :: query.criteria.unions).flatMap fun index ↦
    (store.documentsOf index).filter fun found ↦ query.criteria.conditions.hold found.source

/-- The accepted documents in the window of a query, which starts at the first one and is ten long
unless the query says otherwise. -/
def shown (query : Query) (store : Store) (base : String) : List Found :=
  ((query.accepted store base).drop (query.criteria.offset.getD 0)).take
    (query.criteria.limit.getD 10)

/-- If of two queries for the same indices one has what the other has and one condition more, it
accepts those documents of the other of which that condition holds. -/
theorem accepted_eq_filter (query other : Query) (keeps : Json → Bool)
    (hunions : other.criteria.unions = query.criteria.unions)
    (hhold : ∀ source, other.criteria.conditions.hold source =
      (query.criteria.conditions.hold source && keeps source)) (store : Store) (base : String) :
    other.accepted store base =
      (query.accepted store base).filter fun found ↦ keeps found.source := by
  rw [accepted, accepted, hunions, List.filter_flatMap]
  refine congrArg (List.flatMap · _) (funext fun index ↦ ?_)
  rw [List.filter_filter]
  exact List.filter_congr fun found _ ↦ by rw [hhold, Bool.and_comm]

/-- A further condition that has to hold narrows what is accepted. -/
theorem accepted_push_must (query : Query) (node : Node) (store : Store) (base : String) :
    (query.push .must node).accepted store base =
      (query.accepted store base).filter fun found ↦ node.holds found.source :=
  accepted_eq_filter query (query.push .must node) (Node.holds · node) rfl
    (query.criteria.conditions.hold_push_must node) store base

variable (query) (options : Options) (base : String)

theorem targetIndices_request :
    targetIndices (query.request options base).render = base :: query.criteria.unions :=
  query.targetIndices_directed options base _

/-- A request finds the documents of which the typed conditions hold. -/
theorem found_request (store : Store) :
    store.found (query.request options base).render = query.accepted store base := by
  have hfilter : (query.request options base).query.bind (·.get? "filter") =
      query.criteria.conditions.filter? :=
    SearchRequest.filter_shaped query.criteria options (by
      rw [SearchRequest.setMatchAll_eq]
      simp [Dict.get?_single])
  rw [Store.found, accepted, targetIndices_request, SearchRequest.filter_render, hfilter]
  refine congrArg (List.flatMap · _) (funext fun index ↦ ?_)
  rw [Store.foundIn_eq_filter]
  exact List.filter_congr fun found _ ↦ query.criteria.conditions.accepts_filter found.source

/-- A request shows the window of the query. -/
theorem shown_request (store : Store) :
    store.shown (query.request options base).render = query.shown store base := by
  have hoffset : (query.request options base).offset = query.criteria.offset := by
    rw [request, SearchRequest.shaped_eq, SearchRequest.setMatchAll_eq]
    exact Option.or_none
  have hsize : (query.request options base).size = query.criteria.limit := by
    rw [request, SearchRequest.shaped_eq, SearchRequest.setMatchAll_eq]
    exact Option.or_none
  rw [Store.shown, shown]
  rw [found_request, SearchRequest.windowStart_render, SearchRequest.windowSize_render, hoffset,
    hsize]

/-! ### Runs -/

/-- A query is a **filter** if it neither has a free text nor is searched by hand. -/
structure IsFilter (query : Query) : Prop where
  /-- There is no free text. -/
  freeText_eq_none : query.criteria.freeText = none
  /-- There is no search by hand. -/
  callback_eq_none : query.callback = none

/-- The response of a store to a filter. -/
def storeResponse (query : Query) (options : Options) (store : Store) (base : String) : Response :=
  let payload := (query.request options base).render
  { body := store.searchAnswer payload, payload := some payload }

theorem total_storeResponse (store : Store) :
    (query.storeResponse options store base).total = (query.accepted store base).length := by
  rw [Response.total, storeResponse, Store.totalHits_searchAnswer, found_request]

theorem hits_storeResponse (store : Store) :
    (query.storeResponse options store base).hits = (query.shown store base).map Found.hit := by
  rw [storeResponse, Store.hits_searchAnswer, shown_request]

variable {query} {base}

/-- A filter searches the documents of a store whose first index is idle. -/
theorem respond_runOn (hfilter : query.IsFilter) (hbase : query.baseIndex? = .ok base)
    {store : Store} (hidle : Store.Idle store.searchAnswers base) :
    (query.respond options).runOn Store.backend store =
      (.ok (query.storeResponse options store base),
        store.noting .search (query.request options base).render) := by
  have hcompile := compile_eq_map_request hfilter.freeText_eq_none options
  have hreply := Store.search_of_idle (query.targetIndices_request options base) hidle
  rw [hbase] at hcompile
  rw [respond, hfilter.callback_eq_none, hcompile]
  refine Fetch.runOn_bind_of_ok (Fetch.runOn_ofExcept _ _ _) |>.trans ?_
  rw [firstWithHits, Fetch.runOn_bind_of_ok ((Fetch.runOn_ask _ _ _ _).trans hreply)]
  -- There is no second request, so the answer counts with hits or without.
  dsimp only
  split <;> rfl

/-- The search of a filter. -/
theorem search_runOn (hfilter : query.IsFilter) (hbase : query.baseIndex? = .ok base)
    {store : Store} (hidle : Store.Idle store.searchAnswers base) :
    query.search.runOn Store.backend store =
      (.ok (query.storeResponse {} store base),
        store.noting .search (query.request {} base).render) :=
  respond_runOn {} hfilter hbase hidle

/-- The count of a filter is the number of accepted documents. -/
theorem count_runOn (hfilter : query.IsFilter) (hbase : query.baseIndex? = .ok base)
    {store : Store} (hidle : Store.Idle store.countAnswers base) :
    query.count.runOn Store.backend store =
      (.ok (query.accepted store base).length,
        store.noting .count (query.request .counting base).render) := by
  have hcompile := compile_eq_map_request hfilter.freeText_eq_none .counting
  have hreply := Store.count_of_idle (query.targetIndices_request .counting base) hidle
  have hcount := store.readCount_countAnswer (query.request .counting base).render
  rw [hbase] at hcompile
  rw [found_request] at hcount
  rw [count, hcompile]
  refine Fetch.runOn_bind_of_ok (Fetch.runOn_ofExcept _ _ _) |>.trans ?_
  rw [firstCount, Fetch.runOn_bind_of_ok ((Fetch.runOn_ask _ _ _ _).trans hreply)]
  refine Fetch.runOn_bind_of_ok ((Fetch.runOn_ofExcept _ _ _).trans (by rw [hcount])) |>.trans ?_
  split
  · rfl
  · next h => rw [firstCount, Nat.eq_zero_of_not_pos h]; rfl

/-- A filter with an unknown alias is neither searched nor counted. -/
theorem search_runOn_of_error (hfilter : query.IsFilter) {e : Error}
    (hbase : query.baseIndex? = .error e) (store : Store) :
    query.search.runOn Store.backend store = (.error e, store) := by
  have hcompile := compile_eq_map_request hfilter.freeText_eq_none {}
  rw [hbase] at hcompile
  rw [search, respond, hfilter.callback_eq_none, hcompile]
  exact Fetch.runOn_bind_of_error (Fetch.runOn_ofExcept _ _ _)

end Query

/-! ### Chains of refinements -/

/-- Is the step a condition, a group of alternatives, a choice about deleted records, a window or a
list of further indices? The steps inside a group are free. -/
def Step.isFiltering : Step → Bool
  | .condition _ _ => true
  | .orGroup _ => true
  | .withTrashed => true
  | .onlyTrashed => true
  | .union _ => true
  | .offset _ => true
  | .limit _ => true
  | _ => false

namespace Query

/-- A filtering step keeps a query a filter on the same first index. -/
theorem apply_of_isFiltering {step : Step} (h : step.isFiltering = true) (query : Query) :
    ((step.apply query).criteria.freeText = query.criteria.freeText) ∧
      ((step.apply query).callback = query.callback) ∧
      ((step.apply query).criteria.aliasName = query.criteria.aliasName) := by
  cases step with
  | condition | orGroup | withTrashed | onlyTrashed | union | offset | limit =>
    exact ⟨rfl, rfl, rfl⟩
  | _ => simp [Step.isFiltering] at h

/-- Filtering steps keep a query a filter on the same first index. -/
theorem refine_of_isFiltering {steps : List Step} (h : ∀ step ∈ steps, step.isFiltering = true)
    (query : Query) :
    ((query.refine steps).criteria.freeText = query.criteria.freeText) ∧
      ((query.refine steps).callback = query.callback) ∧
      ((query.refine steps).criteria.aliasName = query.criteria.aliasName) := by
  induction steps generalizing query with
  | nil => exact ⟨rfl, rfl, rfl⟩
  | cons step rest ih =>
    obtain ⟨hstep, hrest⟩ := List.forall_mem_cons.1 h
    obtain ⟨htext, hcallback, halias⟩ := apply_of_isFiltering hstep query
    obtain ⟨htexts, hcallbacks, haliases⟩ := ih hrest (step.apply query)
    exact ⟨htexts.trans htext, hcallbacks.trans hcallback, haliases.trans halias⟩

theorem schema_query_eq (schema : Schema) :
    schema.query.criteria.freeText = none ∧ schema.query.callback = none ∧
      schema.query.criteria.aliasName = none := by
  rw [Schema.query]
  split <;> exact ⟨rfl, rfl, rfl⟩

/-- **A chain of filtering steps finds what its typed conditions say.** The search of a schema's
query after any such chain succeeds on every store whose base index is idle; it reports the number
of accepted documents and shows the window of their list. -/
theorem search_refine_shows_accepted (schema : Schema) (steps : List Step)
    (hsteps : ∀ step ∈ steps, step.isFiltering = true) (store : Store)
    (hidle : Store.Idle store.searchAnswers schema.indexName) :
    ∃ response,
      ((schema.query.refine steps).search.runOn Store.backend store).1 = .ok response ∧
      response.total =
        ((schema.query.refine steps).accepted store schema.indexName).length ∧
      response.body.at? ["hits", "hits"] = some (.array
        (((schema.query.refine steps).shown store schema.indexName).map Found.render)) ∧
      response.hits =
        ((schema.query.refine steps).shown store schema.indexName).map Found.hit := by
  obtain ⟨htext, hcallback, halias⟩ := schema_query_eq schema
  obtain ⟨htexts, hcallbacks, haliases⟩ := refine_of_isFiltering hsteps schema.query
  have hfilter : (schema.query.refine steps).IsFilter :=
    ⟨htexts.trans htext, hcallbacks.trans hcallback⟩
  have hbase : (schema.query.refine steps).baseIndex? = .ok schema.indexName := by
    rw [baseIndex?, haliases.trans halias, schema_refine, Schema.schema_query]
  refine ⟨_, congrArg Prod.fst (search_runOn hfilter hbase hidle), total_storeResponse _ _ _ _,
    ?_, hits_storeResponse _ _ _ _⟩
  rw [storeResponse, Store.listed_searchAnswer, shown_request]

/-- Three people in two indices. -/
def peopleStore : Store :=
  ((({} : Store).put "users_index" "1"
      (.ofFields [("name", .string "ann"), ("age", .ofNat 30)])).put "users_index" "2"
      (.ofFields [("name", .string "bob"), ("age", .ofNat 40)])).put "admins_index" "1"
      (.ofFields [("name", .string "cyd"), ("age", .ofNat 50)])

/-- The second one of the people of either index who are not bob, and are younger than thirty-five
or older than forty-five. -/
def peopleSteps : List Step :=
  [.orGroup [.whereCmp "age" .lt (.ofNat 35), .orGroup [.whereCmp "age" .gt (.ofNat 45)]],
    .whereCmp "name" .notEq (.string "bob"), .union ["admins_index"], .offset 1, .limit 1]

/-- Two people are accepted, and the window shows the one of the further index. -/
theorem search_peopleStore :
    ∃ response,
      (((Schema.ofTable "users").query.refine peopleSteps).search.runOn Store.backend
        peopleStore).1 = .ok response ∧
      response.total = 2 ∧
      response.hits = [⟨some "1", some "admins_index",
        .ofList [("name", .string "cyd"), ("age", .ofNat 50)]⟩] := by
  obtain ⟨response, hrun, htotal, -, hhits⟩ :=
    search_refine_shows_accepted (.ofTable "users") peopleSteps (by simp [peopleSteps,
      Step.whereCmp, Step.isFiltering]) peopleStore rfl
  exact ⟨response, hrun, htotal.trans (by decide +kernel), hhits.trans (by decide +kernel)⟩

end Query

end RecordSearch
