import RecordSearch.Proofs.Parameters
import RecordSearch.Proofs.Request
import RecordSearch.Proofs.Search
/-!
# Where a request goes

A request names its indices once, but they are read twice: the store takes the list of names, and a
route begins with the names joined by commas. The two readings agree on every JSON value
(`Route.indices_eq_ok_iff`), so that whatever route a request has, it begins with what the store
reads (`Route.beginsWithTargets_of_ofRequest`).

`Query.compiled_routes_agree` adds the writing side: what a query compiles to is read, here and
there, as the first index and the further indices of the query.
-/

namespace RecordSearch

theorem Text.join_singleton (sep : Char) (text : String) : join sep [text] = text :=
  String.ofList_toList

namespace Route

variable {request : Json}

/-! ### Reading the indices -/

/-- A route can name the indices of a request if the store reads any, and it names those. -/
theorem indices_eq_ok_iff {names : String} :
    indices request = .ok names ↔
      targetIndices request ≠ [] ∧ names = Text.join ',' (targetIndices request) := by
  rw [indices]
  split
  · next name hindex =>
    have hread : targetIndices request = [name] := by rw [targetIndices, hindex]
    rw [hread, Text.join_singleton]
    exact ⟨fun h ↦ ⟨List.cons_ne_nil _ _, (Except.ok.inj h).symm⟩, fun h ↦ congrArg _ h.2.symm⟩
  · next items hindex =>
    have hread : targetIndices request = items.filterMap Json.string? := by
      rw [targetIndices, hindex]
    rw [hread]
    split
    · next hnames => exact iff_of_false (fun h ↦ by cases h) fun h ↦ h.1 hnames
    · next hnames =>
      exact ⟨fun h ↦ ⟨hnames, (Except.ok.inj h).symm⟩, fun h ↦ congrArg _ h.2.symm⟩
  · next hstring harray =>
    have hread : targetIndices request = [] := by
      rw [targetIndices]
      split
      · next name hindex => exact absurd hindex (hstring name)
      · next items hindex => exact absurd hindex (harray items)
      · rfl
    exact iff_of_false (fun h ↦ by cases h) fun h ↦ h.1 hread

/-- A path **begins with the targets** of a request if the store reads an index in it and the names
that it reads, joined by commas, are the first piece of the path. -/
def BeginsWithTargets (request : Json) (path : String) : Prop :=
  targetIndices request ≠ [] ∧
    ∃ rest, path = Text.join '/' (Text.join ',' (targetIndices request) :: rest)

theorem beginsWithTargets_join {names : String} (h : indices request = .ok names)
    (rest : List String) : BeginsWithTargets request (Text.join '/' (names :: rest)) := by
  obtain ⟨hread, rfl⟩ := indices_eq_ok_iff.1 h
  exact ⟨hread, rest, rfl⟩

theorem beginsWithTargets_of_indices {names : String} (h : indices request = .ok names) :
    BeginsWithTargets request names :=
  Text.join_singleton '/' names ▸ beginsWithTargets_join h []

theorem beginsWithTargets_of_endpointPath {endpoint path : String}
    (h : endpointPath request endpoint = .ok path) : BeginsWithTargets request path := by
  obtain ⟨names, hnames, hpath⟩ := bind_eq_ok_iff.1 h
  split at hpath
  · obtain rfl := Except.ok.inj hpath
    split
    · exact beginsWithTargets_join hnames _
    · exact beginsWithTargets_join hnames _
  · obtain rfl := Except.ok.inj hpath
    exact beginsWithTargets_join hnames _

theorem beginsWithTargets_of_documentPath {path : String}
    (h : documentPath request = .ok path) : BeginsWithTargets request path := by
  obtain ⟨names, hnames, h⟩ := bind_eq_ok_iff.1 h
  obtain ⟨docType, -, h⟩ := bind_eq_ok_iff.1 h
  obtain ⟨id, -, hpath⟩ := bind_eq_ok_iff.1 h
  obtain rfl := Except.ok.inj hpath
  exact beginsWithTargets_join hnames _

theorem beginsWithTargets_of_mappingPath {path : String}
    (h : mappingPath request = .ok path) : BeginsWithTargets request path := by
  obtain ⟨docType, -, h⟩ := bind_eq_ok_iff.1 h
  obtain ⟨names, hnames, hpath⟩ := bind_eq_ok_iff.1 h
  obtain rfl := Except.ok.inj hpath
  exact beginsWithTargets_join hnames _

/-- The path of a request begins with its targets, whatever the operation is. -/
theorem beginsWithTargets_of_ofRequest {op : Operation} {route : Route}
    (h : ofRequest op request = .ok route) : BeginsWithTargets request route.path := by
  obtain ⟨⟨method, path, body⟩, hparts, hroute⟩ := bind_eq_ok_iff.1 h
  obtain rfl := Except.ok.inj hroute
  show BeginsWithTargets request path
  -- Every operation makes one kind of path and puts a method and a body beside it.
  have hpath : ∀ {made : Except Error String} {method' : Method} {body' : Option Json},
      (do return (method', ← made, body')) = Except.ok (method, path, body) → made = .ok path := by
    intro made method' body' heq
    obtain ⟨path', hmade, heq⟩ := bind_eq_ok_iff.1 heq
    obtain ⟨-, hrest⟩ := Prod.mk.inj (Except.ok.inj heq)
    rw [hmade, (Prod.mk.inj hrest).1]
  cases op with
  | search | count => exact beginsWithTargets_of_endpointPath (hpath hparts)
  | index | delete => exact beginsWithTargets_of_documentPath (hpath hparts)
  | indexExists | createIndex => exact beginsWithTargets_of_indices (hpath hparts)
  | putMapping => exact beginsWithTargets_of_mappingPath (hpath hparts)

end Route

/-! ### Compiled requests -/

namespace Query

section Directed

variable (query : Query) (options : Options) (base : String) (request : SearchRequest)

/-- The path of an endpoint for what a query is about, if its first index is the given one. -/
def endpoint (name : String) : String :=
  Text.join '/' [Text.join ',' (base :: query.criteria.unions), query.schema.typeName, name]

theorem docType_envelope : (query.envelope base).docType = some query.schema.typeName := by
  rw [envelope, Envelope.addUnions]
  split <;> rfl

/-- A directed request has no parameters, so none is sent. -/
theorem queryParams_directed :
    Route.queryParams (query.directed options base request).render = [] := by
  have hparams := query.params_envelope base
  rw [(Envelope.RequestOver.search (query.directed options base request) rfl).queryParams_eq
    fun _ _ ↦ hparams ▸ Dict.get?_empty _, Envelope.sentParams]
  show Route.texts (((query.envelope base).params.erase "body").erase "client") = []
  rw [hparams]
  rfl

/-- The path of a directed request is that of the endpoint for what the query is about. -/
theorem endpointPath_directed (htype : query.schema.typeName ≠ "") (name : String) :
    Route.endpointPath (query.directed options base request).render name =
      .ok (query.endpoint base name) := by
  have hindices : Route.indices (query.directed options base request).render =
      .ok (Text.join ',' (base :: query.criteria.unions)) := by
    rw [Route.indices_eq_ok_iff, targetIndices_directed]
    exact ⟨List.cons_ne_nil _ _, rfl⟩
  have htyped : (query.directed options base request).render.field? "type" =
      some (.string query.schema.typeName) := by
    rw [SearchRequest.render, Json.field?_ofObject, Dict.get?_insert_of_ne _ _ (by decide)]
    show (query.envelope base).toObject.get? "type" = _
    rw [Envelope.get?_toObject_of_isProtected rfl (by rw [params_envelope, Dict.get?_empty]),
      Envelope.get?_identity_type, docType_envelope]
    rfl
  have hnonempty : ¬query.schema.typeName.isEmpty = true :=
    fun h ↦ htype (String.isEmpty_iff.1 h)
  rw [Route.endpointPath, hindices, htyped]
  exact congrArg Except.ok (if_neg hnonempty)

/-- A directed search is posted to the search endpoint with its whole body. -/
theorem ofRequest_search_directed (htype : query.schema.typeName ≠ "") :
    let asked := query.directed options base request
    Route.ofRequest .search asked.render =
      .ok { method := .post, path := query.endpoint base "_search", params := []
            body := some (.ofObject asked.body) } := by
  intro asked
  have hbody : asked.render.field? "body" = some (.ofObject asked.body) := by
    rw [SearchRequest.render, Json.field?_ofObject, Dict.get?_insert_self]
  rw [Route.ofRequest, Route.parts, query.endpointPath_directed options base request htype,
    queryParams_directed, hbody]
  rfl

/-- A directed count is posted to the count endpoint with its query alone. -/
theorem ofRequest_count_directed (htype : query.schema.typeName ≠ "") :
    let asked := query.directed options base request
    Route.ofRequest .count asked.render =
      .ok { method := .post, path := query.endpoint base "_count", params := []
            body := asked.query.map fun clauses ↦
              .single "query" (.single "bool" (.ofObject clauses)) } := by
  intro asked
  have hbody : Route.countBody asked.render = asked.query.map fun clauses ↦
      .single "query" (.single "bool" (.ofObject clauses)) := by
    rw [Route.countBody, SearchRequest.query_render, Option.map_map]
    rfl
  rw [Route.ofRequest, Route.parts, query.endpointPath_directed options base request htype,
    queryParams_directed, hbody]
  rfl

end Directed

/-- **Store and routes read targets alike.** A route can name the indices of a request if and only
if the store reads any, and then it joins the names that the store reads; every route of a request
begins with them. What a query compiles to is read as the first index, which an alias may stand for,
and the further indices of the query: the store searches these in order, and the routes of a search
and of a count have no query and the path of their endpoint below these names and the type. -/
theorem compiled_routes_agree :
    (∀ (request : Json) (names : String), Route.indices request = .ok names ↔
      targetIndices request ≠ [] ∧ names = Text.join ',' (targetIndices request)) ∧
    (∀ (op : Operation) (request : Json) (route : Route), Route.ofRequest op request = .ok route →
      Route.BeginsWithTargets request route.path) ∧
    ∀ (query : Query) (options : Options) (requests : List SearchRequest),
      query.schema.typeName ≠ "" → query.compile options = .ok requests →
      ∃ base, query.baseIndex? = .ok base ∧ requests ≠ [] ∧ ∀ request ∈ requests,
        targetIndices request.render = base :: query.criteria.unions ∧
        Route.ofRequest .search request.render =
          .ok { method := .post, path := query.endpoint base "_search", params := []
                body := some (.ofObject request.body) } ∧
        Route.ofRequest .count request.render =
          .ok { method := .post, path := query.endpoint base "_count", params := []
                body := request.query.map fun clauses ↦
                  .single "query" (.single "bool" (.ofObject clauses)) } := by
  refine ⟨fun _ _ ↦ Route.indices_eq_ok_iff, fun _ _ _ ↦ Route.beginsWithTargets_of_ofRequest,
    fun query options requests htype hcompile ↦ ?_⟩
  obtain ⟨base, hbase, rfl⟩ := exists_base_of_compile hcompile
  refine ⟨base, hbase, compile_ne_nil hcompile, List.forall_mem_map.2 fun request _ ↦ ?_⟩
  exact ⟨query.targetIndices_directed options base request,
    query.ofRequest_search_directed options base request htype,
    query.ofRequest_count_directed options base request htype⟩

/-- The users of a past year and the admins, by a free text. -/
def pastUsersCalled (text : String) : Query :=
  ({ Schema.ofTable "users" with aliases := .single "past" "users_2019" }.search text).refine
    [.useAlias "past", .union ["admins_index"]]

/-- Past users are searched and counted in what the alias stands for and in the further index. -/
theorem compiled_routes_agree_pastUsersCalled :
    ∃ requests, (pastUsersCalled "ann").compile {} = .ok requests ∧ requests ≠ [] ∧
      ∀ request ∈ requests,
        targetIndices request.render = ["users_2019", "admins_index"] ∧
        (Route.ofRequest .search request.render).map (fun route ↦ (route.path, route.params)) =
          .ok ("users_2019,admins_index/users/_search", []) ∧
        (Route.ofRequest .count request.render).map (fun route ↦ (route.path, route.params)) =
          .ok ("users_2019,admins_index/users/_count", []) := by
  have hbase : (pastUsersCalled "ann").baseIndex? = .ok "users_2019" := by decide +kernel
  have hcompile := (pastUsersCalled "ann").compile_eq_map {}
  rw [hbase] at hcompile
  obtain ⟨base, hfound, hne, hall⟩ :=
    compiled_routes_agree.2.2 (pastUsersCalled "ann") {} _ (by decide +kernel) hcompile
  obtain rfl : "users_2019" = base := Except.ok.inj (hbase.symm.trans hfound)
  refine ⟨_, hcompile, hne, fun request hrequest ↦ ?_⟩
  obtain ⟨htargets, hsearch, hcount⟩ := hall request hrequest
  have hpath : ∀ name ∈ ["_search", "_count"], (pastUsersCalled "ann").endpoint "users_2019" name =
      "users_2019,admins_index/users/" ++ name := by decide +kernel
  rw [hsearch, hcount, hpath _ (.head _), hpath _ (.tail _ (.head _))]
  exact ⟨htargets, rfl, rfl⟩

end Query

end RecordSearch
