import RecordSearch.Proofs.FirstHit
/-!
# Counts and searches agree

A search, an explained or profiled search and a count are compiled with options of their own and
sent to different ends of the backend. A store finds the same documents for all of them: the options
only change how a request presents its result (`found_directed_congr`), and the store answers each
request from its documents, however many were put before (`Backend.Steady`). So all of them pick the
first request that finds anything (`TriedUpTo.of_steady`), and `count_agrees_with_search` follows,
for every query that is not searched by hand.
-/

namespace RecordSearch

/-- The first positive number of a list; zero if there is none. -/
def firstPositive (counts : List Nat) : Nat :=
  (counts.find? fun count ↦ count > 0).getD 0

/-- Zeros in front do not matter. -/
theorem firstPositive_append {zeros : List Nat} (h : ∀ count ∈ zeros, count = 0)
    (counts : List Nat) : firstPositive (zeros ++ counts) = firstPositive counts := by
  have hnone : zeros.find? (fun count ↦ count > 0) = none :=
    List.find?_eq_none.2 fun count hcount ↦ by simp [h count hcount]
  rw [firstPositive, List.find?_append, hnone, Option.none_or, firstPositive]

/-! ### Steady backends -/

namespace Backend

variable {σ : Type} {backend : Backend σ} {op : Operation} {answer : Json → op.Reply}
  {requests : List Json} {keeps : σ → Prop}

/-- A backend is **steady** on some requests in the states with a property if it answers each of
them in one way, and keeps the property. -/
structure Steady (backend : Backend σ) (op : Operation) (answer : Json → op.Reply)
    (requests : List Json) (keeps : σ → Prop) : Prop where
  /-- A request has one answer. -/
  reply_eq : ∀ request ∈ requests, ∀ state, keeps state →
    (backend.reply op request state).1 = .ok (answer request)
  /-- The property is kept. -/
  keeps_reply : ∀ request ∈ requests, ∀ state, keeps state →
    keeps (backend.reply op request state).2

theorem Steady.keeps_stateAfter (h : backend.Steady op answer requests keeps) {sent : List Json}
    (hsent : ∀ request ∈ sent, request ∈ requests) {state : σ} (hstate : keeps state) :
    keeps (backend.stateAfter op sent state) := by
  induction sent generalizing state with
  | nil => exact hstate
  | cons request rest ih =>
    obtain ⟨hrequest, hrest⟩ := List.forall_mem_cons.1 hsent
    exact ih hrest (h.keeps_reply request hrequest state hstate)

theorem Steady.replies_eq (h : backend.Steady op answer requests keeps) {sent : List Json}
    (hsent : ∀ request ∈ sent, request ∈ requests) {state : σ} (hstate : keeps state) :
    backend.replies op sent state = sent.map fun request ↦ .ok (answer request) := by
  induction sent generalizing state with
  | nil => rfl
  | cons request rest ih =>
    obtain ⟨hrequest, hrest⟩ := List.forall_mem_cons.1 hsent
    rw [replies, h.reply_eq request hrequest state hstate,
      ih hrest (h.keeps_reply request hrequest state hstate), List.map_cons]

/-- On a steady backend no request before the one tried last has hits, and if that has none either
there is none behind it. -/
theorem TriedUpTo.split_of_steady {hits : op.Reply → Except Error Nat} {before : List Json}
    {last : Json} {state : σ} (htried : backend.TriedUpTo op hits requests state before last)
    (h : backend.Steady op answer requests keeps) (hstate : keeps state) {count : Json → Nat}
    (hcount : ∀ request, hits (answer request) = .ok (count request)) :
    ∃ behind, requests = before ++ last :: behind ∧
      (∀ request ∈ before, count request = 0) ∧ (count last = 0 → behind = []) := by
  obtain ⟨behind, hrequests⟩ := htried.isPrefix
  have hsent : ∀ request ∈ before ++ [last], request ∈ requests := fun request hmem ↦
    htried.isPrefix.subset hmem
  refine ⟨behind, by rw [← hrequests, List.append_assoc]; rfl, fun request hmem ↦ ?_,
    fun hlast ↦ ?_⟩
  · obtain ⟨_, ⟨⟩, hzero⟩ := htried.hitless (.ok (answer request)) (by
      rw [h.replies_eq (fun other hother ↦ hsent other (by simp [hother])) hstate]
      exact List.mem_map_of_mem hmem)
    exact Except.ok.inj ((hcount request).symm.trans hzero)
  · have hreply : backend.replyAfter op before last state = .ok (answer last) :=
      h.reply_eq last (hsent last (by simp)) _
        (h.keeps_stateAfter (fun request hmem ↦ hsent request (by simp [hmem])) hstate)
    have hall := htried.exhausted _ hreply ((hcount last).trans (congrArg _ hlast))
    simpa [← hrequests] using hall

/-- On a steady backend the request tried last is answered, with the first positive number of
hits. -/
theorem TriedUpTo.of_steady {hits : op.Reply → Except Error Nat} {before : List Json} {last : Json}
    {state : σ} (htried : backend.TriedUpTo op hits requests state before last)
    (h : backend.Steady op answer requests keeps) (hstate : keeps state) {count : Json → Nat}
    (hcount : ∀ request, hits (answer request) = .ok (count request)) :
    backend.replyAfter op before last state = .ok (answer last) ∧
      keeps (backend.stateAfter op (before ++ [last]) state) ∧
      count last = firstPositive (requests.map count) := by
  have hsent : ∀ request ∈ before ++ [last], request ∈ requests := fun request hmem ↦
    htried.isPrefix.subset hmem
  have hreply : backend.replyAfter op before last state = .ok (answer last) :=
    h.reply_eq last (hsent last (by simp)) _
      (h.keeps_stateAfter (fun request hmem ↦ hsent request (by simp [hmem])) hstate)
  obtain ⟨behind, hrequests, hbefore, hbehind⟩ := htried.split_of_steady h hstate hcount
  refine ⟨hreply, h.keeps_stateAfter hsent hstate, ?_⟩
  have hzeros : ∀ number ∈ before.map count, number = 0 := by
    intro number hnumber
    obtain ⟨request, hmem, rfl⟩ := List.mem_map.1 hnumber
    exact hbefore request hmem
  rw [hrequests, List.map_append, firstPositive_append hzeros]
  by_cases hlast : count last = 0
  · -- The last answer has no hits either, so there is no request behind it.
    simp [hbehind hlast, firstPositive, hlast]
  · simp [firstPositive, Nat.pos_of_ne_zero hlast]

end Backend

/-! ### Options do not change what is found -/

namespace Query

variable (query : Query) (store : Store) (base : String)

/-- The queries of the requests before the criteria are added are told by those of the rules'
requests. -/
theorem map_query_baseRequests_congr {query other : Query} {options options' : Options}
    (h : (query.ruleRequests options).map SearchRequest.query =
      (other.ruleRequests options').map SearchRequest.query) :
    (query.baseRequests options).map SearchRequest.query =
      (other.baseRequests options').map SearchRequest.query := by
  rw [baseRequests, baseRequests]
  cases hone : query.ruleRequests options with
  | nil =>
    rw [hone, List.map_nil, eq_comm, List.map_eq_nil_iff] at h
    rw [h]
    simp only [SearchRequest.setMatchAll_eq, List.map_cons, List.map_nil]
  | cons request rest =>
    cases htwo : other.ruleRequests options' with
    | nil => rw [hone, htwo] at h; exact absurd h (List.cons_ne_nil _ _)
    | cons _ _ => rwa [hone, htwo] at h

/-- The queries of the requests before the criteria are added do not depend on the options. -/
theorem map_query_baseRequests (options other : Options) :
    (query.baseRequests options).map SearchRequest.query =
      (query.baseRequests other).map SearchRequest.query := by
  refine map_query_baseRequests_congr ?_
  rw [ruleRequests, ruleRequests, apply_ite (List.map SearchRequest.query),
    apply_ite (List.map SearchRequest.query), List.map_filterMap, List.map_filterMap]
  simp only [Rule.query_request?_eq]

/-- What a directed request finds: the documents of the searched indices that the filter in its
query accepts, after the conditions are merged into it. -/
theorem found_directed (options : Options) (request : SearchRequest) :
    store.found (query.directed options base request).render =
      (base :: query.criteria.unions).flatMap (store.foundIn
        ((request.withConditions query.criteria.conditions).query.bind (·.get? "filter"))) := by
  have hquery : (query.directed options base request).query =
      (request.withConditions query.criteria.conditions).query :=
    request.query_shaped query.criteria options
  rw [Store.found, targetIndices_directed, SearchRequest.filter_render, hquery]

/-- What a directed request finds depends on its query before the criteria are added. -/
theorem found_directed_congr {request other : SearchRequest} (h : request.query = other.query)
    (options options' : Options) :
    store.found (query.directed options base request).render =
      store.found (query.directed options' base other).render := by
  rw [found_directed, found_directed, SearchRequest.query_withConditions_congr h]

/-- The rendered requests of a query, if its first index is the given one. -/
def payloads (options : Options) : List Json :=
  (query.baseRequests options).map fun request ↦ (query.directed options base request).render

/-- The numbers of documents that the requests of a query find, told by their queries before the
criteria are added. -/
def foundCounts : List Nat :=
  ((query.baseRequests {}).map SearchRequest.query).map fun fragment ↦
    (store.found (query.directed {} base
      { envelope := .forType query.schema, query := fragment }).render).length

/-- With any options the requests of a query find the same documents. -/
theorem map_found_payloads (options : Options) :
    (query.payloads base options).map store.found =
      ((query.baseRequests {}).map SearchRequest.query).map fun fragment ↦
        store.found (query.directed {} base
          { envelope := .forType query.schema, query := fragment }).render := by
  rw [payloads, query.map_query_baseRequests {} options, List.map_map, List.map_map]
  refine List.map_congr_left fun request _ ↦ ?_
  have hquery : request.query =
      SearchRequest.query { envelope := .forType query.schema, query := request.query } := rfl
  exact query.found_directed_congr store base hquery options {}

/-- With any options the requests of a query find the same numbers of documents. -/
theorem map_length_found_payloads (options : Options) :
    (query.payloads base options).map (fun payload ↦ (store.found payload).length) =
      query.foundCounts store base := by
  have hlengths := congrArg (List.map List.length) (query.map_found_payloads store base options)
  rw [List.map_map, List.map_map] at hlengths
  exact hlengths

theorem targetIndices_of_mem_payloads (options : Options) {payload : Json}
    (h : payload ∈ query.payloads base options) :
    targetIndices payload = base :: query.criteria.unions := by
  obtain ⟨request, -, rfl⟩ := List.mem_map.1 h
  exact query.targetIndices_directed options base request

theorem compile_eq_ok (options : Options) (hbase : query.baseIndex? = .ok base) :
    ∃ requests, query.compile options = .ok requests ∧
      requests.map SearchRequest.render = query.payloads base options := by
  refine ⟨(query.baseRequests options).map (query.directed options base), ?_, ?_⟩
  · rw [compile_eq_map, hbase]
    rfl
  · rw [List.map_map]
    rfl

end Query

/-! ### The store -/

/-- The states of a store that differ only in the requests written down. -/
def Store.Logs (store state : Store) : Prop :=
  ∃ requests, state = { store with requests := requests }

/-- A store whose first target is idle is steady on searches. -/
theorem Store.steady_search {store : Store} {payloads : List Json} {index : String}
    {rest : List String} (hidle : Store.Idle store.searchAnswers index)
    (htarget : ∀ payload ∈ payloads, targetIndices payload = index :: rest) :
    Store.backend.Steady .search store.searchAnswer payloads store.Logs := by
  have hreply : ∀ payload ∈ payloads, ∀ state, store.Logs state →
      Store.backend.reply .search payload state =
        (.ok (store.searchAnswer payload), state.noting .search payload) := by
    rintro payload hpayload _ ⟨requests, rfl⟩
    exact Store.search_of_idle (htarget payload hpayload) hidle
  refine ⟨fun payload hpayload state hstate ↦ by rw [hreply payload hpayload state hstate], ?_⟩
  rintro payload hpayload _ ⟨requests, rfl⟩
  rw [hreply payload hpayload _ ⟨requests, rfl⟩]
  exact ⟨_, rfl⟩

/-- A store whose first target is idle is steady on counts. -/
theorem Store.steady_count {store : Store} {payloads : List Json} {index : String}
    {rest : List String} (hidle : Store.Idle store.countAnswers index)
    (htarget : ∀ payload ∈ payloads, targetIndices payload = index :: rest) :
    Store.backend.Steady .count store.countAnswer payloads store.Logs := by
  have hreply : ∀ payload ∈ payloads, ∀ state, store.Logs state →
      Store.backend.reply .count payload state =
        (.ok (store.countAnswer payload), state.noting .count payload) := by
    rintro payload hpayload _ ⟨requests, rfl⟩
    exact Store.count_of_idle (htarget payload hpayload) hidle
  refine ⟨fun payload hpayload state hstate ↦ by rw [hreply payload hpayload state hstate], ?_⟩
  rintro payload hpayload _ ⟨requests, rfl⟩
  rw [hreply payload hpayload _ ⟨requests, rfl⟩]
  exact ⟨_, rfl⟩

namespace Query

variable {query : Query} {store state : Store} {base : String}

/-- A search with any options reports the first positive number of documents found. -/
theorem respond_total (hcallback : query.callback = none) (options : Options)
    (hbase : query.baseIndex? = .ok base) (hidle : Store.Idle store.searchAnswers base)
    (hstate : store.Logs state) :
    ((query.respond options).runOn Store.backend state).1.map Response.total =
        .ok (firstPositive (query.foundCounts store base)) ∧
      store.Logs ((query.respond options).runOn Store.backend state).2 := by
  obtain ⟨requests, hcompile, hpayloads⟩ := query.compile_eq_ok base options hbase
  obtain ⟨before, last, htried, hrun⟩ :=
    respond_runOn_tried Store.backend state hcallback hcompile
  rw [hpayloads] at htried
  have hsteady := Store.steady_search hidle fun payload hpayload ↦
    query.targetIndices_of_mem_payloads base options hpayload
  obtain ⟨hreply, hlogs, hlast⟩ := htried.of_steady hsteady hstate fun payload ↦
    congrArg Except.ok (store.totalHits_searchAnswer payload)
  rw [hrun, hreply, ← query.map_length_found_payloads store base options, ← hlast]
  exact ⟨congrArg Except.ok (store.totalHits_searchAnswer last), hlogs⟩

/-- A count is the first positive number of documents found. -/
theorem count_total (hbase : query.baseIndex? = .ok base)
    (hidle : Store.Idle store.countAnswers base) (hstate : store.Logs state) :
    (query.count.runOn Store.backend state).1 =
        .ok (firstPositive (query.foundCounts store base)) ∧
      store.Logs (query.count.runOn Store.backend state).2 := by
  obtain ⟨requests, hcompile, hpayloads⟩ := query.compile_eq_ok base .counting hbase
  obtain ⟨before, last, htried, hrun⟩ := count_runOn_tried Store.backend state hcompile
  rw [hpayloads] at htried
  have hsteady := Store.steady_count hidle fun payload hpayload ↦
    query.targetIndices_of_mem_payloads base .counting hpayload
  obtain ⟨hreply, hlogs, hlast⟩ := htried.of_steady hsteady hstate store.readCount_countAnswer
  rw [hrun, hreply, ← query.map_length_found_payloads store base .counting, ← hlast]
  exact ⟨store.readCount_countAnswer last, hlogs⟩

/-- The number of documents that the first request of a query finds that finds any; a query with an
unknown alias has none. -/
def firstTotal (query : Query) (store : Store) : Except Error Nat :=
  query.baseIndex?.map fun base ↦ firstPositive (query.foundCounts store base)

/-- **Counts and searches agree.** On a store without waiting answers, a count of a query that is
not searched by hand, and its search, explained or profiled or not, come to the same: they fail with
one error, or the count is the total of each response. None of them changes the store but for the
requests written down, so they may be run one after the other. -/
theorem count_agrees_with_search (query : Query) (hcallback : query.callback = none) (store : Store)
    (hsearches : ∀ index, Store.Idle store.searchAnswers index)
    (hcounts : ∀ index, Store.Idle store.countAnswers index) (state : Store)
    (hstate : store.Logs state) :
    ((query.count.runOn Store.backend state).1 = query.firstTotal store ∧
      store.Logs (query.count.runOn Store.backend state).2) ∧
    ∀ read ∈ [query.search, query.explain, query.profile],
      (read.runOn Store.backend state).1.map Response.total = query.firstTotal store ∧
        store.Logs (read.runOn Store.backend state).2 := by
  have hread : ∀ options, ((query.respond options).runOn Store.backend state).1.map
      Response.total = query.firstTotal store ∧
        store.Logs ((query.respond options).runOn Store.backend state).2 := by
    intro options
    rw [firstTotal]
    cases hbase : query.baseIndex? with
    | ok base => exact respond_total hcallback options hbase (hsearches base) hstate
    | error e =>
      have hcompile : query.compile options = .error e := by rw [compile_eq_map, hbase]; rfl
      rw [respond_runOn_of_compile_error Store.backend state hcallback hcompile]
      exact ⟨rfl, hstate⟩
  constructor
  · rw [firstTotal]
    cases hbase : query.baseIndex? with
    | ok base => exact count_total hbase (hcounts base) hstate
    | error e =>
      have hcompile : query.compile .counting = .error e := by rw [compile_eq_map, hbase]; rfl
      rw [count_runOn_of_compile_error Store.backend state hcompile]
      exact ⟨rfl, hstate⟩
  · intro read hmem
    simp only [List.mem_cons, List.not_mem_nil, or_false] at hmem
    rcases hmem with rfl | rfl | rfl
    · exact hread {}
    · exact hread .explaining
    · exact hread .profiling

/-- People whose nick, or else whose name, is a text, looked up in two indices and shown one at a
time. -/
def peopleCalled (text : String) : Query :=
  let rule (field : String) : Rule :=
    .callable fun criteria ↦
      .single "filter" (.single "term" (.single field (.string (criteria.freeText.getD ""))))
  ((Schema.ofTable "users").search text).refine
    [.rule (rule "nick"), .rule (rule "name"), .union ["admins_index"], .limit 1]

/-- Nobody has the nick, and one user and one admin have the name: the count is two, and so are the
totals of the search, explained and profiled or not. -/
theorem count_agrees_with_search_peopleCalled :
    let store := peopleStore.put "admins_index" "2" (.single "name" (.string "ann"))
    (peopleCalled "ann").callback = none ∧
      ((peopleCalled "ann").count.runOn Store.backend store).1 = .ok 2 ∧
      ∀ read ∈ [(peopleCalled "ann").search, (peopleCalled "ann").explain,
          (peopleCalled "ann").profile],
        (read.runOn Store.backend store).1.map Response.total = .ok 2 := by
  intro store
  obtain ⟨hcount, hread⟩ := count_agrees_with_search (peopleCalled "ann") rfl store
    (fun _ ↦ rfl) (fun _ ↦ rfl) store ⟨store.requests, rfl⟩
  have htotal : (peopleCalled "ann").firstTotal store = .ok 2 := by decide +kernel
  rw [htotal] at hcount hread
  exact ⟨rfl, hcount.1, fun read hmem ↦ (hread read hmem).1⟩

end Query

end RecordSearch
