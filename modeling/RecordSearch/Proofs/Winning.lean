import RecordSearch.Proofs.Reading
import RecordSearch.Proofs.Totals
/-!
# The documents that win

The requests of a query are tried up to the first one that finds anything. The documents that it
finds are the **winners** of the query: a search of a store, with any options, reports how many
there are and shows those in the window of the query (`respond_runOn_winners`).

Where a search starts and how much it shows is no part of what it looks for. So as long as the rules
do not look at the window either (`Rule.IgnoresPaging`), a query has the same winners in all its
windows (`winners_paged`).
-/

namespace RecordSearch

/-- The first list with members; the empty list if there is none. -/
def firstNonempty {α : Type} (lists : List (List α)) : List α :=
  (lists.find? fun list ↦ !list.isEmpty).getD []

/-- Empty lists in front do not matter. -/
theorem firstNonempty_append {α : Type} {empties : List (List α)} (h : ∀ list ∈ empties, list = [])
    (lists : List (List α)) : firstNonempty (empties ++ lists) = firstNonempty lists := by
  have hnone : empties.find? (fun list ↦ !list.isEmpty) = none :=
    List.find?_eq_none.2 fun list hlist ↦ by simp [h list hlist]
  rw [firstNonempty, List.find?_append, hnone, Option.none_or, firstNonempty]

/-- The first list that is not empty is one of the lists, unless they are all empty. -/
theorem firstNonempty_eq_nil_or_mem {α : Type} (lists : List (List α)) :
    firstNonempty lists = [] ∨ firstNonempty lists ∈ lists := by
  rw [firstNonempty]
  cases hfind : lists.find? fun list ↦ !list.isEmpty with
  | none => exact .inl rfl
  | some list => exact .inr (List.mem_of_find?_eq_some hfind)

/-- Of requests that are tried up to one of them, that one finds the first documents found. -/
theorem Backend.TriedUpTo.found_last {store state : Store} {payloads before : List Json}
    {last : Json}
    (htried : Store.backend.TriedUpTo .search searchHits payloads state before last)
    (hsteady : Store.backend.Steady .search store.searchAnswer payloads store.Logs)
    (hstate : store.Logs state) :
    store.found last = firstNonempty (payloads.map store.found) := by
  obtain ⟨behind, hpayloads, hbefore, hbehind⟩ :=
    htried.split_of_steady hsteady hstate fun payload ↦
      congrArg Except.ok (store.totalHits_searchAnswer payload)
  have hempty : ∀ list ∈ before.map store.found, list = [] := by
    intro list hlist
    obtain ⟨payload, hpayload, rfl⟩ := List.mem_map.1 hlist
    exact List.length_eq_zero_iff.1 (hbefore payload hpayload)
  rw [hpayloads, List.map_append, firstNonempty_append hempty]
  by_cases hlast : store.found last = []
  · -- The last request finds nothing either, so there is no request behind it.
    rw [hbehind (List.length_eq_zero_iff.2 hlast), hlast]
    simp [firstNonempty, hlast]
  · simp [firstNonempty, List.isEmpty_eq_false_iff.2 hlast]

namespace Query

variable (query : Query) (store : Store) (base : String)

/-! ### The window of a request -/

/-- The requests of a query show its window of what they find. -/
theorem shown_of_mem_payloads {options : Options} {payload : Json}
    (h : payload ∈ query.payloads base options) :
    store.shown payload = ((store.found payload).drop (query.criteria.offset.getD 0)).take
      (query.criteria.limit.getD 10) := by
  obtain ⟨request, hrequest, rfl⟩ := List.mem_map.1 h
  have hoffset : (query.directed options base request).offset = query.criteria.offset := by
    rw [directed, SearchRequest.shaped_eq, query.eq_of_mem_baseRequests hrequest]
    exact Option.or_none
  have hsize : (query.directed options base request).size = query.criteria.limit := by
    rw [directed, SearchRequest.shaped_eq, query.eq_of_mem_baseRequests hrequest]
    exact Option.or_none
  rw [Store.shown, SearchRequest.windowStart_render, SearchRequest.windowSize_render, hoffset,
    hsize]

/-! ### Winners -/

/-- The documents found by the first request of a query that finds any. -/
def winners : List Found :=
  firstNonempty ((query.payloads base {}).map store.found)

/-- The winners do not depend on the options of a search. -/
theorem firstNonempty_found_payloads (options : Options) :
    firstNonempty ((query.payloads base options).map store.found) = query.winners store base := by
  rw [winners, map_found_payloads, ← query.map_found_payloads]

variable {query store base} in
/-- The winners are found by one of the requests. -/
theorem exists_payload_of_mem_winners {found : Found} (h : found ∈ query.winners store base) :
    ∃ payload ∈ query.payloads base {}, found ∈ store.found payload := by
  rw [winners] at h
  rcases firstNonempty_eq_nil_or_mem ((query.payloads base {}).map store.found) with hnil | hmem
  · rw [hnil] at h
    exact absurd h List.not_mem_nil
  · obtain ⟨payload, hpayload, heq⟩ := List.mem_map.1 hmem
    exact ⟨payload, hpayload, heq ▸ h⟩

/-- What is found are documents of the store. -/
theorem document?_of_mem_winners {found : Found} (h : found ∈ query.winners store base) :
    store.document? found.index found.id = some found.source := by
  obtain ⟨payload, -, hfound⟩ := exists_payload_of_mem_winners h
  obtain ⟨index, -, hindex⟩ := List.mem_flatMap.1 hfound
  rw [Store.foundIn_eq_filter] at hindex
  obtain ⟨rfl, hdocument⟩ := Store.mem_documentsOf.1 (List.mem_filter.1 hindex).1
  exact hdocument

variable {query store base} {state : Store}

/-- The winners, told by the compiled requests. -/
theorem winners_of_compile {requests : List SearchRequest}
    (hcompile : query.compile {} = .ok requests) (hbase : query.baseIndex? = .ok base) :
    query.winners store base =
      firstNonempty (requests.map fun request ↦ store.found request.render) := by
  obtain ⟨others, hothers, hpayloads⟩ := query.compile_eq_ok base {} hbase
  obtain rfl : others = requests := Except.ok.inj (hothers.symm.trans hcompile)
  rw [winners, ← hpayloads, List.map_map]
  rfl

/-- **A search shows its window of the winners.** It succeeds with any options, and only writes its
requests down. -/
theorem respond_runOn_winners (hcallback : query.callback = none) (options : Options)
    (hbase : query.baseIndex? = .ok base) (hidle : Store.Idle store.searchAnswers base)
    (hstate : store.Logs state) :
    ∃ response after,
      (query.respond options).runOn Store.backend state = (.ok response, after) ∧
        store.Logs after ∧ response.total = (query.winners store base).length ∧
        response.hits = (((query.winners store base).drop (query.criteria.offset.getD 0)).take
          (query.criteria.limit.getD 10)).map Found.hit := by
  obtain ⟨requests, hcompile, hpayloads⟩ := query.compile_eq_ok base options hbase
  obtain ⟨before, last, htried, hrun⟩ :=
    respond_runOn_tried Store.backend state hcallback hcompile
  rw [hpayloads] at htried
  have hsteady := Store.steady_search hidle fun payload hpayload ↦
    query.targetIndices_of_mem_payloads base options hpayload
  obtain ⟨hreply, hlogs, -⟩ := htried.of_steady hsteady hstate fun payload ↦
    congrArg Except.ok (store.totalHits_searchAnswer payload)
  have hfound : store.found last = query.winners store base :=
    (htried.found_last hsteady hstate).trans
      (query.firstNonempty_found_payloads store base options)
  have hmem : last ∈ query.payloads base options := htried.isPrefix.subset (by simp)
  refine ⟨⟨store.searchAnswer last, some last⟩, _, by rw [hrun, hreply]; rfl, hlogs, ?_, ?_⟩
  · rw [Response.total, store.totalHits_searchAnswer, hfound]
  · rw [store.hits_searchAnswer, query.shown_of_mem_payloads store base hmem, hfound]

end Query

/-! ### Windows -/

/-- The criteria with another window. -/
def Criteria.paged (criteria : Criteria) (offset limit : Option Nat) : Criteria :=
  { criteria with offset := offset, limit := limit }

/-- The rule does not look at the window: neither whether it applies nor its fragment depends on
it. -/
def Rule.IgnoresPaging : Rule → Prop
  | .callable fragment =>
    ∀ criteria offset limit, fragment (criteria.paged offset limit) = fragment criteria
  | .conditional applies fragment _ =>
    ∀ criteria offset limit, applies (criteria.paged offset limit) = applies criteria ∧
      fragment (criteria.paged offset limit) = fragment criteria

/-- The query of such a rule's request does not depend on the window. -/
theorem Rule.IgnoresPaging.query_request? {rule : Rule} (h : rule.IgnoresPaging)
    (criteria : Criteria) (offset limit : Option Nat) (options : Options) (envelope : Envelope) :
    (rule.request? (criteria.paged offset limit) options envelope).map SearchRequest.query =
      (rule.request? criteria options envelope).map SearchRequest.query := by
  rw [query_request?_eq, query_request?_eq]
  cases rule with
  | callable fragment => rw [fragment?, fragment?, h criteria offset limit]
  | conditional applies fragment highlight =>
    obtain ⟨happlies, hfragment⟩ := h criteria offset limit
    rw [fragment?, fragment?, happlies, hfragment]

namespace Query

/-- The query with another window. -/
def paged (query : Query) (offset limit : Option Nat) : Query :=
  { query with criteria := query.criteria.paged offset limit }

variable {query : Query}

/-- The winners do not depend on the window if the rules do not look at it. -/
theorem winners_paged (hrules : ∀ rule ∈ query.effectiveRules, rule.IgnoresPaging)
    (offset limit : Option Nat) (store : Store) (base : String) :
    (query.paged offset limit).winners store base = query.winners store base := by
  have hrequests : ((query.paged offset limit).ruleRequests {}).map SearchRequest.query =
      (query.ruleRequests {}).map SearchRequest.query := by
    have heffective : (query.paged offset limit).effectiveRules = query.effectiveRules := rfl
    have htext : (query.paged offset limit).criteria.freeText = query.criteria.freeText := rfl
    rw [ruleRequests, ruleRequests, heffective, htext]
    split
    · rw [List.map_filterMap, List.map_filterMap]
      exact List.filterMap_congr fun rule hrule ↦
        (hrules rule hrule).query_request? query.criteria offset limit {} _
    · rfl
  rw [winners, winners, map_found_payloads, map_found_payloads,
    map_query_baseRequests_congr hrequests]
  refine congrArg firstNonempty (List.map_congr_left fun fragment _ ↦ ?_)
  rw [found_directed, found_directed]
  rfl

end Query

end RecordSearch
