import Mathlib.Data.List.Forall2
import RecordSearch.Proofs.Search
/-!
# What the compiled requests ask

A query compiles to one request for each rule that applies to its free text, in the order of the
rules; to a single request for all documents if there is no free text or no such rule
(`compile_lists_rules`). What a request asks for comes from two sides that never meet but in one
place. The fragment of the rule is its Boolean query, and the conditions are merged into the filter
of that query (`erase_filter_withConditions`); a fragment without a filter gets the conditions for
one, bucket by bucket (`Conditions.filter?_eq_spelledOut?`). All else that the criteria say is said
in every request alike (`alike_directed`), so that requests differ in query and highlight section
only.
-/

namespace RecordSearch

/-- What a function keeps of a list stands opposite the members that it maps at all. -/
theorem forall₂_filter_filterMap {α β : Type} {f : α → Option β} {p : α → Bool}
    (h : ∀ a, p a = (f a).isSome) (list : List α) :
    List.Forall₂ (fun a b ↦ f a = some b) (list.filter p) (list.filterMap f) := by
  induction list with
  | nil => exact .nil
  | cons a rest ih =>
    rw [List.filter_cons, List.filterMap_cons, h a]
    cases hf : f a with
    | none => exact ih
    | some b => exact .cons hf ih

/-! ### Conditions in a request -/

namespace Conditions

variable {conditions : Conditions}

/-- The buckets that have conditions, under their names. -/
def entries (conditions : Conditions) : List (String × Json) :=
  (Bucket.all.filter fun bucket ↦ !(conditions.bucket bucket).isEmpty).map fun bucket ↦
    (bucket.name, .array (conditions.render bucket))

/-- The filter of a condition set written out: under `bool`, the rendered conditions of each bucket
that has any. Without conditions there is none. -/
def spelledOut? (conditions : Conditions) : Option Json :=
  if conditions.isEmpty then none else some (.single "bool" (.ofFields conditions.entries))

theorem isEmpty_iff :
    conditions.isEmpty = true ↔ ∀ bucket ∈ Bucket.all, conditions.render bucket = [] := by
  simp [isEmpty, Bucket.all, render_eq_nil_iff, bucket, and_assoc]

/-- A bucket is listed if it has conditions. -/
theorem get?_entries_name (conditions : Conditions) (bucket : Bucket) :
    Fields.get? conditions.entries bucket.name =
      if conditions.render bucket = [] then none else some (.array (conditions.render bucket)) := by
  simp only [render_eq_nil_iff, entries, Bucket.all, List.filter_cons, List.filter_nil]
  cases bucket <;> split_ifs <;>
    simp_all [Fields.get?_cons, Bucket.name]

/-- The appended buckets are those that have conditions. -/
theorem buckets_eq_ofList (conditions : Conditions) :
    conditions.buckets = .ofList conditions.entries := by
  refine Dict.ext_get? fun name ↦ ?_
  rw [Dict.get?_ofList]
  -- Under a name that no bucket has, neither side has anything.
  by_cases hname : ∃ bucket : Bucket, bucket.name = name
  · obtain ⟨bucket, rfl⟩ := hname
    rw [get?_buckets_name, get?_entries_name]
  · rw [get?_buckets_of_forall_ne _ (not_exists.1 hname), eq_comm,
      Option.eq_none_iff_forall_ne_some]
    intro value hvalue
    obtain ⟨bucket, -, hbucket⟩ := List.mem_map.1 (Fields.mem_of_get?_eq_some hvalue)
    exact hname ⟨bucket, congrArg Prod.fst hbucket⟩

/-- The filter of a condition set is the one written out. -/
theorem filter?_eq_spelledOut? (conditions : Conditions) :
    conditions.filter? = conditions.spelledOut? := by
  have hempty : conditions.buckets.isEmpty = conditions.isEmpty := by
    rw [Bool.eq_iff_iff, Dict.isEmpty_iff, buckets_eq_empty_iff, isEmpty_iff]
    exact ⟨fun h bucket _ ↦ render_eq_nil_iff.2 (h bucket),
      fun h bucket ↦ render_eq_nil_iff.1 (h bucket bucket.mem_all)⟩
  rw [filter?, spelledOut?, Json.ofFields, hempty, buckets_eq_ofList]

end Conditions

namespace SearchRequest

variable {request : SearchRequest} {conditions : Conditions}

/-- A merge touches nothing of the query but its filter. -/
theorem erase_filter_mergeFilter (request : SearchRequest) (bucket : Bucket)
    (clauses : List Json) :
    ((request.mergeFilter bucket clauses).query.getD ∅).erase "filter" =
      (request.query.getD ∅).erase "filter" := by
  unfold mergeFilter
  dsimp only
  split
  · rfl
  · exact Dict.erase_insert_self _ _ _

/-- A merge leaves a request without a query if there was none and nothing is merged. -/
theorem query_mergeFilter_eq_none_iff {bucket : Bucket} {clauses : List Json} :
    (request.mergeFilter bucket clauses).query = none ↔ request.query = none ∧ clauses = [] := by
  unfold mergeFilter
  dsimp only
  split
  · next h =>
    have hclauses : clauses = [] := (List.append_eq_nil_iff.1 (List.isEmpty_iff.1 h)).2
    exact (and_iff_left hclauses).symm
  · next h =>
    refine iff_of_false nofun ?_
    rintro ⟨hquery, rfl⟩
    rw [hquery] at h
    exact h rfl

/-- Conditions touch nothing of the query but its filter. -/
theorem erase_filter_withConditions (request : SearchRequest) (conditions : Conditions) :
    ((request.withConditions conditions).query.getD ∅).erase "filter" =
      (request.query.getD ∅).erase "filter" := by
  rw [withConditions]
  induction Bucket.all generalizing request with
  | nil => rfl
  | cons bucket rest ih => exact (ih _).trans (request.erase_filter_mergeFilter bucket _)

/-- A request is left without a query if there was none and there are no conditions. -/
theorem query_withConditions_eq_none_iff :
    (request.withConditions conditions).query = none ↔
      request.query = none ∧ conditions.isEmpty = true := by
  rw [withConditions, Conditions.isEmpty_iff]
  induction Bucket.all generalizing request with
  | nil => simp
  | cons bucket rest ih =>
    rw [List.foldl_cons, ih, query_mergeFilter_eq_none_iff, List.forall_mem_cons, and_assoc]

/-- Do two requests differ in their queries and highlight sections at most? -/
structure Alike (request other : SearchRequest) : Prop where
  /-- Identity and parameters are the same. -/
  outside : ∀ name ≠ "body", request.render.field? name = other.render.field? name
  /-- The other parts of the body are the same. -/
  inside : ∀ name, name ≠ "query" → name ≠ "highlight" →
    request.render.at? ["body", name] = other.render.at? ["body", name]

theorem alike_of_eq {request other : SearchRequest} (query : Option Object)
    (highlight : Option Json)
    (h : request = { other with query := query, highlight := highlight }) :
    request.Alike other where
  outside name hname := by
    rw [render, render, Json.field?_ofObject, Json.field?_ofObject,
      Dict.get?_insert_of_ne _ _ hname.symm, Dict.get?_insert_of_ne _ _ hname.symm, h]
  inside name hquery hhighlight := by
    rw [at?_render_body, at?_render_body, Json.at?_ofObject_cons, Json.at?_ofObject_cons, h,
      other.get?_body_of_ne query highlight hquery hhighlight]

end SearchRequest

/-! ### Rules and requests -/

namespace Rule

/-- Does the rule apply? A function always does. -/
def applies (rule : Rule) (criteria : Criteria) : Bool :=
  match rule with
  | callable _ => true
  | conditional applies _ _ => applies criteria

/-- A rule has a request if it applies. -/
theorem applies_eq_isSome (rule : Rule) (criteria : Criteria) (options : Options)
    (envelope : Envelope) :
    rule.applies criteria = (rule.request? criteria options envelope).isSome := by
  rw [request?_eq, Option.isSome_map]
  cases rule with
  | callable fragment => rfl
  | conditional applies fragment highlight =>
    rw [Rule.applies, fragment?]
    cases applies criteria <;> rfl

end Rule

namespace Query

variable (query : Query)

/-- The rules that turn the free text into requests, in order; without free text there are none. -/
def appliedRules : List Rule :=
  if query.criteria.freeText.isSome then
    query.effectiveRules.filter fun rule ↦ rule.applies query.criteria
  else []

/-- The request asks for a fragment under the conditions of the query, with a highlight section or
without one. -/
structure Poses (fragment : Object) (highlight : Option Json) (request : SearchRequest) :
    Prop where
  /-- The request has a Boolean query, if it has one. -/
  written : request.render.at? ["body", "query"] =
    request.query.map fun asked ↦ .single "bool" (.ofObject asked)
  /-- Without its filter the query is the fragment without its filter. -/
  others : (request.query.getD ∅).erase "filter" = fragment.erase "filter"
  /-- There is no query exactly if there is nothing to ask. -/
  absent : request.query = none ↔ fragment = ∅ ∧ query.criteria.conditions.isEmpty = true
  /-- If the fragment has no filter, the filter is made of the conditions. -/
  filter : fragment.get? "filter" = none →
    request.query.bind (·.get? "filter") = query.criteria.conditions.spelledOut?
  /-- The highlight section is the given one. -/
  highlighted : request.render.at? ["body", "highlight"] = highlight

variable {query} {options : Options} {base : String} {request other : SearchRequest}

/-- The criteria make of a request for a fragment one that poses it. -/
theorem poses_directed {fragment : Object} {highlight : Option Json}
    (hquery : request.query = if fragment.isEmpty then none else some fragment)
    (hhighlight : request.highlight = highlight) :
    query.Poses fragment highlight (query.directed options base request) := by
  have hdirected : (query.directed options base request).query =
      (request.withConditions query.criteria.conditions).query :=
    request.query_shaped query.criteria options
  have hsection : (query.directed options base request).highlight = highlight := by
    rw [directed, SearchRequest.shaped_eq, ← hhighlight]
  have hfragment : request.query.getD ∅ = fragment := by
    rw [hquery]
    split
    · next h => exact (Dict.isEmpty_iff.1 h).symm
    · rfl
  refine ⟨SearchRequest.query_render _, ?_, ?_, fun hfilter ↦ ?_, ?_⟩
  · rw [hdirected, request.erase_filter_withConditions, hfragment]
  · rw [hdirected, SearchRequest.query_withConditions_eq_none_iff, hquery]
    simp
  · rw [← hfragment] at hfilter
    rw [hdirected, SearchRequest.get?_filter_withConditions hfilter,
      Conditions.filter?_eq_spelledOut?]
  · rw [SearchRequest.at?_render_body, Json.at?_ofObject_cons, SearchRequest.get?_body_highlight,
      hsection]
    cases highlight <;> rfl

/-- The criteria say the same in every request of a query. -/
theorem alike_directed (hrequest : request ∈ query.baseRequests options)
    (hother : other ∈ query.baseRequests options) :
    (query.directed options base request).Alike (query.directed options base other) := by
  refine SearchRequest.alike_of_eq (query.directed options base request).query
    request.highlight ?_
  rw [directed, directed, SearchRequest.shaped_eq, SearchRequest.shaped_eq,
    query.eq_of_mem_baseRequests hrequest, query.eq_of_mem_baseRequests hother]

/-- Each rule that applies stands opposite its request. -/
theorem forall₂_ruleRequests (query : Query) (options : Options) :
    List.Forall₂ (fun rule request ↦
      rule.request? query.criteria options (.forType query.schema) = some request)
      query.appliedRules (query.ruleRequests options) := by
  rw [appliedRules, ruleRequests]
  split
  · exact forall₂_filter_filterMap (fun rule ↦ rule.applies_eq_isSome _ _ _) _
  · exact .nil

/-- **The compiled requests, one by one.** If a query compiles, its requests stand opposite the
rules that apply to its free text, in order, and each request poses the fragment of its rule, with
the highlight section of the rule if the options want one. If no rule applies, or there is no free
text, there is one request, for all documents. The requests differ in query and highlight section
only. -/
theorem compile_lists_rules (query : Query) (options : Options) (requests : List SearchRequest)
    (hcompile : query.compile options = .ok requests) :
    (query.appliedRules ≠ [] → List.Forall₂ (fun rule request ↦
        ∃ fragment, rule.fragment? query.criteria = some fragment ∧
          query.Poses fragment
            (if options.highlight then rule.highlight? query.criteria else none) request)
        query.appliedRules requests) ∧
      (query.appliedRules = [] → ∃ request, requests = [request] ∧
        query.Poses (.single "must" (.single "match_all" .emptyObject)) none request) ∧
      ∀ request ∈ requests, ∀ other ∈ requests, request.Alike other := by
  obtain ⟨base, -, rfl⟩ := exists_base_of_compile hcompile
  -- With rules that apply the requests are theirs; otherwise the list of theirs is empty.
  have hrules := query.forall₂_ruleRequests options
  refine ⟨fun hsome ↦ ?_, fun hnone ↦ ?_, ?_⟩
  · have hrequests : query.baseRequests options = query.ruleRequests options := by
      rw [baseRequests]
      split
      · next hnil =>
        rw [hnil, List.forall₂_nil_right_iff] at hrules
        exact absurd hrules hsome
      · rfl
    rw [hrequests, List.forall₂_map_right_iff]
    refine hrules.imp fun rule request hrequest ↦ ?_
    rw [rule.request?_eq] at hrequest
    obtain ⟨fragment, hfragment, rfl⟩ := Option.map_eq_some_iff.1 hrequest
    exact ⟨fragment, hfragment, poses_directed rfl rfl⟩
  · rw [hnone, List.forall₂_nil_left_iff] at hrules
    rw [baseRequests, hrules]
    refine ⟨_, rfl, poses_directed ?_ ?_⟩
    · rw [SearchRequest.setMatchAll_eq]
      rfl
    · rw [SearchRequest.setMatchAll_eq]
  · simp only [List.forall_mem_map]
    exact fun request hrequest other hother ↦ alike_directed hrequest hother

/-- English posts for a text, with a title for an alternative, by four rules: one that never
applies, a function with nothing to ask, one with a highlight section, and one that has an empty
section and a filter of its own. -/
def rustPosts : Query :=
  let about (criteria : Criteria) : Json :=
    .single "match" (.single "title" (.string (criteria.freeText.getD "")))
  ((Schema.ofTable "posts").search "rust").refine
    [.rule (.conditional (fun _ ↦ false) (fun _ ↦ ∅) fun _ ↦ none),
      .rule (.callable fun _ ↦ ∅),
      .rule (.conditional (fun _ ↦ true) (fun criteria ↦ .single "must" (about criteria))
        fun _ ↦ some (.single "fields" (.single "title" .emptyObject))),
      .rule (.conditional (fun _ ↦ true) (fun criteria ↦ .single "filter" (about criteria))
        fun _ ↦ some .emptyObject),
      .condition .must (.term "lang" (.string "en")), .condition .should (.present "title"),
      .limit 5]

/-- Three rules apply, and the first two of them have no filter of their own. -/
theorem compile_lists_rules_rustPosts :
    ∃ first second third, rustPosts.compile {} = .ok [first, second, third] ∧
      (∀ request ∈ [first, second], request.query.bind (·.get? "filter") =
        some (.single "bool" (.ofFields
          [("must", .array [.single "term" (.single "lang" (.string "en"))]),
            ("should", .array [.single "exists" (.single "field" (.string "title"))])]))) ∧
      [first, second, third].map (fun request ↦ request.render.at? ["body", "highlight"]) =
        [none, some (.single "fields" (.single "title" .emptyObject)), none] ∧
      first.Alike third := by
  obtain ⟨requests, hcompile⟩ : ∃ requests, rustPosts.compile {} = .ok requests :=
    ⟨_, rustPosts.compile_eq_map {}⟩
  obtain ⟨hlists, -, halike⟩ := compile_lists_rules rustPosts {} requests hcompile
  cases hlists (List.cons_ne_nil _ _) with | cons hfirst hrest =>
  cases hrest with | cons hsecond hrest =>
  cases hrest with | cons hthird hrest =>
  cases hrest
  obtain ⟨_, ⟨⟩, hfirst⟩ := hfirst
  obtain ⟨_, ⟨⟩, hsecond⟩ := hsecond
  obtain ⟨_, ⟨⟩, hthird⟩ := hthird
  refine ⟨_, _, _, hcompile, ?_, ?_, halike _ (by simp) _ (by simp)⟩
  · rintro request hrequest
    rcases List.mem_pair.1 hrequest with rfl | rfl
    · exact hfirst.filter rfl
    · exact hsecond.filter rfl
  · rw [List.map_cons, List.map_cons, List.map_cons, List.map_nil, hfirst.highlighted,
      hsecond.highlighted, hthird.highlighted]
    rfl

end Query

end RecordSearch
