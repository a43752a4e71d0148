import RecordSearch.Proofs.Filter
import RecordSearch.Proofs.Winning
/-!
# What becomes of the filter of a rule

The fragment of a rule may have a filter of its own, and the conditions of a query are merged into
it. Merging opens the filter as a Boolean one (`opened`) and appends to its lists, which loses
clauses in two ways: a bucket that is one object and no list counts as empty and is replaced, and a
filter of another kind than `bool` stands behind the new `bool` in the order of names, where the
backend does not look.

`keptClauses` and `lostClauses` tell the two parts of each bucket. The merged filter accepts what
passes the kept clauses and satisfies the conditions (`accepts_opened`), the rule's own filter what
passes both parts (`accepts_eq_kept_and_lost`). `search_respects_rule_iff` says when a search shows
only what the rule's own filter accepts.
-/

namespace RecordSearch

namespace Filter

/-! ### Merging into one filter -/

/-- The kinds of clauses that the backend knows. -/
def kinds : List String :=
  ["bool", "exists", "match", "range", "term", "terms"]

/-- The buckets of a filter, if it is a Boolean one. -/
def buckets (filter : Json) : Object :=
  ((filter.fieldsOrNone.get? "bool").getD .emptyObject).fieldsOrNone

/-- The filter with buckets put under `bool`. -/
def opened (filter : Json) (buckets : Object) : Json :=
  .ofObject (filter.fieldsOrNone.insert "bool" (.ofObject buckets))

/-- The filter with further clauses in a bucket. -/
def merge (filter : Json) (bucket : Bucket) (clauses : List Json) : Json :=
  let merged := (((buckets filter).get? bucket.name).bind Json.array?).getD [] ++ clauses
  if merged.isEmpty then filter else opened filter (appendBucket (buckets filter) bucket clauses)

theorem get?_buckets (filter : Json) (name : String) :
    (buckets filter).get? name = (filter.field? "bool").bind (·.field? name) := by
  rw [buckets, Json.field?_eq_get?_fieldsOrNone]
  cases filter.fieldsOrNone.get? "bool" with
  | none => rfl
  | some spec => exact (Json.field?_eq_get?_fieldsOrNone spec name).symm

theorem buckets_opened (filter : Json) (clauses : Object) :
    buckets (opened filter clauses) = clauses := by
  simp [buckets, opened]

theorem opened_opened (filter : Json) (first second : Object) :
    opened (opened filter first) second = opened filter second := by
  rw [opened, opened, Json.fieldsOrNone_ofObject, Dict.insert_insert_self, opened]

/-- A merge into an opened filter appends to one of the buckets. -/
theorem merge_opened (filter : Json) (clauses : Object) (bucket : Bucket) (added : List Json) :
    merge (opened filter clauses) bucket added =
      opened filter (appendBucket clauses bucket added) := by
  rw [merge, buckets_opened, opened_opened]
  split
  · next h => rw [appendBucket, if_pos h]
  · rfl

/-- The filter with the conditions of some buckets merged into it. -/
def mergeAll (conditions : Conditions) (buckets : List Bucket) (filter : Json) : Json :=
  buckets.foldl (fun filter bucket ↦ merge filter bucket (conditions.render bucket)) filter

/-- Buckets with the conditions of some of them appended. -/
def appendAll (conditions : Conditions) (buckets : List Bucket) (clauses : Object) : Object :=
  buckets.foldl (fun clauses bucket ↦ appendBucket clauses bucket (conditions.render bucket))
    clauses

theorem mergeAll_opened (conditions : Conditions) (rest : List Bucket) (filter : Json)
    (clauses : Object) :
    mergeAll conditions rest (opened filter clauses) =
      opened filter (appendAll conditions rest clauses) := by
  induction rest generalizing clauses with
  | nil => rfl
  | cons bucket rest ih =>
    rw [mergeAll, List.foldl_cons, merge_opened]
    exact ih _

/-- Conditions open the filter that they are merged into. -/
theorem mergeAll_eq_opened {conditions : Conditions} {rest : List Bucket}
    (h : ∃ bucket ∈ rest, conditions.render bucket ≠ []) (filter : Json) :
    mergeAll conditions rest filter =
      opened filter (appendAll conditions rest (buckets filter)) := by
  induction rest with
  | nil => exact absurd h (by simp)
  | cons bucket rest ih =>
    rw [mergeAll, List.foldl_cons, merge]
    split
    · next hempty =>
      -- Nothing is merged, so the conditions are in a later bucket.
      have hrender : conditions.render bucket = [] :=
        (List.append_eq_nil_iff.1 (List.isEmpty_iff.1 hempty)).2
      obtain ⟨other, hmem, hother⟩ := h
      have hrest : other ∈ rest := by
        rcases List.mem_cons.1 hmem with rfl | hmem
        · exact absurd hrender hother
        · exact hmem
      refine (ih ⟨other, hrest, hother⟩).trans ?_
      rw [appendAll, appendAll, List.foldl_cons, appendBucket, if_pos hempty]
    · exact mergeAll_opened conditions rest filter _

/-- No field of the filter comes before `bool` in the order of names. Of what is no object this is
true, and of an object with `bool` as its only field. -/
def BoolFirst (filter : Json) : Prop :=
  ∀ entry ∈ filter.fieldsOrNone.entries, ¬ entry.1 < "bool"

theorem boolFirst_array (items : List Json) : BoolFirst (.array items) :=
  fun _ hentry ↦ absurd hentry List.not_mem_nil

/-- No known kind of clause comes before `bool`. -/
theorem boolFirst_of_mem_kinds {kind : String} (h : kind ∈ kinds) (spec : Json) :
    BoolFirst (.single kind spec) := by
  have horder : ∀ kind ∈ kinds, ¬ kind < "bool" := by decide
  intro entry hentry
  rw [Json.fieldsOrNone_single] at hentry
  rw [List.mem_singleton.1 hentry]
  exact horder kind h

/-- What is put under `bool` then comes first. -/
theorem BoolFirst.kind?_opened {filter : Json} (h : BoolFirst filter) (clauses : Object) :
    kind? (opened filter clauses) = some ("bool", .ofObject clauses) := by
  show (Fields.insert filter.fieldsOrNone.entries "bool" (.ofObject clauses)).head? = _
  rw [BoolFirst] at h
  cases hentries : filter.fieldsOrNone.entries with
  | nil => rfl
  | cons head rest =>
    obtain ⟨name, value⟩ := head
    rw [hentries] at h
    have hname : ¬ name < "bool" := h (name, value) List.mem_cons_self
    rw [Fields.insert]
    split
    · rfl
    · next hne =>
      have hlt : "bool" < name := by
        by_contra hlt
        exact hne (String.le_antisymm (String.not_lt.1 hlt) (String.not_lt.1 hname))
      rw [if_pos hlt]
      rfl

/-! ### What is kept and what is lost -/

section Parts

variable (conditions : Conditions) (filter : Json)

/-- The clauses of a bucket of the filter that stay when conditions are merged into it: all of them
if there are no conditions for the bucket, else those in a list. -/
def keptClauses (bucket : Bucket) : List Json :=
  if (conditions.bucket bucket).isEmpty then
    bucketClauses (.ofObject (buckets filter)) bucket.name
  else (((buckets filter).get? bucket.name).bind Json.array?).getD []

/-- The clauses of a bucket of the filter that conditions replace. -/
def lostClauses (bucket : Bucket) : List Json :=
  if (conditions.bucket bucket).isEmpty then []
  else
    match (buckets filter).get? bucket.name with
    | some (.object fields) => [.object fields]
    | _ => []

/-- Does a document pass the clauses that stay? -/
def passesKept (source : Json) : Bool :=
  (keptClauses conditions filter .must).all (accepts source) &&
    (bucketClauses (.ofObject (buckets filter)) "filter").all (accepts source) &&
    !(keptClauses conditions filter .mustNot).any (accepts source) &&
    ((keptClauses conditions filter .should).isEmpty ||
      (keptClauses conditions filter .should).any (accepts source))

/-- Would a document pass the clauses that are lost? Of a filter that is not Boolean all is
lost. -/
def passesLost (source : Json) : Bool :=
  match kind? filter with
  | some ("bool", _) =>
    (lostClauses conditions filter .must).all (accepts source) &&
      !(lostClauses conditions filter .mustNot).any (accepts source)
  | _ => accepts source filter

/-- The filter is a Boolean one, and none of its buckets that get conditions is one object. -/
def Mergeable : Prop :=
  (∃ spec, kind? filter = some ("bool", spec)) ∧
    ∀ bucket, conditions.bucket bucket ≠ [] → ∀ fields,
      (buckets filter).get? bucket.name ≠ some (.object fields)

/-- A bucket is made of the clauses that stay and those that are lost. -/
theorem bucketClauses_eq_append (bucket : Bucket) :
    bucketClauses (.ofObject (buckets filter)) bucket.name =
      keptClauses conditions filter bucket ++ lostClauses conditions filter bucket := by
  rw [keptClauses, lostClauses]
  split
  · exact (List.append_nil _).symm
  · rw [bucketClauses, Json.field?_ofObject]
    rcases (buckets filter).get? bucket.name with _ | value
    · rfl
    · cases value <;> simp [Json.array?]

variable {conditions filter} in
/-- Nothing of a mergeable filter is lost. -/
theorem Mergeable.passesLost_eq_true (h : Mergeable conditions filter) (source : Json) :
    passesLost conditions filter source = true := by
  obtain ⟨⟨spec, hkind⟩, hlists⟩ := h
  have hlost : ∀ bucket, lostClauses conditions filter bucket = [] := by
    intro bucket
    rw [lostClauses]
    split
    · rfl
    · next hconditions =>
      split
      · next fields hfields =>
        exact absurd hfields (hlists bucket (by simpa using hconditions) fields)
      · rfl
  simp [passesLost, hkind, hlost]

/-- The clauses in a bucket of the merged filter: those that stay, and then the conditions. -/
theorem bucketClauses_appendAll (bucket : Bucket) :
    bucketClauses (.ofObject (appendAll conditions Bucket.all (buckets filter))) bucket.name =
      keptClauses conditions filter bucket ++ conditions.render bucket := by
  have hget : (appendAll conditions Bucket.all (buckets filter)).get? bucket.name =
      let merged := (((buckets filter).get? bucket.name).bind Json.array?).getD [] ++
        conditions.render bucket
      if merged ≠ [] then some (.array merged) else (buckets filter).get? bucket.name := by
    cases bucket <;>
      simp [appendAll, Bucket.all, Conditions.get?_appendBucket, Bucket.name]
  rw [bucketClauses, Json.field?_ofObject, hget, keptClauses]
  by_cases hnone : conditions.bucket bucket = []
  · rw [Conditions.render_eq_nil_iff.2 hnone, hnone]
    rcases hvalue : (buckets filter).get? bucket.name with _ | value
    · simp [bucketClauses, hvalue]
    · cases value with
      | array items => cases items <;> simp [bucketClauses, hvalue, Json.array?]
      | _ => simp [bucketClauses, hvalue, Json.array?]
  · have hrendered := mt Conditions.render_eq_nil_iff.1 hnone
    simp [hnone, hrendered]

theorem bucketClauses_appendAll_filter :
    bucketClauses (.ofObject (appendAll conditions Bucket.all (buckets filter))) "filter" =
      bucketClauses (.ofObject (buckets filter)) "filter" := by
  have hget : (appendAll conditions Bucket.all (buckets filter)).get? "filter" =
      (buckets filter).get? "filter" := by
    simp [appendAll, Bucket.all, Conditions.get?_appendBucket, Bucket.name]
  rw [bucketClauses, bucketClauses, Json.field?_ofObject, Json.field?_ofObject, hget]

end Parts

variable {conditions : Conditions} {kind : String} {spec : Json}

/-- The merged filter accepts the documents that pass what stays and satisfy the conditions. -/
theorem accepts_opened (hkind : kind ∈ kinds) (hshould : conditions.should = [])
    (source : Json) :
    accepts source (opened (.single kind spec)
        (appendAll conditions Bucket.all (buckets (.single kind spec)))) =
      (passesKept conditions (.single kind spec) source && conditions.hold source) := by
  have hmust := bucketClauses_appendAll conditions (.single kind spec) .must
  have hmustNot := bucketClauses_appendAll conditions (.single kind spec) .mustNot
  have hshoulds := bucketClauses_appendAll conditions (.single kind spec) .should
  have hnone : conditions.render .should = [] := by
    rw [Conditions.render, Conditions.bucket, hshould]
    rfl
  rw [hnone, List.append_nil] at hshoulds
  simp only [Bucket.name] at hmust hmustNot hshoulds
  rw [accepts_of_kind_bool source ((boolFirst_of_mem_kinds hkind spec).kind?_opened _), hmust,
    hmustNot, hshoulds, bucketClauses_appendAll_filter, passesKept, Conditions.hold, hshould]
  simp only [Conditions.render, Conditions.bucket, List.all_append, List.any_append,
    all_accepts_renderAll, any_accepts_renderAll, Node.allHold_eq_all, Node.someHolds_eq_any,
    List.isEmpty_nil, Bool.true_or, Bool.and_true, Bool.not_or]
  ac_rfl

/-- The filter by itself accepts the documents that pass what stays and what is lost. -/
theorem accepts_eq_kept_and_lost (hshould : conditions.should = []) (source : Json) :
    accepts source (.single kind spec) =
      (passesKept conditions (.single kind spec) source &&
        passesLost conditions (.single kind spec) source) := by
  by_cases hkind : kind = "bool"
  · subst hkind
    have hspec : ∀ name, bucketClauses spec name =
        bucketClauses (.ofObject (buckets (.single "bool" spec))) name := by
      intro name
      rw [bucketClauses, bucketClauses, Json.field?_ofObject, get?_buckets,
        Json.field?_single_self]
      rfl
    have hmust := bucketClauses_eq_append conditions (.single "bool" spec) .must
    have hmustNot := bucketClauses_eq_append conditions (.single "bool" spec) .mustNot
    have hshoulds : bucketClauses (.ofObject (buckets (.single "bool" spec))) "should" =
        keptClauses conditions (.single "bool" spec) .should := by
      rw [keptClauses, Conditions.bucket, hshould]
      rfl
    simp only [Bucket.name] at hmust hmustNot
    rw [accepts_of_kind_bool source (kind?_single _ _), hspec, hspec, hspec, hspec, hmust,
      hmustNot, hshoulds, passesKept, passesLost, kind?_single]
    simp only [List.all_append, List.any_append, Bool.not_or]
    ac_rfl
  · have hbuckets : buckets (.single kind spec) = ∅ := by
      rw [buckets, Json.fieldsOrNone_single, Dict.get?_single, if_neg hkind]
      rfl
    have hpasses : passesKept conditions (.single kind spec) source = true := by
      have hkept : ∀ bucket, keptClauses conditions (.single kind spec) bucket = [] := by
        intro bucket
        rw [keptClauses, hbuckets]
        split <;> rfl
      simp only [passesKept, hkept, hbuckets]
      rfl
    rw [hpasses, Bool.true_and, passesLost, kind?_single]
    split
    · next heq => exact absurd (congrArg Prod.fst (Option.some.inj heq)) hkind
    · rfl

end Filter

/-! ### Merging into a request -/

namespace SearchRequest

/-- A merge into a request whose query has a filter is a merge into that filter. -/
theorem get?_filter_mergeFilter {request : SearchRequest} {filter : Json}
    (h : request.query.bind (·.get? "filter") = some filter) (bucket : Bucket)
    (clauses : List Json) :
    (request.mergeFilter bucket clauses).query.bind (·.get? "filter") =
      some (Filter.merge filter bucket clauses) := by
  obtain ⟨query, hquery, hfilter⟩ := Option.bind_eq_some_iff.1 h
  have hbucket : filterBucket query bucket =
      (((Filter.buckets filter).get? bucket.name).bind Json.array?).getD [] := by
    rw [filterBucket, hfilter, Option.bind_some, Filter.get?_buckets]
  rw [mergeFilter, Filter.merge, hquery, Option.getD_some, hbucket]
  split
  · exact h
  · next hempty =>
    rw [Option.bind_some, withFilterBucket, Dict.get?_insert_self, hfilter, Option.getD_some,
      Filter.opened, appendBucket, if_neg hempty]
    rfl

/-- The conditions of a query are merged into the filter that the query of a request has. -/
theorem get?_filter_withConditions_of_some {request : SearchRequest} {filter : Json}
    (h : request.query.bind (·.get? "filter") = some filter) (conditions : Conditions) :
    (request.withConditions conditions).query.bind (·.get? "filter") =
      some (Filter.mergeAll conditions Bucket.all filter) := by
  rw [withConditions, Filter.mergeAll]
  induction Bucket.all generalizing request filter with
  | nil => exact h
  | cons bucket rest ih => exact ih (get?_filter_mergeFilter h bucket _)

end SearchRequest

/-! ### Searches with a rule -/

namespace Query

variable {query : Query} {filter : Json} {store : Store} {base : String}

/-- A query for a free text with one rule that applies, whose fragment has a filter, and with
conditions that have to hold or must not hold. -/
structure AsksRule (query : Query) (filter : Json) : Prop where
  /-- The query is not searched by hand. -/
  callback_eq_none : query.callback = none
  /-- There is a free text. -/
  freeText_isSome : query.criteria.freeText.isSome
  /-- There is one rule, and its fragment has the filter. -/
  exists_rule : ∃ rule fragment, query.effectiveRules = [rule] ∧
    rule.fragment? query.criteria = some fragment ∧ fragment.get? "filter" = some filter
  /-- The filter is one clause of a known kind. -/
  clause : ∃ kind ∈ Filter.kinds, ∃ spec, filter = .single kind spec
  /-- There are no alternatives among the conditions. -/
  should_eq_nil : query.criteria.conditions.should = []
  /-- There are conditions. -/
  conditioned : query.criteria.conditions.must ≠ [] ∨ query.criteria.conditions.mustNot ≠ []

/-- The documents that a query with a rule admits: those of the searched indices that pass what
stays of the rule's filter and satisfy the conditions. -/
def admitted (query : Query) (filter : Json) (store : Store) (base : String) : List Found :=
  (base :: query.criteria.unions).flatMap fun index ↦
    (store.documentsOf index).filter fun found ↦
      Filter.passesKept query.criteria.conditions filter found.source &&
        query.criteria.conditions.hold found.source

namespace AsksRule

variable (h : query.AsksRule filter)
include h

/-- There is one request, whose query is the fragment of the rule. -/
theorem exists_baseRequests (options : Options) :
    ∃ request, query.baseRequests options = [request] ∧
      request.query.bind (·.get? "filter") = some filter := by
  obtain ⟨rule, fragment, hrules, hfragment, hfilter⟩ := h.exists_rule
  have hempty : ¬ fragment.isEmpty = true := by
    intro hempty
    rw [Dict.isEmpty_iff.1 hempty] at hfilter
    cases hfilter
  have hquery := rule.query_request?_eq query.criteria options (.forType query.schema)
  rw [hfragment, Option.map_some, if_neg hempty] at hquery
  obtain ⟨request, hrequest, hsome⟩ := Option.map_eq_some_iff.1 hquery
  refine ⟨request, ?_, by rw [hsome]; exact hfilter⟩
  rw [baseRequests, ruleRequests, if_pos h.freeText_isSome, hrules]
  simp only [List.filterMap_cons, hrequest, List.filterMap_nil]

/-- The winners of the query are the documents that it admits. -/
theorem winners_eq_admitted (store : Store) (base : String) :
    query.winners store base = query.admitted filter store base := by
  obtain ⟨request, hrequests, hfilter⟩ := h.exists_baseRequests {}
  obtain ⟨kind, hkind, spec, rfl⟩ := h.clause
  have hconditions : ∃ bucket ∈ Bucket.all, query.criteria.conditions.render bucket ≠ [] := by
    rcases h.conditioned with hmust | hmustNot
    · exact ⟨.must, Bucket.mem_all _, mt Conditions.render_eq_nil_iff.1 hmust⟩
    · exact ⟨.mustNot, Bucket.mem_all _, mt Conditions.render_eq_nil_iff.1 hmustNot⟩
  have hmerged := SearchRequest.get?_filter_withConditions_of_some hfilter
    query.criteria.conditions
  rw [Filter.mergeAll_eq_opened hconditions] at hmerged
  have hfound : store.found (query.directed {} base request).render =
      query.admitted (.single kind spec) store base := by
    rw [found_directed, hmerged, admitted]
    refine congrArg (List.flatMap · _) (funext fun index ↦ ?_)
    rw [Store.foundIn_eq_filter]
    refine List.filter_congr fun found _ ↦ ?_
    exact Filter.accepts_opened hkind h.should_eq_nil found.source
  have hpayloads : (query.payloads base {}).map store.found =
      [query.admitted (.single kind spec) store base] := by
    rw [payloads, hrequests, List.map_singleton, List.map_singleton, hfound]
  rw [winners, hpayloads, firstNonempty]
  cases query.admitted (.single kind spec) store base <;> rfl

end AsksRule

/-- The documents that a query with a rule shows: its window of those that it admits. -/
def presented (query : Query) (filter : Json) (store : Store) (base : String) : List Found :=
  ((query.admitted filter store base).drop (query.criteria.offset.getD 0)).take
    (query.criteria.limit.getD 10)

/-- Of the documents that a query presents, its rule's filter accepts those that pass what is lost
of it. -/
theorem AsksRule.accepts_of_mem_presented (h : query.AsksRule filter) {found : Found}
    (hfound : found ∈ query.presented filter store base) :
    Filter.accepts found.source filter =
      Filter.passesLost query.criteria.conditions filter found.source := by
  obtain ⟨kind, -, spec, rfl⟩ := h.clause
  obtain ⟨index, -, hindex⟩ :=
    List.mem_flatMap.1 (List.mem_of_mem_drop (List.mem_of_mem_take hfound))
  have hkept := (Bool.and_eq_true_iff.1 (List.mem_filter.1 hindex).2).1
  rw [Filter.accepts_eq_kept_and_lost h.should_eq_nil, hkept, Bool.true_and]

/-- **A search respects its rule as far as the rule's filter is kept.** It shows its window of the
documents that pass what stays of the rule's filter and satisfy the conditions. All of them are
accepted by the rule's filter exactly if they pass what is lost of it as well; nothing is lost of a
Boolean filter whose buckets that get conditions are lists. -/
theorem search_respects_rule_iff (query : Query) (filter : Json) (h : query.AsksRule filter)
    (store : Store) (base : String) (hbase : query.baseIndex? = .ok base)
    (hidle : Store.Idle store.searchAnswers base) (options : Options) :
    ∃ response after,
      (query.respond options).runOn Store.backend store = (.ok response, after) ∧
        response.total = (query.admitted filter store base).length ∧
        response.hits = (query.presented filter store base).map Found.hit ∧
        ((∀ found ∈ query.presented filter store base,
            Filter.accepts found.source filter = true) ↔
          ∀ found ∈ query.presented filter store base,
            Filter.passesLost query.criteria.conditions filter found.source = true) ∧
        (Filter.Mergeable query.criteria.conditions filter →
          ∀ found ∈ query.presented filter store base,
            Filter.accepts found.source filter = true) := by
  obtain ⟨response, after, hrun, -, htotal, hhits⟩ :=
    respond_runOn_winners h.callback_eq_none options hbase hidle ⟨store.requests, rfl⟩
  rw [h.winners_eq_admitted] at htotal hhits
  refine ⟨response, after, hrun, htotal, hhits, ?_, ?_⟩
  · exact forall₂_congr fun found hfound ↦ by rw [h.accepts_of_mem_presented hfound]
  · intro hmergeable found hfound
    rw [h.accepts_of_mem_presented hfound]
    exact hmergeable.passesLost_eq_true found.source

/-- Posts of a length that a rule with a filter admits. -/
def postsAdmittedBy (filter : Json) : Query :=
  ((Schema.ofTable "posts").search "x").refine
    [.rule (.callable fun _ ↦ .single "filter" filter),
      .condition .must (.term "length" (.ofNat 3))]

theorem asksRule_postsAdmittedBy {kind : String} (hkind : kind ∈ Filter.kinds) (spec : Json) :
    (postsAdmittedBy (.single kind spec)).AsksRule (.single kind spec) where
  callback_eq_none := rfl
  freeText_isSome := rfl
  exists_rule := ⟨_, _, rfl, rfl, Dict.get?_single_self _ _⟩
  clause := ⟨kind, hkind, spec, rfl⟩
  should_eq_nil := rfl
  conditioned := .inl (List.cons_ne_nil _ _)

/-- A French and an English post of the same length. -/
def postStore : Store :=
  let post (language : String) : Json :=
    .ofFields [("lang", .string language), ("length", .ofNat 3)]
  (({} : Store).put "posts_index" "1" (post "fr")).put "posts_index" "2" (post "en")

/-- A rule whose filter is a list of one clause admits English posts only. -/
theorem search_respects_rule_english :
    let filter := Json.single "bool"
      (.single "must" (.array [.single "term" (.single "lang" (.string "en"))]))
    (postsAdmittedBy filter).AsksRule filter ∧
      ∃ response after,
        (postsAdmittedBy filter).search.runOn Store.backend postStore = (.ok response, after) ∧
          response.hits.map Hit.id = [some "2"] ∧
          ∀ found ∈ (postsAdmittedBy filter).presented filter postStore "posts_index",
            Filter.accepts found.source filter = true := by
  intro filter
  have hasks : (postsAdmittedBy filter).AsksRule filter :=
    asksRule_postsAdmittedBy (by decide) _
  obtain ⟨response, after, hrun, -, hhits, -, haccepts⟩ :=
    search_respects_rule_iff (postsAdmittedBy filter) filter hasks postStore "posts_index" rfl rfl
      {}
  refine ⟨hasks, response, after, hrun, ?_, haccepts ⟨⟨_, rfl⟩, ?_⟩⟩
  · rw [hhits]
    decide +kernel
  · intro bucket _ fields
    cases bucket <;> exact nofun

/-- The French post is shown although the filter of the rule asks for English ones: once the filter
is a bare clause, and once its bucket is one object. -/
theorem search_shows_rejected_post :
    let english := Json.single "term" (.single "lang" (.string "en"))
    ∀ filter ∈ [english, .single "bool" (.single "must" english)],
      (postsAdmittedBy filter).AsksRule filter ∧
        ((postsAdmittedBy filter).search.runOn Store.backend postStore).1.map
          (fun response ↦ response.hits.map Hit.id) = .ok [some "1", some "2"] ∧
        (postStore.document? "posts_index" "1").map (Filter.accepts · filter) = some false := by
  intro english filter hfilter
  constructor
  · rcases List.mem_cons.1 hfilter with rfl | hfilter
    · exact asksRule_postsAdmittedBy (by decide) _
    · rw [List.mem_singleton.1 hfilter]
      exact asksRule_postsAdmittedBy (by decide) _
  · revert filter
    decide +kernel

end Query

end RecordSearch
