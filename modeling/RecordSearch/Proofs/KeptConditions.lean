import Mathlib.Data.List.Perm.Basic
import RecordSearch.Query.Steps
/-!
# The conditions that a query keeps

A query is refined by calls for conditions, on the query itself or inside groups of alternatives,
which are built as queries of their own. Each call has a clause and a bucket. A group hands on what
has to hold inside it and nothing else, so a call inside a group is **kept** if its clause goes to
`must`, and is lost without a trace if it is a negation or an alternative (`ConditionCall.place?`).

What one step adds to a bucket is told by its own calls (`clausesOfAll_apply`, by induction on the
nesting of groups), so the clauses of a refined query are, bucket by bucket and in the order of the
calls, the seed for deleted records and the clauses of the calls that are kept
(`clauses_refine_kept`). The count of clauses therefore equals the count of calls only if no group
has a negation or an alternative.
-/

namespace RecordSearch

/-! ### Calls for conditions -/

/-- A call for a condition. -/
structure ConditionCall where
  /-- The bucket that the clause goes to. -/
  bucket : Bucket
  /-- The clause of the condition. -/
  clause : Clause
  /-- Is the call made inside a group of alternatives? -/
  inGroup : Bool := false
deriving DecidableEq

namespace ConditionCall

/-- The same call from inside a group. -/
def grouped (call : ConditionCall) : ConditionCall :=
  { call with inGroup := true }

/-- The bucket of the query in which the clause ends up, if it is kept. -/
def place? (call : ConditionCall) : Option Bucket :=
  if call.inGroup = true ∧ call.bucket ≠ .must then none else some call.bucket

/-- The clauses that calls leave in a bucket of the query. -/
def clausesIn (calls : List ConditionCall) (bucket : Bucket) : List Clause :=
  (calls.filter fun call ↦ call.place? = some bucket).map clause

/-- The calls whose clauses are kept. -/
def kept (calls : List ConditionCall) : List ConditionCall :=
  calls.filter fun call ↦ call.place?.isSome

theorem clausesIn_append (first second : List ConditionCall) (bucket : Bucket) :
    clausesIn (first ++ second) bucket = clausesIn first bucket ++ clausesIn second bucket := by
  rw [clausesIn, List.filter_append, List.map_append]
  rfl

theorem place?_eq_must_iff {call : ConditionCall} :
    call.place? = some .must ↔ call.bucket = .must := by
  unfold place?
  split_ifs with h <;> simp_all

/-- A clause is kept unless its call, inside a group, is for another bucket than `must`. -/
theorem isSome_place? (call : ConditionCall) :
    call.place?.isSome = true ↔ (call.inGroup = true → call.bucket = .must) := by
  unfold place?
  split_ifs with h <;> simpa using h

/-- From inside a group, a clause is kept in `must` or not at all. -/
theorem place?_grouped (call : ConditionCall) :
    call.grouped.place? = if call.bucket = .must then some .must else none := by
  unfold place? grouped
  by_cases h : call.bucket = .must <;> simp [h]

/-- What calls leave in a bucket from inside a group: in `must` the same as outside, elsewhere
nothing. -/
theorem clausesIn_map_grouped (calls : List ConditionCall) (bucket : Bucket) :
    clausesIn (calls.map grouped) bucket =
      if bucket = .must then clausesIn calls .must else [] := by
  have hmap : (calls.map grouped).map clause = calls.map clause := by
    rw [List.map_map]
    rfl
  rw [clausesIn, List.filter_map, List.map_map]
  split_ifs with hbucket
  · subst hbucket
    refine congrArg (List.map clause) (List.filter_congr fun call _ ↦ ?_)
    simp only [Function.comp, place?_grouped, place?_eq_must_iff]
    split_ifs with h <;> simp [h]
  · rw [List.map_eq_nil_iff, List.filter_eq_nil_iff]
    intro call _
    simp only [Function.comp, place?_grouped]
    split_ifs <;> simp [Ne.symm hbucket]

/-- The buckets together have the clauses of the calls that are kept. -/
theorem flatMap_clausesIn_perm (calls : List ConditionCall) :
    (Bucket.all.flatMap (clausesIn calls)).Perm ((kept calls).map clause) := by
  induction calls with
  | nil => exact .refl _
  | cons call rest ih =>
    have hsplit : clausesIn (call :: rest) = fun bucket ↦
        clausesIn [call] bucket ++ clausesIn rest bucket :=
      funext (clausesIn_append [call] rest)
    have hone : Bucket.all.flatMap (clausesIn [call]) = (kept [call]).map clause := by
      simp only [Bucket.all, List.flatMap_cons, List.flatMap_nil, clausesIn, kept,
        List.filter_singleton]
      rcases call.place? with _ | _ | _ | _ <;> rfl
    have hkept : kept (call :: rest) = kept [call] ++ kept rest :=
      List.filter_append [call] rest
    rw [hsplit, hkept, List.map_append, ← hone]
    exact (List.flatMap_append_perm _ _ _).symm.trans (ih.append_left _)

end ConditionCall

namespace Step

mutual

/-- The calls for conditions that a step makes. -/
def calls : Step → List ConditionCall
  | .condition bucket clause => [⟨bucket, clause, false⟩]
  | .orGroup steps => (callsOfAll steps).map ConditionCall.grouped
  | _ => []

/-- The calls for conditions that steps make, in order. -/
def callsOfAll : List Step → List ConditionCall
  | [] => []
  | step :: rest => step.calls ++ callsOfAll rest

end

mutual

/-- Does the step choose no scope, on the query or inside a group? -/
def isScopeFree : Step → Bool
  | .withTrashed => false
  | .onlyTrashed => false
  | .orGroup steps => areScopeFree steps
  | _ => true

/-- Do the steps choose no scope, on the query or inside a group? -/
def areScopeFree : List Step → Bool
  | [] => true
  | step :: rest => step.isScopeFree && areScopeFree rest

end

end Step

/-! ### What steps add to the buckets -/

theorem Node.clausesOfAll_append (first second : List Node) :
    clausesOfAll (first ++ second) = clausesOfAll first ++ clausesOfAll second := by
  simp only [clausesOfAll_eq_flatMap, List.flatMap_append]

/-- The clauses that a query for records of the schema starts with. -/
def Schema.seed (schema : Schema) : List Clause :=
  if schema.softDelete then [softDeleteClause 0] else []

namespace Query

/-- The clauses of the conditions in one bucket. -/
def clausesIn (query : Query) (bucket : Bucket) : List Clause :=
  Node.clausesOfAll (query.criteria.conditions.bucket bucket)

theorem clausesIn_push (query : Query) (a b : Bucket) (node : Node) :
    (query.push a node).clausesIn b =
      query.clausesIn b ++ if a = b then node.clauses else [] := by
  rw [clausesIn, push, Conditions.bucket_push, Node.clausesOfAll_append]
  split_ifs
  · simp [clausesIn, Node.clausesOfAll]
  · rfl

theorem clausesIn_bareQuery (schema : Schema) (bucket : Bucket) :
    schema.bareQuery.clausesIn bucket = [] := by
  cases bucket <;> rfl

mutual

/-- A step adds to each bucket the clauses that its calls leave there. -/
theorem clausesIn_apply (query : Query) (bucket : Bucket) : ∀ {step : Step},
    step.isScopeFree = true → (step.apply query).clausesIn bucket =
      query.clausesIn bucket ++ ConditionCall.clausesIn step.calls bucket
  | .condition place clause, _ => by
    rw [Step.apply, clausesIn_push]
    cases place <;> cases bucket <;> rfl
  | .orGroup steps, h => by
    -- The group is built from a bare query, and only its `must` goes into the condition.
    have hinner := clausesIn_refine query.schema.bareQuery .must h
    rw [clausesIn_bareQuery, List.nil_append] at hinner
    rw [Step.apply, clausesIn_push, Step.calls, ConditionCall.clausesIn_map_grouped]
    refine congrArg (query.clausesIn bucket ++ ·) ?_
    cases bucket with
    | must => exact hinner
    | mustNot | should => rfl
  | .withTrashed, h | .onlyTrashed, h => absurd h Bool.false_ne_true
  | .orderBy .., _ | .groupBy .., _ | .union _, _ | .select _, _ | .collapse _, _
  | .minScore _, _ | .offset _, _ | .limit _, _ | .load .., _ | .rule _, _ | .callback _, _
  | .useAlias _, _ => (List.append_nil _).symm

/-- Steps add to each bucket the clauses that their calls leave there. -/
theorem clausesIn_refine (query : Query) (bucket : Bucket) : ∀ {steps : List Step},
    Step.areScopeFree steps = true → (query.refine steps).clausesIn bucket =
      query.clausesIn bucket ++ ConditionCall.clausesIn (Step.callsOfAll steps) bucket
  | [], _ => (List.append_nil _).symm
  | step :: rest, h => by
    rw [Step.areScopeFree, Bool.and_eq_true] at h
    rw [refine_cons, clausesIn_refine _ bucket h.2, clausesIn_apply query bucket h.1,
      Step.callsOfAll, ConditionCall.clausesIn_append, List.append_assoc]

end

/-! ### The clauses of a refined query -/

theorem clausesIn_start {schema : Schema} {start : Query}
    (hstart : start = schema.query ∨ ∃ text, start = schema.search text) (bucket : Bucket) :
    start.clausesIn bucket = if bucket = .must then schema.seed else [] := by
  have hquery : schema.query.clausesIn bucket = if bucket = .must then schema.seed else [] := by
    rw [Schema.query, Schema.seed]
    split <;> cases bucket <;> rfl
  rcases hstart with rfl | ⟨text, rfl⟩
  · exact hquery
  · rw [← hquery, Schema.search]
    split <;> rfl

/-- **What calls leave of their conditions.** Take a query for records of a schema, with free text
or without, and refine it by steps that choose no scope, with groups of alternatives nested to any
depth. Each bucket has the clauses of the calls that are kept in it, in their order, and `must`
starts with the seed; there are no other clauses. So there are as many clauses as calls, the seed
counted besides, exactly if no call inside a group is a negation or an alternative. -/
theorem clauses_refine_kept (schema : Schema) (start : Query)
    (hstart : start = schema.query ∨ ∃ text, start = schema.search text) (steps : List Step)
    (hsteps : Step.areScopeFree steps = true) :
    let query := start.refine steps
    let clauses := query.criteria.conditions.clauses
    let calls := Step.callsOfAll steps
    (∀ bucket, query.clausesIn bucket =
      (if bucket = .must then schema.seed else []) ++ ConditionCall.clausesIn calls bucket) ∧
      clauses.Perm (schema.seed ++ (ConditionCall.kept calls).map ConditionCall.clause) ∧
      (clauses.length = calls.length + schema.seed.length ↔
        ∀ call ∈ calls, call.inGroup = true → call.bucket = .must) := by
  intro query clauses calls
  have hbuckets : ∀ bucket, query.clausesIn bucket =
      (if bucket = .must then schema.seed else []) ++ ConditionCall.clausesIn calls bucket :=
    fun bucket ↦ by rw [clausesIn_refine start bucket hsteps, clausesIn_start hstart]
  have hclauses : clauses =
      schema.seed ++ Bucket.all.flatMap (ConditionCall.clausesIn calls) := by
    show Bucket.all.flatMap query.clausesIn = _
    rw [funext hbuckets]
    simp [Bucket.all]
  have hperm : clauses.Perm
      (schema.seed ++ (ConditionCall.kept calls).map ConditionCall.clause) := by
    rw [hclauses]
    exact (ConditionCall.flatMap_clausesIn_perm calls).append_left _
  refine ⟨hbuckets, hperm, ?_⟩
  rw [hperm.length_eq, List.length_append, List.length_map, Nat.add_comm, Nat.add_right_cancel_iff,
    ConditionCall.kept, List.length_filter_eq_length_iff]
  refine forall₂_congr fun call _ ↦ ?_
  rw [ConditionCall.isSome_place?]

/-- Steps with negations and alternatives, some of them inside groups. -/
def groupedSteps : List Step :=
  [.whereCmp "team" .gt (.ofNat 1), .orWhere "team" (.string "core"),
    .orGroup [.whereEq "a" (.ofNat 1), .whereNotIn "b" [.ofNat 2],
      .orGroup [.whereContains "c" (.string "x"), .orWhere "d" .null], .limit 5],
    .orderByField "team" .ascending, .whereAbsent "e"]

/-- Of eight clauses, the seed among them, the two are lost that are a negation and an alternative
inside groups. -/
theorem clauses_refine_kept_posts :
    let schema := { Schema.ofTable "posts" with softDelete := true }
    let query := (schema.search "x").refine groupedSteps
    Step.areScopeFree groupedSteps = true ∧
      query.clausesIn .must = [softDeleteClause 0, .range "team" { gt := some (.ofNat 1) },
        .term "a" (.ofNat 1), .contains "c" (.string "x")] ∧
      query.clausesIn .mustNot = [.present "e"] ∧
      query.clausesIn .should = [.term "team" (.string "core")] ∧
      (Step.callsOfAll groupedSteps).length = 7 ∧
      query.criteria.conditions.clauses.length ≠ 8 := by
  intro schema query
  have hsteps : Step.areScopeFree groupedSteps = true := by decide
  obtain ⟨hbuckets, -, hcount⟩ :=
    clauses_refine_kept schema (schema.search "x") (.inr ⟨"x", rfl⟩) groupedSteps hsteps
  refine ⟨hsteps, hbuckets .must, hbuckets .mustNot, hbuckets .should, rfl, fun hlength ↦ ?_⟩
  exact absurd (hcount.1 hlength) (by decide)

/-- The one call of a query, for an absent field inside a group, leaves no clause at all. -/
theorem absence_lost_in_group :
    let steps := [Step.orGroup [.whereAbsent "a"]]
    Step.areScopeFree steps = true ∧
      Step.callsOfAll steps = [⟨.mustNot, .present "a", true⟩] ∧
      ((Schema.ofTable "users").query.refine steps).criteria.conditions.clauses = [] := by
  decide

end Query

end RecordSearch
