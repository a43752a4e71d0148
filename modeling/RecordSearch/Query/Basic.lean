import RecordSearch.Exchange
import RecordSearch.Schema
/-!
# Queries

A `Query` asks for records of one schema. It starts plain (`Schema.query`, `Schema.search`) and is
refined by steps: `Step` is one refinement, `Step.apply` carries it out and `Query.refine` carries
out several. Groups of alternatives and constraints on relations are themselves lists of steps,
which is what makes a query a finite, inspectable value.

Refining never changes the schema (`schema_refine`).
-/

namespace RecordSearch

/-- The attribute that marks a record as deleted. -/
def softDeleteField : String := "__soft_deleted"

/-- The condition on the deletion mark; zero means kept, one means deleted. -/
def softDeleteClause (mark : Nat) : Clause :=
  .term softDeleteField (.ofNat mark)

/-- A search done by hand: from the free text and the options to an exchange with the backend,
whose result is the response. -/
abbrev Callback : Type :=
  Option String → Options → Fetch Json

/-! ### Steps -/

/-- One refinement of a query. -/
inductive Step where
  /-- A clause in a bucket. -/
  | condition (bucket : Bucket) (clause : Clause)
  /-- A group of alternatives: at least one of the `must` conditions of the steps has to hold. -/
  | orGroup (steps : List Step)
  /-- Find deleted records too. -/
  | withTrashed
  /-- Find deleted records only. -/
  | onlyTrashed
  /-- One more sort entry. -/
  | orderBy (entry : Json)
  /-- An aggregation of a type under a name. -/
  | groupBy (spec : Json) (type name : String)
  /-- The indices searched besides the base index. -/
  | union (indices : List String)
  /-- Further fields to return. -/
  | select (fields : List String)
  /-- The field by which documents are folded. -/
  | collapse (field : String)
  /-- The least score. -/
  | minScore (score : Binary64)
  /-- The number of documents passed over. -/
  | offset (count : Nat)
  /-- The greatest number of documents returned. -/
  | limit (count : Nat)
  /-- A relation loaded along, its query perhaps refined. -/
  | load (name : String) (constraint : Option (List Step))
  /-- One more rule for the free text. -/
  | rule (added : Rule)
  /-- A search done by hand. -/
  | callback (byHand : Callback)
  /-- The alias searched in place of the base index. -/
  | useAlias (name : String)

/-- A relation to load along. -/
structure Load where
  /-- The relation, or with dots a path of relations. -/
  name : String
  /-- Refinements of the query for the related records. -/
  constraint : Option (List Step) := none

namespace Load

/-- A path of relations is loaded by the query for its first part. -/
def isNested (load : Load) : Bool :=
  load.name.toList.contains '.'

/-- A summary of the load in one line. -/
def summary (load : Load) : String :=
  "EagerLoad \x7b name: " ++ Text.quoted load.name ++ ", constrained: " ++
    (if load.constraint.isSome then "true" else "false") ++ " \x7d"

end Load

/-! ### Queries -/

/-- A request for records of a schema. -/
structure Query where
  /-- The schema of the records. -/
  schema : Schema
  /-- What is said about the result. -/
  criteria : Criteria := {}
  /-- The relations loaded along. -/
  loads : List Load := []
  /-- Rules in place of the schema's. -/
  rules : List Rule := []
  /-- A search done by hand. -/
  callback : Option Callback := none

namespace Query

/-- The query with one more condition. -/
def push (query : Query) (bucket : Bucket) (node : Node) : Query :=
  { query with
    criteria.conditions := query.criteria.conditions.push bucket node }

/-- The query that finds deleted records too. -/
def withTrashed (query : Query) : Query :=
  { query with
    criteria.conditions.must :=
      query.criteria.conditions.must.filter fun node ↦ !node.isLeaf (softDeleteClause 0) }

/-- The query that finds deleted records only. -/
def onlyTrashed (query : Query) : Query :=
  query.withTrashed.push .must (.leaf (softDeleteClause 1))

/-- The query with one more aggregation. -/
def groupBy (query : Query) (spec : Json) (type name : String) : Query :=
  { query with
    criteria.groups := query.criteria.groups.alter name fun found ↦
      .ofObject ((found.getD .emptyObject).fieldsOrNone.insert type spec) }

/-- The query that returns further fields; a field is named once. -/
def select (query : Query) (fields : List String) : Query :=
  { query with
    criteria.select := fields.foldl (fun named field ↦
      if named.contains field then named else named ++ [field]) query.criteria.select }

end Query

/-- A query without any refinement, not even for deleted records. -/
def Schema.bareQuery (schema : Schema) : Query :=
  { schema := schema }

/-- The query for all records of a schema; records marked as deleted are left out. -/
def Schema.query (schema : Schema) : Query :=
  if schema.softDelete then schema.bareQuery.push .must (.leaf (softDeleteClause 0))
  else schema.bareQuery

/-- The query for a free text; an asterisk stands for all records. -/
def Schema.search (schema : Schema) (text : String) : Query :=
  if text = "*" then schema.query
  else
    let query := schema.query
    { query with criteria.freeText := some text }

mutual

/-- Carry out one refinement. -/
def Step.apply : Step → Query → Query
  | .condition bucket clause, query => query.push bucket (.leaf clause)
  | .orGroup steps, query =>
    let inner := Step.applyAll steps query.schema.bareQuery
    query.push .must (.group .should inner.criteria.conditions.must)
  | .withTrashed, query => query.withTrashed
  | .onlyTrashed, query => query.onlyTrashed
  | .orderBy entry, query => { query with criteria.sort := query.criteria.sort ++ [entry] }
  | .groupBy spec type name, query => query.groupBy spec type name
  | .union indices, query => { query with criteria.unions := indices }
  | .select fields, query => query.select fields
  | .collapse field, query => { query with criteria.collapse := some field }
  | .minScore score, query => { query with criteria.minScore := some score }
  | .offset count, query => { query with criteria.offset := some count }
  | .limit count, query => { query with criteria.limit := some count }
  | .load name constraint, query => { query with loads := query.loads ++ [⟨name, constraint⟩] }
  | .rule added, query => { query with rules := query.rules ++ [added] }
  | .callback byHand, query => { query with callback := some byHand }
  | .useAlias name, query => { query with criteria.aliasName := some name }

/-- Carry out refinements in order. -/
def Step.applyAll : List Step → Query → Query
  | [], query => query
  | step :: rest, query => Step.applyAll rest (step.apply query)

end

namespace Query

/-- The query after several refinements. -/
def refine (query : Query) (steps : List Step) : Query :=
  Step.applyAll steps query

/-- The query limited to a number of documents. -/
def take (query : Query) (count : Nat) : Query :=
  (Step.limit count).apply query

@[simp]
theorem refine_cons (query : Query) (step : Step) (rest : List Step) :
    query.refine (step :: rest) = (step.apply query).refine rest :=
  rfl

@[simp]
theorem schema_push (query : Query) (bucket : Bucket) (node : Node) :
    (query.push bucket node).schema = query.schema :=
  rfl

/-- A refinement keeps the schema. -/
@[simp]
theorem schema_apply (step : Step) (query : Query) : (step.apply query).schema = query.schema := by
  cases step <;> rfl

/-- Refinements keep the schema. -/
@[simp]
theorem schema_refine (query : Query) (steps : List Step) :
    (query.refine steps).schema = query.schema := by
  induction steps generalizing query with
  | nil => rfl
  | cons step rest ih => rw [refine_cons, ih, schema_apply]

end Query

@[simp]
theorem Schema.schema_query (schema : Schema) : schema.query.schema = schema := by
  rw [Schema.query]
  split <;> rfl

end RecordSearch
