import RecordSearch.Query.Basic
import RecordSearch.Request.Search
/-!
# Compiled queries

`Query.compile` turns a query into the search requests that are tried in order. A free text gives
one request per rule that applies; a query without free text, or one to whose text no rule
applies, gives the request for all documents. Every request then gets the query's criteria: the
conditions go into its filter, bucket by bucket.
-/

namespace RecordSearch

namespace Rule

/-- The request of a rule, before the criteria are added; none if the rule does not apply. -/
def request? (rule : Rule) (criteria : Criteria) (options : Options) (envelope : Envelope) :
    Option SearchRequest :=
  let empty : SearchRequest := { envelope := envelope }
  match rule with
  | callable fragment => some (empty.setQuery (fragment criteria))
  | conditional applies fragment highlight =>
    if applies criteria then
      let request := empty.setQuery (fragment criteria)
      some (if options.highlight then request.setHighlight (highlight criteria) else request)
    else none

end Rule

namespace SearchRequest

/-- The request with the conditions of every bucket in its filter. -/
def withConditions (request : SearchRequest) (conditions : Conditions) : SearchRequest :=
  Bucket.all.foldl (fun request bucket ↦ request.mergeFilter bucket (conditions.render bucket))
    request

/-- The request to the alias and the further indices of a query. -/
def withTarget (request : SearchRequest) (schema : Schema) (criteria : Criteria) :
    Except Error SearchRequest := do
  let envelope ← match criteria.aliasName with
    | some name => request.envelope.useAlias schema name
    | none => .ok request.envelope
  return { request with envelope := envelope.addUnions criteria.unions }

/-- The request with the criteria of a query. -/
def withCriteria (request : SearchRequest) (schema : Schema) (criteria : Criteria)
    (options : Options) : Except Error SearchRequest :=
  let shaped := request
    |>.setSource criteria.select
    |>.setCollapse criteria.collapse
    |>.setSort criteria.sort
    |>.setExplain options.explain
    |>.setProfile options.profile
    |>.setMinScore criteria.minScore
    |>.setOffset criteria.offset
    |>.setSize criteria.limit
  ((shaped.withConditions criteria.conditions).setAggs criteria.groups).withTarget schema criteria

end SearchRequest

namespace Query

/-- The rules for the free text: the query's own if it has any, else the schema's. -/
def effectiveRules (query : Query) : List Rule :=
  if query.rules.isEmpty then query.schema.rules else query.rules

/-- The requests of the rules, before the criteria are added. -/
def ruleRequests (query : Query) (options : Options) : List SearchRequest :=
  if query.criteria.freeText.isSome then
    query.effectiveRules.filterMap fun rule ↦
      rule.request? query.criteria options (.forType query.schema)
  else []

/-- The requests that are tried, before the criteria are added; at least one. -/
def baseRequests (query : Query) (options : Options) : List SearchRequest :=
  match query.ruleRequests options with
  | [] => [SearchRequest.setMatchAll { envelope := .forType query.schema }]
  | requests => requests

/-- The search requests of a query, in the order in which they are tried. -/
def compile (query : Query) (options : Options) : Except Error (List SearchRequest) :=
  (query.baseRequests options).mapM fun request ↦
    request.withCriteria query.schema query.criteria options

end Query

end RecordSearch
