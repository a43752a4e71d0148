import RecordSearch.Query.Compile
import RecordSearch.Request.Plain
import RecordSearch.Response
/-!
# Searching and counting

The compiled requests of a query are sent one after the other until one has results: the first
answer with a total above zero is the response, else the last one. An error ends the search. A
query with a search done by hand sends nothing of its own.
-/

namespace RecordSearch

/-- Send search requests in order up to the first answer with results. The second argument is the
response so far. -/
def firstWithHits : List SearchRequest → Response → Fetch Response
  | [], last => pure last
  | request :: rest, _ => do
    let payload := request.render
    let body ← Fetch.ask .search payload
    let response : Response := { body := body, payload := some payload }
    if response.total > 0 then pure response else firstWithHits rest response

/-- The number that a count answer carries. -/
def readCount (answer : Json) : Except Error Nat :=
  match (answer.field? "count").bind Json.nat? with
  | some n => .ok n
  | none => .error (.malformed .noCount)

/-- Send count requests in order up to the first count above zero. The second argument is the
count so far. -/
def firstCount : List SearchRequest → Nat → Fetch Nat
  | [], last => pure last
  | request :: rest, _ => do
    let answer ← Fetch.ask .count request.render
    let count ← Fetch.ofExcept (readCount answer)
    if count > 0 then pure count else firstCount rest count

namespace Query

/-- The response to a query. -/
def respond (query : Query) (options : Options) : Fetch Response :=
  match query.callback with
  | some byHand => do
    let body ← byHand query.criteria.freeText options
    pure { body := body }
  | none => do
    let requests ← Fetch.ofExcept (query.compile options)
    firstWithHits requests {}

/-- The response to a query. -/
def search (query : Query) : Fetch Response :=
  query.respond {}

/-- The response to a query, scores explained. -/
def explain (query : Query) : Fetch Response :=
  query.respond .explaining

/-- The response to a query, timing reported. -/
def profile (query : Query) : Fetch Response :=
  query.respond .profiling

/-- The number of results of a query. -/
def count (query : Query) : Fetch Nat := do
  let requests ← Fetch.ofExcept (query.compile .counting)
  firstCount requests 0

/-- The ids of the documents that a query finds. -/
def keys (query : Query) : Fetch (List String) := do
  let response ← query.search
  pure response.ids

end Query

/-- The answer to a search of a schema's documents with a body written by hand. -/
def Schema.searchBody (schema : Schema) (body : Object) : Fetch Json :=
  Fetch.ask .search (PlainRequest.render { envelope := .forType schema, body := body })

end RecordSearch
