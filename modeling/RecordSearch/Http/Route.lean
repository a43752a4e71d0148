import RecordSearch.Exchange
import RecordSearch.Json.Path
import RecordSearch.Json.Printer
/-!
# Routes

A route is a request as an HTTP call: method, path, query parameters and body. The path is made of
the index names, the document type and the document id or an endpoint, with slashes between them;
what is neither identity, body nor client options is a query parameter.
-/

namespace RecordSearch

/-- The methods of HTTP that are used. -/
inductive Method where
  | head
  | post
  | put
  | delete
deriving DecidableEq, Inhabited

/-- A request as an HTTP call. -/
structure Route where
  /-- The method. -/
  method : Method
  /-- The path, without a slash in front. -/
  path : String
  /-- The query parameters, in order of their names. -/
  params : List (String × String)
  /-- The body. -/
  body : Option Json
deriving DecidableEq

namespace Route

/-- The index names of a request, with commas between them. -/
def indices (request : Json) : Except Error String :=
  match request.field? "index" with
  | some (.string name) => .ok name
  | some (.array items) =>
    match items.filterMap Json.string? with
    | [] => .error (.malformed .noIndexNames)
    | names => .ok (Text.join ',' names)
  | _ => .error (.malformed .noIndex)

/-- A text of a request. -/
def textField (request : Json) (name : String) : Except Error String :=
  match (request.field? name).bind Json.string? with
  | some text => .ok text
  | none => .error (.malformed (.noField name))

/-- The path of an endpoint for documents; a request without a type has none in its path. -/
def endpointPath (request : Json) (endpoint : String) : Except Error String := do
  let names ← indices request
  match (request.field? "type").bind Json.string? with
  | some docType =>
    return if docType.isEmpty then Text.join '/' [names, endpoint]
      else Text.join '/' [names, docType, endpoint]
  | none => return Text.join '/' [names, endpoint]

/-- The path of a document. -/
def documentPath (request : Json) : Except Error String := do
  let names ← indices request
  let docType ← textField request "type"
  let id ← textField request "id"
  return Text.join '/' [names, docType, id]

/-- Is a field of a request something else than a query parameter? -/
def isEnvelopeKey (key : String) : Bool :=
  ["index", "type", "id", "body", "client"].contains key

/-- A value as a query parameter: texts as they are, other values as JSON. -/
def paramText : Json → String
  | .string text => text
  | other => other.write

/-- The query parameters of a request. -/
def queryParams : Json → List (String × String)
  | .object fields =>
    (fields.filter fun field ↦ !isEnvelopeKey field.1).map fun field ↦
      (field.1, paramText field.2)
  | _ => []

/-- The path of a mapping. -/
def mappingPath (request : Json) : Except Error String := do
  let docType ← textField request "type"
  let names ← indices request
  return Text.join '/' [names, "_mapping", docType]

/-- The body of a mapping request: what stands under the document type, else the whole body. -/
def mappingBody (request : Json) : Option Json :=
  let docType := ((request.field? "type").bind Json.string?).getD ""
  match request.at? ("body" :: slashPath docType.toList) with
  | some mapping => some mapping
  | none => request.field? "body"

/-- The body of a count request: only the query counts. -/
def countBody (request : Json) : Option Json :=
  (request.at? ["body", "query"]).map (.single "query")

/-- The method, the path and the body of a request. -/
def parts (op : Operation) (request : Json) : Except Error (Method × String × Option Json) := do
  let body := request.field? "body"
  match op with
  | .search => return (.post, ← endpointPath request "_search", body)
  | .count => return (.post, ← endpointPath request "_count", countBody request)
  | .index => return (.put, ← documentPath request, body)
  | .delete => return (.delete, ← documentPath request, none)
  | .indexExists => return (.head, ← indices request, none)
  | .createIndex => return (.put, ← indices request, body)
  | .putMapping => return (.put, ← mappingPath request, mappingBody request)

/-- The route of a request. -/
def ofRequest (op : Operation) (request : Json) : Except Error Route := do
  let (method, path, body) ← parts op request
  return { method, path, params := queryParams request, body }

end Route

end RecordSearch
