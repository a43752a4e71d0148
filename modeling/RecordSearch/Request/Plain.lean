import RecordSearch.Request.Envelope
/-!
# Plain requests

A plain request is an envelope with a body of named values: a document to write, the settings or
the mapping of an index, or a search written by hand. Without body values it has no body.
-/

namespace RecordSearch

/-- A request with a body of named values. -/
structure PlainRequest where
  /-- Identity, parameters and client options. -/
  envelope : Envelope
  /-- The body. -/
  body : Object := ∅

namespace PlainRequest

/-- The request with a value in its body. -/
def setKey (request : PlainRequest) (key : String) (value : Json) : PlainRequest :=
  { request with body := request.body.insert key value }

/-- The request with a value in its body, if the value says anything. -/
def setKeyIfSaid (request : PlainRequest) (key : String) (value : Json) : PlainRequest :=
  if value.isVoid then request else request.setKey key value

/-- The whole request. -/
def render (request : PlainRequest) : Json :=
  let outer := request.envelope.toObject
  if request.body.isEmpty then .ofObject outer
  else .ofObject (outer.insert "body" (.ofObject request.body))

end PlainRequest

end RecordSearch
