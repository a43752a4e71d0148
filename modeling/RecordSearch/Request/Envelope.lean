import RecordSearch.Schema
import RecordSearch.Error
/-!
# Envelopes

The envelope of a request is its identity (target indices, document type and document id) with
parameters and client options. The identity is set when the envelope is made; later only the
target changes, and only by `useAlias` and `addUnions`. A parameter never takes the place of a part
of the identity: `setParam` refuses the three protected keys.
-/

namespace RecordSearch

/-- The indices that a request goes to. -/
inductive Target where
  /-- One index. -/
  | single (name : String)
  /-- A list of indices. -/
  | many (names : List String)
deriving DecidableEq, Inhabited

namespace Target

/-- The indices in order. -/
def names : Target → List String
  | single name => [name]
  | many names => names

/-- The target in a request: one name, or a list of names. -/
def render : Target → Json
  | single name => .string name
  | many names => .ofStrings names

end Target

/-- The identity of a request, its parameters and its client options. -/
structure Envelope where
  /-- The indices. -/
  target : Target
  /-- The document type. -/
  docType : Option String := none
  /-- The document. -/
  id : Option String := none
  /-- The parameters. -/
  params : Object := ∅
  /-- The client options. -/
  client : Object := ∅
deriving DecidableEq

namespace Envelope

/-- The envelope of a request to the index of a schema. -/
def forIndex (schema : Schema) : Envelope :=
  { target := .single schema.indexName }

/-- The envelope of a request to the documents of a schema. -/
def forType (schema : Schema) : Envelope :=
  { forIndex schema with docType := some schema.typeName }

/-- The envelope of a request to one document of a schema, whose key has to be known. -/
def forDocument (schema : Schema) (key : Option String) : Except Error Envelope :=
  match key with
  | some id => .ok { forType schema with id := some id }
  | none => .error (.configuration (.missingKey schema.table))

/-- Is the key a part of the identity? -/
def isProtected (key : String) : Bool :=
  key == "index" || key == "type" || key == "id"

/-- The value of a parameter. -/
def param? (envelope : Envelope) (key : String) : Option Json :=
  envelope.params.get? key

/-- The envelope with a parameter. -/
def setParam (envelope : Envelope) (key : String) (value : Json) : Except Error Envelope :=
  if isProtected key then .error (.configuration (.protectedKey key))
  else .ok { envelope with params := envelope.params.insert key value }

/-- The envelope with a client option. -/
def setClient (envelope : Envelope) (key : String) (value : Json) : Envelope :=
  { envelope with client := envelope.client.insert key value }

/-- The envelope to the index that an alias of the schema stands for. -/
def useAlias (envelope : Envelope) (schema : Schema) (name : String) : Except Error Envelope :=
  match schema.aliasIndex? name with
  | some index => .ok { envelope with target := .single index }
  | none => .error (.configuration (.unknownAlias schema.table name))

/-- The envelope to further indices, behind the ones it goes to already. -/
def addUnions (envelope : Envelope) (indices : List String) : Envelope :=
  if indices.isEmpty then envelope
  else { envelope with target := .many (envelope.target.names ++ indices) }

/-- The identity of a request. -/
def identity (envelope : Envelope) : Object :=
  let target := Dict.single "index" envelope.target.render
  let typed := match envelope.docType with
    | some docType => target.insert "type" (.string docType)
    | none => target
  match envelope.id with
  | some id => typed.insert "id" (.string id)
  | none => typed

/-- The request without a body: identity and parameters, and the client options if there are
any. -/
def toObject (envelope : Envelope) : Object :=
  let request := envelope.identity.overlay envelope.params
  if envelope.client.isEmpty then request
  else request.insert "client" (.ofObject envelope.client)

end Envelope

end RecordSearch
