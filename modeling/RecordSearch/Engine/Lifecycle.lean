import RecordSearch.Request.Plain
import RecordSearch.Exchange
/-!
# The life of an index

An index is created when the first record is written: `ensureIndex` asks whether it exists, a
question without an answer counting as no, creates it and writes its mapping. `syncMapping` leaves
an index behind whose mapping is written in any case.
-/

namespace RecordSearch.Schema

/-- Create the index of a schema, with the schema's settings if there are any. -/
def createIndex (schema : Schema) : Fetch Unit := do
  let request : PlainRequest := { envelope := .forIndex schema }
  let _ ← Fetch.ask .createIndex
    (request.setKeyIfSaid "settings" (.ofObject schema.settings)).render

/-- The request that writes the mapping of a schema; an empty mapping is not written. -/
def mappingRequest (schema : Schema) : Except Error PlainRequest :=
  if schema.mapping.isEmpty then .error (.configuration (.missingMapping schema.table))
  else do
    let envelope ← (Envelope.forType schema).setParam "include_type_name" (.bool true)
    let request : PlainRequest := { envelope := envelope }
    return request.setKey schema.typeName (.ofObject schema.mapping)

/-- Write the mapping of a schema. -/
def updateMapping (schema : Schema) : Fetch Unit := do
  let request ← Fetch.ofExcept schema.mappingRequest
  let _ ← Fetch.ask .putMapping request.render

/-- Does the index of a schema exist? A question that fails counts as no. -/
def indexExists (schema : Schema) : Fetch Bool := do
  let reply ← Fetch.attempt .indexExists (PlainRequest.render { envelope := .forIndex schema })
  match reply with
  | .ok found => pure found
  | .error _ => pure false

/-- Create the index of a schema and write its mapping unless the index exists; the answer is
whether it was created. -/
def ensureIndex (schema : Schema) : Fetch Bool := do
  if ← schema.indexExists then pure false
  else do
    schema.createIndex
    schema.updateMapping
    pure true

/-- Write the mapping of a schema, creating the index if it is missing. -/
def syncMapping (schema : Schema) : Fetch Unit := do
  if ← schema.ensureIndex then pure ()
  else schema.updateMapping

end RecordSearch.Schema
