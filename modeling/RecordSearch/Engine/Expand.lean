import RecordSearch.Engine.Caches
import RecordSearch.Query.Read
/-!
# Records by id, remembered

`Schema.expanded` answers from the record cache and asks the backend for an id only once, also if
there is no such record. `Schema.expand` fetches the records of many ids with one query and
remembers each under its own key.
-/

namespace RecordSearch.Schema

/-- The query for the records of some ids. -/
def expandQuery (schema : Schema) (ids : List Json) : Query :=
  (schema.query.refine [.whereIn schema.keyName ids]).take ids.length

/-- Remember records under their keys; a record without a key is not remembered. -/
def remember (schema : Schema) (records : List Record) (cache : RecordCache) : RecordCache :=
  records.foldl (fun cache record ↦
    match record.key? with
    | some key => cache.insert schema.table key (some record)
    | none => cache) cache

/-- Fetch and remember the records of some ids; the answer is how many there are. -/
def expand (schema : Schema) (ids : List Json) : Job Nat := do
  if ids.isEmpty then pure 0
  else do
    let mapped ← Job.ofFetch (schema.expandQuery ids).get
    let records := mapped.toRecords
    modify fun caches ↦ { caches with records := schema.remember records caches.records }
    pure records.length

/-- The record of an id, as remembered or else as found. -/
def expanded (schema : Schema) (id : Json) : Job (Option Record) := do
  match id.scalarText? with
  | none => throw (.configuration (.unfitId schema.table))
  | some key => do
    let caches ← get
    match caches.records.get? schema.table key with
    | some known => pure known
    | none => do
      let found ← Job.ofFetch (schema.find id)
      modify fun caches ↦
        { caches with records := caches.records.insert schema.table key found }
      pure found

end RecordSearch.Schema
