import RecordSearch.Engine.Caches
import RecordSearch.Engine.Indexer
import RecordSearch.Engine.Lifecycle
import RecordSearch.Query.Read
/-!
# Keeping the index in step

An engine writes records into the index and deletes them from it. Before the first write to a
table it brings the index and its mapping up to date; the tables for which this succeeded are
remembered and not looked at again.
-/

namespace RecordSearch

/-- What keeps an index in step with records. -/
structure Engine where
  /-- What writes the documents. -/
  indexer : Indexer := {}
  /-- Are mappings written before the first document of a table? -/
  updateMapping : Bool := true
deriving DecidableEq

namespace Engine

/-- Bring the mapping for an entry up to date, unless this was done for its table before. A table
whose mapping could not be written is not remembered. -/
def syncEntry (entry : Entry) : Job Unit := do
  if entry.projection.isEmpty then pure ()
  else do
    let table := entry.schema.table
    let caches ← get
    let (isNew, memo) := caches.memo.claim table
    set { caches with memo := memo }
    if isNew then
      match ← Job.attempt entry.schema.syncMapping with
      | .ok () => pure ()
      | .error e => do
        modify fun caches ↦ { caches with memo := caches.memo.release table }
        throw e
    else pure ()

/-- Bring the mappings for entries up to date, in order. -/
def syncAll : List Entry → Job Unit
  | [] => pure ()
  | entry :: rest => do
    syncEntry entry
    syncAll rest

/-- Write entries into the index. -/
def update (engine : Engine) (entries : List Entry) : Job Report := do
  if engine.updateMapping then syncAll entries
  Job.ofFetch (engine.indexer.writeAll entries)

/-- Delete the documents of entries from the index. -/
def delete (engine : Engine) (entries : List Entry) : Job Report :=
  Job.ofFetch (engine.indexer.removeAll entries)

/-- Write attributes over all records that a query finds. Each record is changed at a time of its
own, which `clock` tells for its place. -/
def updateMatching (engine : Engine) (clock : Nat → String) (query : Query) (attributes : Object) :
    Job Report := do
  if attributes.isEmpty then pure {}
  else do
    let mapped ← Job.ofFetch query.get
    engine.update (mapped.toRecords.mapIdx fun place record ↦
      ((record.fill attributes).touch (clock place)).toEntry)

/-- Delete the documents of all records that a query finds. -/
def deleteMatching (engine : Engine) (query : Query) : Job Report := do
  let mapped ← Job.ofFetch query.get
  match mapped.toRecords with
  | [] => pure {}
  | records => engine.delete (records.map Record.toEntry)

end Engine

end RecordSearch
