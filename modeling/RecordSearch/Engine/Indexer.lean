import RecordSearch.Record
import RecordSearch.Request.Plain
/-!
# Writing documents

An indexer writes and deletes documents one at a time, in order, and stops at the first error. An
entry without contents is skipped; a document that is not there counts as deleted.
-/

namespace RecordSearch

/-- How many documents were written or deleted, and how many entries were skipped. -/
structure Report where
  /-- The documents written or deleted. -/
  indexed : Nat := 0
  /-- The entries without contents. -/
  skipped : Nat := 0
deriving DecidableEq, Inhabited

/-- Both reports as one. -/
def Report.merge (a b : Report) : Report :=
  ⟨a.indexed + b.indexed, a.skipped + b.skipped⟩

/-- What writes documents one at a time. -/
structure Indexer where
  /-- When a write becomes visible, if the backend is told so. -/
  refresh : Option String := none
deriving DecidableEq

namespace Indexer

/-- The request for the document of an entry, without contents. -/
def documentRequest (indexer : Indexer) (entry : Entry) : Except Error PlainRequest := do
  let envelope ← Envelope.forDocument entry.schema entry.key
  let envelope ← match indexer.refresh with
    | some refresh => envelope.setParam "refresh" (.string refresh)
    | none => .ok envelope
  return { envelope := envelope }

/-- Write one entry. -/
def write (indexer : Indexer) (entry : Entry) : Fetch Report :=
  if entry.projection.isEmpty then pure { skipped := 1 }
  else do
    let request ← Fetch.ofExcept (indexer.documentRequest entry)
    let _ ← Fetch.ask .index (PlainRequest.render { request with body := entry.projection })
    pure { indexed := 1 }

/-- Delete the document of one entry. -/
def remove (indexer : Indexer) (entry : Entry) : Fetch Report := do
  let request ← Fetch.ofExcept (indexer.documentRequest entry)
  let envelope := request.envelope.setClient "ignore" (.ofNat 404)
  let reply ← Fetch.attempt .delete (PlainRequest.render { request with envelope := envelope })
  match reply with
  | .ok _ => pure { indexed := 1 }
  | .error .notFound => pure { indexed := 1 }
  | .error e => throw e

/-- Do one thing after the other with all entries. -/
def forAll (act : Entry → Fetch Report) : List Entry → Report → Fetch Report
  | [], report => pure report
  | entry :: rest, report => do
    let one ← act entry
    forAll act rest (report.merge one)

/-- Write entries in order. -/
def writeAll (indexer : Indexer) (entries : List Entry) : Fetch Report :=
  forAll indexer.write entries {}

/-- Delete the documents of entries in order. -/
def removeAll (indexer : Indexer) (entries : List Entry) : Fetch Report :=
  forAll indexer.remove entries {}

end Indexer

end RecordSearch
