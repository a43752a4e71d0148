import RecordSearch.Engine.Basic
import RecordSearch.Text.CommaList
/-!
# Writing a whole source again

A source hands out its entries in chunks from any offset on, all of them or those of some ids.
`Engine.resync` writes the chunks one after the other, up to an empty chunk or one that is not
full. The source promises a bound from which on its chunks are empty, so this ends.
-/

namespace RecordSearch

/-- Where the entries of a table come from. -/
structure EntrySource where
  /-- How many entries there are. -/
  count : Option (List String) → Except Error Nat
  /-- The entries from an offset on, up to a limit. -/
  chunk : Option (List String) → Nat → Nat → Except Error (List Entry)
  /-- An offset from which on there are no entries. -/
  bound : Option (List String) → Nat
  /-- From the bound on every chunk is empty. -/
  chunk_eq_nil : ∀ ids offset limit entries, bound ids ≤ offset →
    chunk ids offset limit = .ok entries → entries = []

namespace EntrySource

/-- The entries that a list of ids selects, by key; without a list all of them. -/
def selected (entries : List Entry) : Option (List String) → List Entry
  | none => entries
  | some ids => entries.filter fun entry ↦ entry.key.any ids.contains

/-- The source that hands out a list. -/
def ofList (entries : List Entry) : EntrySource where
  count ids := .ok (selected entries ids).length
  chunk ids offset limit := .ok (((selected entries ids).drop offset).take limit)
  bound ids := (selected entries ids).length
  chunk_eq_nil ids offset limit found hle h := by
    simp only [Except.ok.injEq] at h
    rw [← h, List.drop_eq_nil_of_le hle, List.take_nil]

end EntrySource

/-- What a resync did. -/
structure ResyncReport where
  /-- The number of entries that the source reported. -/
  total : Nat := 0
  /-- The number of chunks written. -/
  chunks : Nat := 0
  /-- The documents written. -/
  indexed : Nat := 0
  /-- The entries without contents. -/
  skipped : Nat := 0
deriving DecidableEq

/-- The report after one more chunk. -/
def ResyncReport.addChunk (report : ResyncReport) (written : Report) : ResyncReport :=
  { report with
    chunks := report.chunks + 1
    indexed := report.indexed + written.indexed
    skipped := report.skipped + written.skipped }

namespace Engine

/-- The number of entries in a full chunk. -/
def chunkSize : Nat := 100

/-- Write the chunks of a source from an offset on. -/
def writeChunks (engine : Engine) (source : EntrySource) (ids : Option (List String))
    (offset : Nat) (report : ResyncReport) : Job ResyncReport :=
  match _h : source.chunk ids offset chunkSize with
  | .error e => throw e
  | .ok [] => pure report
  | .ok (entry :: rest) => do
    let written ← engine.update (entry :: rest)
    let report := report.addChunk written
    if (entry :: rest).length < chunkSize then pure report
    else writeChunks engine source ids (offset + (entry :: rest).length) report
termination_by source.bound ids - offset
decreasing_by
  have hlt : offset < source.bound ids := by
    refine Nat.lt_of_not_le fun hle ↦ ?_
    have := source.chunk_eq_nil ids offset chunkSize _ hle _h
    simp at this
  simp only [List.length_cons]
  omega

/-- Write all entries of a source, or those of a comma-separated list of ids. -/
def resync (engine : Engine) (source : EntrySource) (ids : Option String) : Job ResyncReport := do
  let ids := ids.bind Text.commaList?
  match source.count ids with
  | .error e => throw e
  | .ok total => engine.writeChunks source ids 0 { total := total }

end Engine

end RecordSearch
