import RecordSearch.Exchange
import RecordSearch.Record
/-!
# What an engine remembers

Between requests an engine remembers the tables whose mapping is in the index (`MappingMemo`) and
the records that were looked up by id, misses included (`RecordCache`). A `Job` is an exchange
that reads and changes these memories; what it changed stays changed when it fails.
-/

namespace RecordSearch

/-- The tables whose mapping was written. -/
structure MappingMemo where
  /-- The tables. -/
  tables : Dict Unit := ∅
deriving DecidableEq

namespace MappingMemo

/-- Is the mapping of the table written? -/
def contains (memo : MappingMemo) (table : String) : Bool :=
  memo.tables.contains table

/-- Remember a table; the answer is whether it was new. -/
def claim (memo : MappingMemo) (table : String) : Bool × MappingMemo :=
  (!memo.contains table, ⟨memo.tables.insert table ()⟩)

/-- Forget a table. -/
def release (memo : MappingMemo) (table : String) : MappingMemo :=
  ⟨memo.tables.erase table⟩

/-- The number of tables. -/
def size (memo : MappingMemo) : Nat :=
  memo.tables.size

theorem contains_claim (memo : MappingMemo) (table other : String) :
    (memo.claim table).2.contains other = (table = other || memo.contains other) := by
  simp only [claim, contains, Dict.contains, Dict.get?_insert]
  by_cases h : table = other <;> simp [h]

/-- A remembered table that is claimed again changes nothing. -/
theorem claim_of_contains {memo : MappingMemo} {table : String}
    (h : memo.contains table = true) : (memo.claim table).2 = memo := by
  obtain ⟨⟨⟩, hfound⟩ := Dict.contains_iff.1 h
  exact congrArg mk (Dict.insert_of_get?_eq_some hfound)

/-- A new table that is claimed and released leaves the memo as it was. -/
theorem release_claim {memo : MappingMemo} {table : String}
    (h : memo.contains table = false) : (memo.claim table).2.release table = memo := by
  have hnone : memo.tables.get? table = none := by
    simpa [contains, Dict.contains] using h
  refine congrArg mk ((Dict.erase_insert_self _ _ _).trans (Dict.erase_of_get?_eq_none hnone))

end MappingMemo

/-- The records that were looked up, by table and id; `none` is a remembered miss. -/
structure RecordCache where
  /-- The records of each table under their ids. -/
  tables : Dict (Dict (Option Record)) := ∅

namespace RecordCache

/-- What is remembered for an id of a table. -/
def get? (cache : RecordCache) (table id : String) : Option (Option Record) :=
  (cache.tables.get? table).bind (·.get? id)

/-- Remember a record, or a miss, for an id of a table. -/
def insert (cache : RecordCache) (table id : String) (record : Option Record) : RecordCache :=
  ⟨cache.tables.alter table fun found ↦ (found.getD ∅).insert id record⟩

/-- The number of ids for which something is remembered. -/
def size (cache : RecordCache) : Nat :=
  cache.tables.entries.foldl (fun sum table ↦ sum + table.2.size) 0

/-- What is remembered after an insertion is the inserted record at its place and all else as
before. -/
theorem get?_insert (cache : RecordCache) (table id table' id' : String)
    (record : Option Record) :
    (cache.insert table id record).get? table' id' =
      if table = table' ∧ id = id' then some record else cache.get? table' id' := by
  simp only [get?, insert, Dict.alter, Dict.get?_insert]
  by_cases ht : table = table'
  · subst ht
    by_cases hi : id = id'
    · simp [hi]
    · cases h : cache.tables.get? table <;> simp [hi, Dict.get?_insert]
  · simp [ht]

end RecordCache

/-- All that an engine remembers. -/
structure Caches where
  /-- The tables whose mapping was written. -/
  memo : MappingMemo := {}
  /-- The records that were looked up. -/
  records : RecordCache := {}

/-- An exchange that can fail and that reads and changes an engine's memories. -/
abbrev Job (α : Type) : Type :=
  ExceptT Error (StateT Caches Exchange) α

namespace Job

variable {α σ : Type}

/-- A fetch, which leaves the memories as they are. -/
def ofFetch (fetch : Fetch α) : Job α :=
  ExceptT.mk fun caches ↦ do
    let result ← ExceptT.run fetch
    pure (result, caches)

/-- The result of a fetch, error or not. -/
def attempt (fetch : Fetch α) : Job (Except Error α) :=
  ExceptT.mk fun caches ↦ do
    let result ← ExceptT.run fetch
    pure (.ok result, caches)

/-- Play a job against a backend. -/
def runOn (backend : Backend σ) (job : Job α) (caches : Caches) (state : σ) :
    (Except Error α × Caches) × σ :=
  Exchange.run backend ((ExceptT.run job).run caches) state

end Job

end RecordSearch
