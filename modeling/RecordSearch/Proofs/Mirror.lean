import RecordSearch.Proofs.Batches
/-!
# The index mirrors the records written

An engine carries out batches of records one after the other, each of which writes or removes the
documents of its records (`Engine.carryOut`). What it did is in the log: every batch with its
outcome. `changesOf` reads the records that were written or removed off the log, and `mirror` folds
them into a dictionary per index, without a store, requests or mappings.

`carryOut_mirrors` says that from a store without documents on, the documents of every index are
the mirror of the log, whatever mixture of successes and failures the run is. So every document is
stored under the key of its own contents.
-/

namespace RecordSearch

/-! ### Names of indices -/

namespace Schema

/-- Tables with the same index are the same table. -/
theorem table_eq_of_indexName_eq {schema other : Schema} (h : schema.indexName = other.indexName) :
    schema.table = other.table :=
  (String.append_left_inj "_index").1 h

end Schema

/-! ### Runs of batches -/

/-- A batch of records that are written or removed. -/
structure Batch where
  /-- What happens to the documents of the records. -/
  change : Change
  /-- The records, in order. -/
  records : List Record

namespace Batch

/-- The entries of the records. -/
def entries (batch : Batch) : List Entry :=
  batch.records.map Record.toEntry

/-- The records that were written or removed, by the outcome of the batch. -/
def handled (batch : Batch) (outcome : Except Error Report) : List Record :=
  handledBy (fun record ↦ batch.change.stops record.toEntry) batch.records outcome

theorem map_toEntry_handled (batch : Batch) (outcome : Except Error Report) :
    (batch.handled outcome).map Record.toEntry = batch.change.handled batch.entries outcome :=
  (handledBy_map batch.change.stops Record.toEntry batch.records outcome).symm

end Batch

/-- Carry out batches in order, whether they succeed or fail. The result is the log of the batches
with their outcomes, and the store afterwards. -/
def Engine.carryOut (engine : Engine) :
    List Batch → Caches → Store → List (Batch × Except Error Report) × Store
  | [], _, store => ([], store)
  | batch :: rest, caches, store =>
    let ((outcome, changed), between) :=
      (batch.change.job engine batch.entries).runOn Store.backend caches store
    let (log, after) := carryOut engine rest changed between
    ((batch, outcome) :: log, after)

/-- The records that were written or removed, in order. -/
def changesOf (log : List (Batch × Except Error Report)) : List (Change × Record) :=
  log.flatMap fun done ↦ (done.1.handled done.2).map fun record ↦ (done.1.change, record)

/-- The documents of an index after records were written or removed in order. -/
def mirror (index : String) (changes : List (Change × Record)) (documents : Dict Json) :
    Dict Json :=
  changes.foldl (fun documents step ↦
    if step.2.schema.indexName = index then step.1.apply step.2.toEntry documents
    else documents) documents

theorem mirror_append (index : String) (first second : List (Change × Record))
    (documents : Dict Json) :
    mirror index (first ++ second) documents =
      mirror index second (mirror index first documents) :=
  List.foldl_append

/-- The mirror of one batch is what the batch makes of the documents. -/
theorem mirror_map (index : String) (change : Change) (records : List Record)
    (documents : Dict Json) :
    mirror index (records.map fun record ↦ (change, record)) documents =
      change.applyAll index (records.map Record.toEntry) documents := by
  rw [mirror, Change.applyAll, List.foldl_map, List.foldl_map]
  rfl

/-- The log lists the batches with outcomes that they can have, and the documents of every index
are mirrored from what they were before. -/
theorem carryOut_collection (engine : Engine) (batches : List Batch) (caches : Caches)
    (store : Store) :
    (engine.carryOut batches caches store).1.map Prod.fst = batches ∧
      (∀ done ∈ (engine.carryOut batches caches store).1,
        done.1.change.CanEnd engine done.1.entries done.2) ∧
      ∀ index, (engine.carryOut batches caches store).2.collection index =
        mirror index (changesOf (engine.carryOut batches caches store).1)
          (store.collection index) := by
  -- A batch that fails still leaves its traces in memory and store, so both vary.
  induction batches generalizing caches store with
  | nil => exact ⟨rfl, fun _ h ↦ absurd h List.not_mem_nil, fun _ ↦ rfl⟩
  | cons batch rest ih =>
    obtain ⟨outcome, changed, between, hrun, hend, hmade⟩ :=
      Change.runOn_job engine batch.change batch.entries caches store
    obtain ⟨hbatches, hends, hcollection⟩ := ih changed between
    rw [Engine.carryOut, hrun]
    refine ⟨congrArg (batch :: ·) hbatches, List.forall_mem_cons.2 ⟨hend, hends⟩, fun index ↦ ?_⟩
    rw [changesOf, List.flatMap_cons, mirror_append, mirror_map, Batch.map_toEntry_handled,
      ← hmade.collection_eq]
    exact hcollection index

/-! ### Where documents come from -/

/-- A document of a mirror was there before or is what a record of that index was written as. -/
theorem get?_mirror {index id : String} {source : Json} {changes : List (Change × Record)}
    {documents : Dict Json} (h : (mirror index changes documents).get? id = some source) :
    documents.get? id = some source ∨
      ∃ step ∈ changes, step.2.schema.indexName = index ∧ step.2.key? = some id ∧
        source = .ofObject step.2.attributes := by
  induction changes generalizing documents with
  | nil => exact .inl h
  | cons step rest ih =>
    -- If no later step put the document there, it stood there after the first step.
    rcases ih h with hbefore | ⟨other, hmem, hother⟩
    · dsimp only at hbefore
      split at hbefore
      · next hindex =>
        cases hchange : step.1 with
        | write =>
          rw [hchange, Change.get?_apply_write] at hbefore
          split at hbefore
          · next hkey =>
            exact .inr ⟨step, List.mem_cons_self, hindex, hkey.2, (Option.some.inj hbefore).symm⟩
          · exact .inl hbefore
        | remove =>
          rw [hchange, Change.get?_apply_remove] at hbefore
          split at hbefore
          · exact absurd hbefore nofun
          · exact .inl hbefore
      · exact .inl hbefore
    · exact .inr ⟨other, List.mem_cons_of_mem _ hmem, hother⟩

/-- What was written or removed is a record of one of the logged batches. -/
theorem exists_batch_of_mem_changesOf {log : List (Batch × Except Error Report)}
    {step : Change × Record} (h : step ∈ changesOf log) :
    ∃ batch ∈ log.map Prod.fst, step.2 ∈ batch.records := by
  obtain ⟨done, hdone, hstep⟩ := List.mem_flatMap.1 h
  obtain ⟨record, hrecord, rfl⟩ := List.mem_map.1 hstep
  exact ⟨done.1, List.mem_map_of_mem hdone, mem_of_mem_handledBy hrecord⟩

/-- **The index mirrors the records written.** Batches are carried out on a store without
documents. Then the log has an outcome for every batch, each one that the batch can have, and the
documents of every index are the mirror of the records that the log says were written or removed.
If the records of a table have one schema, every document is stored under the text of the key in
its own contents. -/
theorem carryOut_mirrors (engine : Engine) (batches : List Batch) (caches : Caches) (store : Store)
    (hempty : ∀ index, store.collection index = ∅)
    (hschemas : ∀ batch ∈ batches, ∀ record ∈ batch.records, ∀ batch' ∈ batches,
      ∀ record' ∈ batch'.records, record.schema.table = record'.schema.table →
        record.schema = record'.schema) :
    let run := engine.carryOut batches caches store
    run.1.map Prod.fst = batches ∧
      (∀ done ∈ run.1, done.1.change.CanEnd engine done.1.entries done.2) ∧
      (∀ index, run.2.collection index = mirror index (changesOf run.1) ∅) ∧
      ∀ index id source, run.2.document? index id = some source →
        (∃ batch ∈ batches, ∃ record ∈ batch.records, record.schema.indexName = index) ∧
        ∀ batch ∈ batches, ∀ record ∈ batch.records, record.schema.indexName = index →
          record.schema.keyText? source = some id := by
  intro run
  obtain ⟨hbatches, hends, hcollection⟩ := carryOut_collection engine batches caches store
  refine ⟨hbatches, hends, fun index ↦ by rw [hcollection index, hempty index], ?_⟩
  intro index id source hstored
  rw [Store.document?_eq_get?_collection, hcollection index, hempty index] at hstored
  rcases get?_mirror hstored with hbefore | ⟨⟨change, written⟩, hmem, hindex, hkey, hsource⟩
  · exact absurd hbefore nofun
  obtain ⟨batch', hbatch', hwritten⟩ := exists_batch_of_mem_changesOf hmem
  rw [hbatches] at hbatch'
  refine ⟨⟨batch', hbatch', written, hwritten, hindex⟩, fun batch hbatch record hrecord hsame ↦ ?_⟩
  have htable : record.schema.table = written.schema.table :=
    Schema.table_eq_of_indexName_eq (hsame.trans hindex.symm)
  rw [hschemas batch hbatch record hrecord batch' hbatch' written hwritten htable, hsource,
    Record.keyText?_ofObject]
  exact hkey

/-- A user with attributes. -/
def user (attributes : Fields Json) : Record where
  schema := .ofTable "users"
  attributes := .ofList attributes

/-- A batch that stops at its third record, a batch that writes the number two as a text, and a
batch that removes it as a number, and a record that was never written. -/
def mixedBatches : List Batch :=
  [⟨.write, [user [("id", .ofNat 1), ("name", .string "a")], user [],
      user [("name", .string "b")], user [("id", .ofNat 3)]]⟩,
    ⟨.write, [user [("id", .string "2")]]⟩,
    ⟨.remove, [user [("id", .ofNat 2), ("name", .string "c")], user [("id", .ofNat 4)]]⟩]

/-- The mixed batches leave the one document written before the first batch stopped. -/
theorem carryOut_mixedBatches :
    (Engine.carryOut {} mixedBatches {} {}).1.map Prod.snd =
        [.error (.configuration (.missingKey "users")), .ok { indexed := 1 },
          .ok { indexed := 2 }] ∧
      (Engine.carryOut {} mixedBatches {} {}).2.collection "users_index" =
        .single "1" (.ofFields [("id", .ofNat 1), ("name", .string "a")]) := by
  have hschema : ∀ batch ∈ mixedBatches, ∀ record ∈ batch.records,
      record.schema = .ofTable "users" := by
    simp [mixedBatches, user]
  obtain ⟨-, -, hmirror, -⟩ := carryOut_mirrors {} mixedBatches {} {} (fun _ ↦ rfl)
    fun batch hbatch record hrecord batch' hbatch' record' hrecord' _ ↦
      (hschema batch hbatch record hrecord).trans (hschema batch' hbatch' record' hrecord').symm
  exact ⟨by decide +kernel, (hmirror "users_index").trans (by decide +kernel)⟩

end RecordSearch
