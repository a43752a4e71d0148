import RecordSearch.Proofs.Batches
import RecordSearch.Proofs.Reading
/-!
# Deletions and updates by query

A deletion or an update by query reads the records that the query finds and hands them to a batch
of the engine. `foundEntries` and `filledEntries` are the entries of these batches, told by the
documents in the window of the query, and `deleteMatching_runOn` and `updateMatching_runOn` say
what the batches leave in the store.

The last section is about documents that are stored under their keys (`Store.KeyedBy`): their
records have the ids of the documents for keys, and keep them when attributes are filled in that do
not touch the key (`key?_touch_fill`).
-/

namespace RecordSearch

/-- To map what was mapped before, each at its place, is to map once. -/
theorem mapIdx_map {α β γ : Type} (f : Nat → β → γ) (g : α → β) (items : List α) :
    (items.map g).mapIdx f = items.mapIdx fun place item ↦ f place (g item) := by
  refine List.mapIdx_eq_iff.2 fun place ↦ ?_
  rw [List.getElem?_mapIdx, List.getElem?_map, Option.map_map]
  rfl

theorem mem_mapIdx_iff {α β : Type} {f : Nat → α → β} {items : List α} {result : β} :
    result ∈ items.mapIdx f ↔ ∃ place item, items[place]? = some item ∧ f place item = result := by
  simp only [List.mem_iff_getElem?, List.getElem?_mapIdx, Option.map_eq_some_iff]

/-- The entries that are written over records, each at the time that the clock tells for its
place. -/
def Engine.filledRecords (records : List Record) (attributes : Object) (clock : Nat → String) :
    List Entry :=
  records.mapIdx fun place record ↦ ((record.fill attributes).touch (clock place)).toEntry

namespace Query

variable (query : Query) (store : Store) (base : String)

/-- The entries whose documents are deleted for a query. -/
def foundEntries : List Entry :=
  (query.recordsFound store base).map Record.toEntry

/-- The entries that are written over what a query finds; without attributes there are none. -/
def filledEntries (clock : Nat → String) (attributes : Object) : List Entry :=
  if attributes.isEmpty then []
  else Engine.filledRecords (query.recordsFound store base) attributes clock

end Query

/-- What is attached to a record does not matter for what is written over it. -/
theorem Record.toEntry_touch_fill_bare (record : Record) (attributes : Object) (now : String) :
    ((record.bare.fill attributes).touch now).toEntry =
      ((record.fill attributes).touch now).toEntry := by
  have hbare : (record.bare.fill attributes).touch now =
      ((record.fill attributes).touch now).bare := by
    rw [touch, touch, apply_ite Record.bare]
    rfl
  rw [hbare]
  rfl

namespace Engine

variable (engine : Engine) {query : Query} {base : String} {store : Store} (caches : Caches)

/-- The deletion after the read. -/
theorem deleteMatching_runOn_of_get {mapped : Mapped} {between : Store}
    (hget : query.get.runOn Store.backend store = (.ok mapped, between))
    (hfound : mapped.bareRecords = query.recordsFound store base) :
    ∃ after, (engine.deleteMatching query).runOn Store.backend caches store =
      ((Change.remove.outcome (query.foundEntries store base) {}, caches), after) ∧
        Change.remove.Made (Change.remove.reached (query.foundEntries store base)) between
          after := by
  have hentries : query.foundEntries store base = mapped.toRecords.map Record.toEntry := by
    rw [Query.foundEntries, ← hfound, Mapped.bareRecords, List.map_map]
    rfl
  rw [deleteMatching, Job.runOn_bind, Job.runOn_ofFetch, hget, hentries]
  dsimp only
  -- Without records nothing is sent, which is what a deletion of no entries does too.
  cases mapped.toRecords with
  | nil => exact ⟨between, rfl, .nil _ _⟩
  | cons record rest =>
    obtain ⟨after, hrun, hmade⟩ := Change.batch_runOn engine.indexer .remove
      ((record :: rest).map Record.toEntry) caches between
    rw [Change.handled_outcome] at hmade
    exact ⟨after, hrun, hmade⟩

/-- **The deletion law.** A deletion by a query without free text and searches by hand removes the
documents of the records found, as far as its outcome tells. -/
theorem deleteMatching_runOn (htext : query.criteria.freeText = none) (hfree : query.HandFree)
    (hbase : query.baseIndex? = .ok base) (hidle : Store.Idle store.searchAnswers base) :
    ∃ outcome between after,
      (engine.deleteMatching query).runOn Store.backend caches store = ((outcome, caches), after) ∧
        Store.SameDocuments store between ∧
        Change.remove.Made (Change.remove.handled (query.foundEntries store base) outcome) between
          after := by
  obtain ⟨got, between, hget, hsettles, hsame⟩ := Query.get_runOn htext hfree hbase hidle
  cases got with
  | error e =>
    refine ⟨.error e, between, between, ?_, hsame, ?_⟩
    · rw [deleteMatching, Job.runOn_bind, Job.runOn_ofFetch, hget]
    · rw [Change.handled, handledBy, show e.isMissingKey = false from hsettles]
      exact .nil _ _
  | ok mapped =>
    obtain ⟨after, hrun, hmade⟩ := engine.deleteMatching_runOn_of_get caches hget hsettles
    refine ⟨_, between, after, hrun, hsame, ?_⟩
    rwa [Change.handled_outcome]

/-- The update after the read is a batch of what was read. -/
theorem updateMatching_runOn_of_mapped {mapped : Mapped} {between : Store}
    (clock : Nat → String) {attributes : Object} (hattributes : attributes ≠ ∅)
    (hget : query.get.runOn Store.backend store = (.ok mapped, between)) :
    let entries := filledRecords mapped.toRecords attributes clock
    ∃ outcome changed after,
      (engine.updateMatching clock query attributes).runOn Store.backend caches store =
        ((outcome, changed), after) ∧
      Change.write.CanEnd engine entries outcome ∧
      Change.write.Made (Change.write.handled entries outcome) between after := by
  have hempty : ¬ attributes.isEmpty = true := fun h ↦ hattributes (Dict.isEmpty_iff.1 h)
  rw [updateMatching, if_neg hempty, Job.runOn_bind, Job.runOn_ofFetch, hget]
  exact Change.runOn_job engine .write (filledRecords mapped.toRecords attributes clock) caches
    between

/-- The update after the read. -/
theorem updateMatching_runOn_of_get {mapped : Mapped} {between : Store} (clock : Nat → String)
    {attributes : Object} (hattributes : attributes ≠ ∅)
    (hget : query.get.runOn Store.backend store = (.ok mapped, between))
    (hfound : mapped.bareRecords = query.recordsFound store base) :
    ∃ outcome changed after,
      (engine.updateMatching clock query attributes).runOn Store.backend caches store =
        ((outcome, changed), after) ∧
        Change.write.Made
          (Change.write.handled (query.filledEntries store base clock attributes) outcome) between
          after := by
  have hempty : ¬ attributes.isEmpty = true := fun h ↦ hattributes (Dict.isEmpty_iff.1 h)
  have hentries : query.filledEntries store base clock attributes =
      filledRecords mapped.toRecords attributes clock := by
    rw [Query.filledEntries, if_neg hempty, ← hfound, Mapped.bareRecords, filledRecords,
      mapIdx_map]
    simp only [Record.toEntry_touch_fill_bare]
    rfl
  obtain ⟨outcome, changed, after, hrun, -, hmade⟩ :=
    engine.updateMatching_runOn_of_mapped caches clock hattributes hget
  exact ⟨outcome, changed, after, hrun, hentries ▸ hmade⟩

/-- **The update law.** An update by a query without free text and searches by hand writes the
records found with the attributes filled in, as far as its outcome tells. -/
theorem updateMatching_runOn (htext : query.criteria.freeText = none) (hfree : query.HandFree)
    (hbase : query.baseIndex? = .ok base) (hidle : Store.Idle store.searchAnswers base)
    (clock : Nat → String) (attributes : Object) :
    ∃ outcome changed between after,
      (engine.updateMatching clock query attributes).runOn Store.backend caches store =
        ((outcome, changed), after) ∧
        Store.SameDocuments store between ∧
        Change.write.Made
          (Change.write.handled (query.filledEntries store base clock attributes) outcome) between
          after := by
  by_cases hattributes : attributes = ∅
  · have hempty : attributes.isEmpty = true := Dict.isEmpty_iff.2 hattributes
    refine ⟨.ok {}, caches, store, store, ?_, ⟨rfl, rfl⟩, ?_⟩
    · rw [updateMatching, if_pos hempty]
      rfl
    · rw [Query.filledEntries, if_pos hempty]
      exact .nil _ _
  obtain ⟨got, between, hget, hsettles, hsame⟩ := Query.get_runOn htext hfree hbase hidle
  cases got with
  | error e =>
    refine ⟨.error e, caches, between, between, ?_, hsame, ?_⟩
    · rw [updateMatching, if_neg fun h ↦ hattributes (Dict.isEmpty_iff.1 h), Job.runOn_bind,
        Job.runOn_ofFetch, hget]
    · rw [Change.handled, handledBy, show e.isMissingKey = false from hsettles]
      exact .nil _ _
  | ok mapped =>
    obtain ⟨outcome, changed, after, hrun, hmade⟩ :=
      engine.updateMatching_runOn_of_get caches clock hattributes hget hsettles
    exact ⟨outcome, changed, between, after, hrun, hsame, hmade⟩

end Engine

/-! ### Entries of keyed documents -/

/-- The documents of the schema's index are stored under the texts of their keys. -/
def Store.KeyedBy (store : Store) (schema : Schema) : Prop :=
  ∀ id source, store.document? schema.indexName id = some source →
    schema.keyText? source = some id

theorem Store.keyedBy_iff {store : Store} {schema : Schema} :
    store.KeyedBy schema ↔ ∀ found ∈ store.documentsOf schema.indexName,
      schema.keyText? found.source = some found.id := by
  constructor
  · intro h found hfound
    exact h found.id found.source (mem_documentsOf.1 hfound).2
  · intro h id source hstored
    exact h ⟨schema.indexName, id, source⟩ (mem_documentsOf.2 ⟨rfl, hstored⟩)

/-- The record of a document. -/
def Found.record (found : Found) (schema : Schema) : Record where
  schema := schema
  attributes := found.source.fieldsOrNone

theorem Found.key?_record (found : Found) (schema : Schema) :
    (found.record schema).key? = schema.keyText? found.source := by
  rw [Schema.keyText?, Json.field?_eq_get?_fieldsOrNone]
  rfl

/-- The attributes of a filled and touched record: the time of change if the schema keeps it, then
the attributes filled in, then the record's own. -/
theorem Record.get?_touch_fill (record : Record) (attributes : Object) (now name : String) :
    ((record.fill attributes).touch now).get? name =
      if record.schema.timestamps = true ∧ "updated_at" = name then some (.string now)
      else (attributes.get? name).or (record.get? name) := by
  have hschema : (record.fill attributes).schema = record.schema := rfl
  rw [touch, hschema, ← Record.get?_fill]
  by_cases htime : record.schema.timestamps = true
  · rw [if_pos htime]
    refine (Dict.get?_insert _ _ _ _).trans (if_congr ?_ rfl rfl)
    exact ⟨fun hname ↦ ⟨htime, hname⟩, And.right⟩
  · rw [if_neg htime, if_neg fun hboth ↦ htime hboth.1]

theorem Record.schema_touch_fill (record : Record) (attributes : Object) (now : String) :
    ((record.fill attributes).touch now).schema = record.schema := by
  rw [touch]
  split <;> rfl

/-- Attributes without the key leave the key as it is, unless the time of change is the key. -/
theorem Record.key?_touch_fill (record : Record) {attributes : Object} (now : String)
    (hkey : attributes.get? record.schema.keyName = none) :
    ((record.fill attributes).touch now).key? =
      if record.schema.timestamps = true ∧ "updated_at" = record.schema.keyName then some now
      else record.key? := by
  rw [key?, attributeText?, schema_touch_fill, get?_touch_fill, hkey, Option.none_or]
  split <;> rfl

/-- Untagged hits are read as records of the documents, which are no records if they are empty. -/
theorem Found.record?_hit {schema : Schema} (hcast : schema.cast = none) (found : Found) :
    found.hit.record? schema false =
      if found.source.fieldsOrNone.isEmpty then none else some (found.record schema) := by
  have hattributes : found.hit.attributes false = found.source.fieldsOrNone := rfl
  rw [Hit.record?, hcast, hattributes, Record.hydrate?]
  split <;> rfl

/-- A document with a key is read as its record. -/
theorem Found.record?_hit_of_keyText {schema : Schema} (hcast : schema.cast = none) {found : Found}
    {key : String} (hkey : schema.keyText? found.source = some key) :
    found.hit.record? schema false = some (found.record schema) := by
  rw [Found.record?_hit hcast, if_neg]
  intro hempty
  rw [Schema.keyText?, Json.field?_eq_get?_fieldsOrNone, Dict.isEmpty_iff.1 hempty] at hkey
  cases hkey

namespace Query

/-- Without further indices and a change of what is read, the records found are those of documents
in the window. -/
theorem exists_shown_of_mem_recordsFound {query : Query} {store : Store} {base : String}
    (hunions : query.criteria.unions = []) (hcast : query.schema.cast = none) {record : Record}
    (h : record ∈ query.recordsFound store base) :
    ∃ found ∈ query.shown store base, record = found.record query.schema := by
  rw [recordsFound] at h
  split at h
  · obtain ⟨found, hshown, hfound⟩ := List.mem_filterMap.1 h
    rw [hunions, List.isEmpty_nil, Bool.not_true, Found.record?_hit hcast] at hfound
    split at hfound
    · cases hfound
    · exact ⟨found, hshown, (Option.some.inj hfound).symm⟩
  · exact absurd h List.not_mem_nil

end Query

end RecordSearch
