import RecordSearch.Proofs.Matching
/-!
# Which documents a deletion or an update by query changes

Records are written into the index of their schema and deleted from it, whatever index their hits
come from. So a query over several indices, or over an alias, can change documents that it did not
match: those of the schema's index that have the key of a hit from elsewhere.

`bulk_changes_matched_iff` says exactly when no such document is changed: when every document of
the schema's index that a handled record addresses was matched too, or in the case of an update is
written as it is. Over the schema's index alone this always holds.
-/

namespace RecordSearch

/-- Only documents at allowed places, told by index and id, differ between the states. -/
def Store.ChangesOnly (allowed : String → String → Prop) (before after : Store) : Prop :=
  ∀ index id, after.document? index id ≠ before.document? index id → allowed index id

namespace Query

/-- The query matches the document of an id in an index. -/
def Matches (query : Query) (store : Store) (base index id : String) : Prop :=
  ∃ source, ⟨index, id, source⟩ ∈ query.accepted store base

theorem mem_accepted {query : Query} {store : Store} {base : String} {found : Found} :
    found ∈ query.accepted store base ↔
      found.index ∈ base :: query.criteria.unions ∧
        store.document? found.index found.id = some found.source ∧
        query.criteria.conditions.hold found.source = true := by
  rw [accepted, List.mem_flatMap]
  constructor
  · rintro ⟨index, hindex, hmem⟩
    obtain ⟨hlisted, hhold⟩ := List.mem_filter.1 hmem
    obtain ⟨rfl, hstored⟩ := Store.mem_documentsOf.1 hlisted
    exact ⟨hindex, hstored, hhold⟩
  · rintro ⟨hindex, hstored, hhold⟩
    exact ⟨found.index, hindex,
      List.mem_filter.2 ⟨Store.mem_documentsOf.2 ⟨rfl, hstored⟩, hhold⟩⟩

/-- What a window shows is accepted. -/
theorem mem_accepted_of_mem_shown {query : Query} {store : Store} {base : String} {found : Found}
    (h : found ∈ query.shown store base) : found ∈ query.accepted store base :=
  List.mem_of_mem_drop (List.mem_of_mem_take h)

end Query

namespace Change

/-- Removals keep to allowed places exactly if every removed document is at one. -/
theorem changesOnly_remove_iff {schema : Schema} {entries : List Entry}
    (hschema : ∀ entry ∈ entries, entry.schema = schema) {allowed : String → String → Prop}
    {store after : Store} (h : remove.Made entries store after) :
    store.ChangesOnly allowed after ↔
      ∀ entry ∈ entries, ∀ id, entry.key = some id →
        store.document? schema.indexName id ≠ none → allowed schema.indexName id := by
  constructor
  · intro honly entry hentry id hkey hstored
    refine honly _ _ ?_
    have hat : entries.any (Entry.isAt schema.indexName id) = true :=
      List.any_eq_true.2 ⟨entry, hentry, Entry.isAt_iff.2 ⟨by rw [hschema entry hentry], hkey⟩⟩
    rw [document?_of_made_remove h, if_pos hat]
    exact hstored.symm
  · intro hall index id hchanged
    rw [document?_of_made_remove h] at hchanged
    split at hchanged
    · next hat =>
      obtain ⟨entry, hentry, hisAt⟩ := List.any_eq_true.1 hat
      obtain ⟨hindex, hkey⟩ := Entry.isAt_iff.1 hisAt
      rw [hschema entry hentry] at hindex
      rw [← hindex] at hchanged ⊢
      exact hall entry hentry id hkey hchanged.symm
    · exact absurd rfl hchanged

/-- Writes keep to allowed places exactly if what is last written to any other place was there
before. -/
theorem changesOnly_write_iff {schema : Schema} {entries : List Entry}
    (hschema : ∀ entry ∈ entries, entry.schema = schema) {allowed : String → String → Prop}
    {store after : Store} (h : write.Made entries store after) :
    store.ChangesOnly allowed after ↔
      ∀ id entry, Entry.lastWritten? schema.indexName id entries = some entry →
        store.document? schema.indexName id = some (.ofObject entry.projection) ∨
          allowed schema.indexName id := by
  constructor
  · intro honly id entry hlast
    by_cases hsame : store.document? schema.indexName id = some (.ofObject entry.projection)
    · exact .inl hsame
    · refine .inr (honly _ _ ?_)
      rw [document?_of_made_write h, hlast]
      exact Ne.symm hsame
  · intro hall index id hchanged
    rw [document?_of_made_write h] at hchanged
    cases hlast : Entry.lastWritten? index id entries with
    | none => rw [hlast] at hchanged; exact absurd rfl hchanged
    | some entry =>
      rw [hlast] at hchanged
      obtain ⟨hentry, hindex, -, -⟩ := Entry.of_lastWritten?_eq_some hlast
      rw [hschema entry hentry] at hindex
      rw [← hindex] at hlast hchanged ⊢
      exact (hall id entry hlast).resolve_left fun hsame ↦ hchanged hsame.symm

end Change

/-! ### Deletions and updates by query -/

namespace Query

variable {query : Query} {store : Store} {base : String}

theorem schema_of_mem_foundEntries {entry : Entry} (h : entry ∈ query.foundEntries store base) :
    entry.schema = query.schema := by
  obtain ⟨record, hrecord, rfl⟩ := List.mem_map.1 h
  exact (of_mem_recordsFound hrecord).1

theorem exists_record_of_mem_filledEntries {clock : Nat → String} {attributes : Object}
    {entry : Entry} (h : entry ∈ query.filledEntries store base clock attributes) :
    ∃ record ∈ query.recordsFound store base, ∃ time,
      entry = ((record.fill attributes).touch time).toEntry := by
  rw [filledEntries] at h
  split at h
  · exact absurd h List.not_mem_nil
  · obtain ⟨place, record, hrecord, rfl⟩ := mem_mapIdx_iff.1 h
    exact ⟨record, List.mem_of_getElem? hrecord, clock place, rfl⟩

theorem schema_of_mem_filledEntries {clock : Nat → String} {attributes : Object} {entry : Entry}
    (h : entry ∈ query.filledEntries store base clock attributes) :
    entry.schema = query.schema := by
  obtain ⟨record, hrecord, time, rfl⟩ := exists_record_of_mem_filledEntries h
  exact (record.schema_touch_fill attributes time).trans (of_mem_recordsFound hrecord).1

/-- Over the schema's index alone, and if its documents are stored under their keys, a record found
has the key of a document that is matched. -/
theorem matches_of_key?_eq_some (hunions : query.criteria.unions = [])
    (hcast : query.schema.cast = none) (hkeyed : store.KeyedBy query.schema) {record : Record}
    (h : record ∈ query.recordsFound store query.schema.indexName) {id : String}
    (hkey : record.key? = some id) :
    query.Matches store query.schema.indexName query.schema.indexName id := by
  obtain ⟨found, hshown, rfl⟩ := exists_shown_of_mem_recordsFound hunions hcast h
  have haccepted := mem_accepted_of_mem_shown hshown
  obtain ⟨hindex, hstored, -⟩ := mem_accepted.1 haccepted
  rw [hunions, List.mem_singleton] at hindex
  have hid : some found.id = some id := by
    rw [← hkey, Found.key?_record]
    exact (hkeyed found.id found.source (hindex ▸ hstored)).symm
  obtain ⟨index, id', source⟩ := found
  obtain rfl : index = query.schema.indexName := hindex
  obtain rfl : id' = id := Option.some.inj hid
  exact ⟨source, haccepted⟩

end Query

theorem Store.SameDocuments.changesOnly_iff {store between after : Store}
    (h : Store.SameDocuments store between) (allowed : String → String → Prop) :
    store.ChangesOnly allowed after ↔ between.ChangesOnly allowed after := by
  rw [ChangesOnly, ChangesOnly]
  simp only [h.document?_eq]

namespace Engine

variable (engine : Engine) {query : Query} {base : String} {store : Store} (caches : Caches)

/-- A query that cannot be read changes nothing. -/
theorem bulk_runOn_of_get_error {e : Error}
    (hget : query.get.runOn Store.backend store = (.error e, store))
    (clock : Nat → String) (attributes : Object) :
    ((engine.deleteMatching query).runOn Store.backend caches store).2 = store ∧
      ((engine.updateMatching clock query attributes).runOn Store.backend caches store).2 =
        store := by
  constructor
  · rw [deleteMatching, Job.runOn_bind, Job.runOn_ofFetch, hget]
  · rw [updateMatching]
    split
    · rfl
    · rw [Job.runOn_bind, Job.runOn_ofFetch, hget]

/-- A deletion keeps to the matched documents exactly if every handled record whose key is an id in
the schema's index has the key of a matched document there. -/
theorem deleteMatching_changesOnly_iff (htext : query.criteria.freeText = none)
    (hfree : query.HandFree) (hbase : query.baseIndex? = .ok base)
    (hidle : Store.Idle store.searchAnswers base) :
    let deletion := (engine.deleteMatching query).runOn Store.backend caches store
    store.ChangesOnly (query.Matches store base) deletion.2 ↔
      ∀ entry ∈ Change.remove.handled (query.foundEntries store base) deletion.1.1, ∀ id,
        entry.key = some id → store.document? query.schema.indexName id ≠ none →
          query.Matches store base query.schema.indexName id := by
  intro deletion
  obtain ⟨outcome, between, after, hrun, hsame, hmade⟩ :=
    engine.deleteMatching_runOn caches htext hfree hbase hidle
  rw [show deletion = ((outcome, caches), after) from hrun, hsame.changesOnly_iff,
    Change.changesOnly_remove_iff
      (fun entry h ↦ Query.schema_of_mem_foundEntries (Change.mem_of_mem_handled h)) hmade]
  simp only [hsame.document?_eq]

/-- Over the schema's index alone a deletion keeps to the matched documents. -/
theorem deleteMatching_changesOnly (htext : query.criteria.freeText = none)
    (hfree : query.HandFree) (hbase : query.baseIndex? = .ok query.schema.indexName)
    (hidle : Store.Idle store.searchAnswers query.schema.indexName)
    (hunions : query.criteria.unions = []) (hcast : query.schema.cast = none)
    (hkeyed : store.KeyedBy query.schema) :
    store.ChangesOnly (query.Matches store query.schema.indexName)
      ((engine.deleteMatching query).runOn Store.backend caches store).2 := by
  refine (engine.deleteMatching_changesOnly_iff caches htext hfree hbase hidle).2 ?_
  intro entry hentry id hkey _
  obtain ⟨record, hrecord, rfl⟩ := List.mem_map.1 (Change.mem_of_mem_handled hentry)
  exact Query.matches_of_key?_eq_some hunions hcast hkeyed hrecord hkey

/-- An update keeps to the matched documents exactly if what is last written to any other id of the
schema's index was there before. -/
theorem updateMatching_changesOnly_iff (htext : query.criteria.freeText = none)
    (hfree : query.HandFree) (hbase : query.baseIndex? = .ok base)
    (hidle : Store.Idle store.searchAnswers base) (clock : Nat → String) (attributes : Object) :
    let update := (engine.updateMatching clock query attributes).runOn Store.backend caches store
    store.ChangesOnly (query.Matches store base) update.2 ↔
      ∀ id entry, Entry.lastWritten? query.schema.indexName id (Change.write.handled
          (query.filledEntries store base clock attributes) update.1.1) = some entry →
        store.document? query.schema.indexName id = some (.ofObject entry.projection) ∨
          query.Matches store base query.schema.indexName id := by
  intro update
  obtain ⟨outcome, changed, between, after, hrun, hsame, hmade⟩ :=
    engine.updateMatching_runOn caches htext hfree hbase hidle clock attributes
  rw [show update = ((outcome, changed), after) from hrun, hsame.changesOnly_iff,
    Change.changesOnly_write_iff
      (fun entry h ↦ Query.schema_of_mem_filledEntries (Change.mem_of_mem_handled h)) hmade]
  simp only [hsame.document?_eq]

/-- Over the schema's index alone an update keeps to the matched documents, unless it gives them a
key of its own. -/
theorem updateMatching_changesOnly (htext : query.criteria.freeText = none)
    (hfree : query.HandFree) (hbase : query.baseIndex? = .ok query.schema.indexName)
    (hidle : Store.Idle store.searchAnswers query.schema.indexName)
    (hunions : query.criteria.unions = []) (hcast : query.schema.cast = none)
    (hkeyed : store.KeyedBy query.schema) (clock : Nat → String) {attributes : Object}
    (hname : attributes.get? query.schema.keyName = none)
    (htime : query.schema.timestamps = true → query.schema.keyName ≠ "updated_at") :
    store.ChangesOnly (query.Matches store query.schema.indexName)
      ((engine.updateMatching clock query attributes).runOn Store.backend caches store).2 := by
  refine (engine.updateMatching_changesOnly_iff caches htext hfree hbase hidle clock
    attributes).2 ?_
  -- What is written has the key of the record found, which is the id of a matched document.
  intro id entry hlast
  obtain ⟨hentry, -, hkey, -⟩ := Entry.of_lastWritten?_eq_some hlast
  obtain ⟨record, hrecord, time, rfl⟩ :=
    Query.exists_record_of_mem_filledEntries (Change.mem_of_mem_handled hentry)
  have hschema := (Query.of_mem_recordsFound hrecord).1
  refine .inr (Query.matches_of_key?_eq_some hunions hcast hkeyed hrecord ?_)
  rw [← hkey]
  refine ((record.key?_touch_fill time (hschema ▸ hname)).trans (if_neg ?_)).symm
  rw [hschema]
  exact fun hboth ↦ htime hboth.1 hboth.2.symm

/-- **Which documents a deletion or an update by query changes.** With an unknown alias it changes
nothing. Else a deletion keeps to the matched documents exactly if every handled record whose key
is an id in the schema's index is the record of a matched document there; an update exactly if what
is last written to an id of the schema's index was there before or the document there was matched.
Without further indices and an alias, both keep to the matched documents, provided that the
documents of the index are stored under their keys and the keys are read and written as they are. -/
theorem bulk_changes_matched_iff (engine : Engine) (query : Query) (store : Store)
    (caches : Caches) (clock : Nat → String) (attributes : Object)
    (htext : query.criteria.freeText = none) (hfree : query.HandFree)
    (hidle : ∀ base, query.baseIndex? = .ok base → Store.Idle store.searchAnswers base) :
    let index := query.schema.indexName
    let deletion := (engine.deleteMatching query).runOn Store.backend caches store
    let update := (engine.updateMatching clock query attributes).runOn Store.backend caches store
    (∀ e, query.baseIndex? = .error e →
      store.ChangesOnly (fun _ _ ↦ False) deletion.2 ∧
        store.ChangesOnly (fun _ _ ↦ False) update.2) ∧
    ∀ base, query.baseIndex? = .ok base →
      (store.ChangesOnly (query.Matches store base) deletion.2 ↔
        ∀ entry ∈ Change.remove.handled (query.foundEntries store base) deletion.1.1, ∀ id,
          entry.key = some id → store.document? index id ≠ none →
            query.Matches store base index id) ∧
      (store.ChangesOnly (query.Matches store base) update.2 ↔
        ∀ id entry, Entry.lastWritten? index id (Change.write.handled
            (query.filledEntries store base clock attributes) update.1.1) = some entry →
          store.document? index id = some (.ofObject entry.projection) ∨
            query.Matches store base index id) ∧
      (query.criteria.unions = [] → query.criteria.aliasName = none → query.schema.cast = none →
        store.KeyedBy query.schema →
        store.ChangesOnly (query.Matches store base) deletion.2 ∧
          (attributes.get? query.schema.keyName = none →
            (query.schema.timestamps = true → query.schema.keyName ≠ "updated_at") →
            store.ChangesOnly (query.Matches store base) update.2)) := by
  intro index deletion update
  constructor
  · intro e herror
    -- An unknown alias ends the search before anything is sent.
    have hget : query.get.runOn Store.backend store = (.error e, store) :=
      Fetch.runOn_bind_of_error
        (Query.search_runOn_of_error ⟨htext, hfree.callback_eq_none⟩ herror store)
    obtain ⟨hdeletion, hupdate⟩ := engine.bulk_runOn_of_get_error caches hget clock attributes
    exact ⟨fun _ _ hchanged ↦ hchanged (by rw [show deletion.2 = store from hdeletion]),
      fun _ _ hchanged ↦ hchanged (by rw [show update.2 = store from hupdate])⟩
  intro base hbase
  refine ⟨engine.deleteMatching_changesOnly_iff caches htext hfree hbase (hidle base hbase),
    engine.updateMatching_changesOnly_iff caches htext hfree hbase (hidle base hbase) clock
      attributes, fun hunions halias hcast hkeyed ↦ ?_⟩
  obtain rfl : base = query.schema.indexName := by
    rw [Query.baseIndex?, halias] at hbase
    exact (Except.ok.inj hbase).symm
  exact ⟨engine.deleteMatching_changesOnly caches htext hfree hbase (hidle _ hbase) hunions hcast
      hkeyed,
    fun hname htime ↦ engine.updateMatching_changesOnly caches htext hfree hbase (hidle _ hbase)
      hunions hcast hkeyed clock hname htime⟩

/-- Users and admins with ids of their own; user one is not called b. -/
def sharedIdStore : Store :=
  ((({} : Store).put "users_index" "1" (.ofFields [("id", .ofNat 1), ("name", .string "a")])).put
    "admins_index" "1" (.ofFields [("id", .ofNat 1), ("name", .string "b")])).put
    "admins_index" "2" (.ofFields [("id", .ofNat 2), ("name", .string "b")])

/-- The users who are called b. -/
def usersCalledB : Query :=
  (Schema.ofTable "users").query.refine [.whereEq "name" (.string "b")]

/-- The users and admins who are called b. -/
def peopleCalledB : Query :=
  usersCalledB.refine [.union ["admins_index"]]

/-- Over the users alone, a deletion and an update keep to what they match. -/
theorem bulk_changes_usersCalledB :
    sharedIdStore.ChangesOnly (usersCalledB.Matches sharedIdStore "users_index")
        ((Engine.deleteMatching {} usersCalledB).runOn Store.backend {} sharedIdStore).2 ∧
      sharedIdStore.ChangesOnly (usersCalledB.Matches sharedIdStore "users_index")
        ((Engine.updateMatching {} (fun _ ↦ "now") usersCalledB (.single "age" (.ofNat 7))).runOn
          Store.backend {} sharedIdStore).2 := by
  have hkeyed : sharedIdStore.KeyedBy usersCalledB.schema :=
    Store.keyedBy_iff.2 (by decide +kernel)
  obtain ⟨-, hbase⟩ := bulk_changes_matched_iff {} usersCalledB sharedIdStore {}
    (fun _ ↦ "now") (.single "age" (.ofNat 7)) rfl
    ⟨rfl, fun _ h ↦ absurd h List.not_mem_nil⟩ fun _ _ ↦ rfl
  obtain ⟨-, -, hkeep⟩ := hbase "users_index" rfl
  obtain ⟨hdeletion, hupdate⟩ := hkeep rfl rfl rfl hkeyed
  exact ⟨hdeletion, hupdate (by decide +kernel) nofun⟩

/-- Over users and admins, all stored under their keys, the deletion of who is called b takes user
one away, and an update makes a user two: neither of them was matched. -/
theorem bulk_changes_unmatched :
    (∀ index ∈ ["users_index", "admins_index"], ∀ found ∈ sharedIdStore.documentsOf index,
        peopleCalledB.schema.keyText? found.source = some found.id) ∧
      ¬ peopleCalledB.Matches sharedIdStore "users_index" "users_index" "1" ∧
      sharedIdStore.document? "users_index" "1" =
        some (.ofFields [("id", .ofNat 1), ("name", .string "a")]) ∧
      ((Engine.deleteMatching {} peopleCalledB).runOn Store.backend {} sharedIdStore).2.document?
        "users_index" "1" = none ∧
      sharedIdStore.document? "users_index" "2" = none ∧
      ((Engine.updateMatching {} (fun _ ↦ "now") peopleCalledB (.single "age" (.ofNat 7))).runOn
        Store.backend {} sharedIdStore).2.document? "users_index" "2" =
        some (.ofFields [("_index", .string "admins_index"), ("age", .ofNat 7), ("id", .ofNat 2),
          ("name", .string "b")]) := by
  have hunmatched : ("users_index", "1") ∉
      (peopleCalledB.accepted sharedIdStore "users_index").map fun found ↦
        (found.index, found.id) := by
    decide +kernel
  refine ⟨by decide +kernel, fun ⟨_, h⟩ ↦ hunmatched (List.mem_map_of_mem h), ?_, ?_, ?_, ?_⟩ <;>
    decide +kernel

end Engine

end RecordSearch
