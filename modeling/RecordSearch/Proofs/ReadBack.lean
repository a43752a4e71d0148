import Mathlib.Data.List.Find
import RecordSearch.Proofs.Lookup
import RecordSearch.Proofs.Mirror
/-!
# Written records are read back by their keys

A record is written under the text of its key, and a query for a key compares values loosely. That
the two agree takes three facts. Documents that are stored under their keys still are after a batch
of the schema's records was written, and after any batch was removed (`LooksUp.of_made_write`,
`LooksUp.of_made_remove`). A value that is no float is loosely equal to the key of a document
exactly if its text is the document's id (`LooksUp.accepted_eq_stored`). And an index has at most
one document of an id (`Store.filter_id_documentsOf`).

So a query for a key reads the one document of that id, as it was last written
(`LooksUp.get_whereEq_runOn`), and `written_read_back` says this of a batch of records and of a
removal after it.
-/

namespace RecordSearch

/-! ### The document of an id -/

/-- An index has at most one document of an id. -/
theorem Store.filter_id_documentsOf (store : Store) (index id : String) :
    (store.documentsOf index).filter (fun found ↦ found.id = id) =
      ((store.document? index id).map fun source ↦ (⟨index, id, source⟩ : Found)).toList := by
  have hmem : ∀ found, found ∈ (store.documentsOf index).filter (fun found ↦ found.id = id) ↔
      some found = (store.document? index id).map fun source ↦ ⟨index, id, source⟩ := by
    rintro ⟨other, key, source⟩
    rw [List.mem_filter, mem_documentsOf, decide_eq_true_iff, eq_comm (a := some _),
      Option.map_eq_some_iff]
    constructor
    · rintro ⟨⟨rfl, hstored⟩, rfl⟩
      exact ⟨source, hstored, rfl⟩
    · rintro ⟨stored, hstored, heq⟩
      obtain ⟨rfl, rfl, rfl⟩ := Found.mk.inj heq
      exact ⟨⟨rfl, hstored⟩, rfl⟩
  have hlt := (store.pairwise_id_documentsOf index).filter fun found ↦ found.id = id
  generalize (store.documentsOf index).filter (fun found ↦ found.id = id) = listed at hmem hlt ⊢
  cases hstored : (store.document? index id).map fun source ↦ (⟨index, id, source⟩ : Found) with
  | none =>
    rw [hstored] at hmem
    exact List.eq_nil_iff_forall_not_mem.2 fun found hfound ↦ absurd ((hmem found).1 hfound) nofun
  | some only =>
    -- All that is listed is the one document, and ids that increase do not repeat.
    rw [hstored] at hmem
    have honly : ∀ found ∈ listed, found = only := fun found hfound ↦
      Option.some.inj ((hmem found).1 hfound)
    obtain _ | ⟨first, _ | ⟨second, rest⟩⟩ := listed
    · exact absurd ((hmem only).2 rfl) List.not_mem_nil
    · rw [honly first List.mem_cons_self]
      rfl
    · obtain ⟨hfirst, -⟩ := List.pairwise_cons.1 hlt
      have hid := hfirst second List.mem_cons_self
      rw [honly first List.mem_cons_self,
        honly second (List.mem_cons_of_mem _ List.mem_cons_self)] at hid
      exact absurd hid (String.lt_irrefl _)

/-! ### Reading by key -/

/-- The records of a query that does not group are no buckets. -/
theorem Response.map_eq_records_toRecords {query : Query} (h : query.criteria.groups = ∅)
    (response : Response) : response.map query = .records (response.map query).toRecords := by
  have hgroups : query.criteria.groups.first? = none := by rw [h]; rfl
  rw [Response.map, hgroups]
  split <;> rfl

namespace Query.IsPlain

variable {query : Query} (h : query.IsPlain) {store : Store}
include h

/-- A plain query reads the records of the first ten accepted documents, if these have keys. -/
theorem get_runOn (hcast : query.schema.cast = none) (hkeyed : store.KeyedBy query.schema)
    (hidle : Store.Idle store.searchAnswers query.schema.indexName) :
    ∃ request, query.get.runOn Store.backend store =
      (.ok (.records (((query.accepted store query.schema.indexName).take 10).map
        (Found.record · query.schema))), store.noting .search request) := by
  refine ⟨(query.request {} query.schema.indexName).render, ?_⟩
  rw [get_runOn_eq h.toIsFilter h.loads_eq_nil h.baseIndex?_eq hidle,
    Response.map_eq_records_toRecords h.groups_eq_empty, toRecords_map_storeResponse,
    h.recordsFound_eq hcast hkeyed, h.shown_eq]

end Query.IsPlain

namespace Schema

variable {schema : Schema} {store : Store}

/-- Without deleted records the query for all records accepts all documents. -/
theorem accepted_query (hsoft : schema.softDelete = false) :
    schema.query.accepted store schema.indexName = store.documentsOf schema.indexName := by
  rw [(Query.isPlain_schema_query schema).accepted_eq, Schema.query, hsoft]
  exact List.filter_eq_self.2 fun _ _ ↦ rfl

variable (h : schema.LooksUp store)
include h

/-- A value that is no float is loosely equal to the key of a document exactly if its text is the
document's id. -/
theorem LooksUp.looselyEqual_key_iff {found : Found}
    (hfound : found ∈ store.documentsOf schema.indexName) {value : Json}
    (hfloat : ∀ x, value ≠ .ofBinary64 x) :
    looselyEqual (documentField found.source schema.keyName) value = true ↔
      value.scalarText? = some found.id := by
  have hstored := Store.keyedBy_iff.1 h.keyedBy found hfound
  obtain ⟨own, hown, htext⟩ := Option.bind_eq_some_iff.1 hstored
  rw [documentField_of_plain h.plain hown]
  constructor
  · intro hequal
    exact (scalarText?_eq_of_looselyEqual hequal hfloat).symm.trans htext
  · intro hvalue
    exact looselyEqual_of_scalarText_eq htext hvalue

/-- A query for a key accepts the document whose id is the text of the key. -/
theorem LooksUp.accepted_eq_stored (hsoft : schema.softDelete = false) {value : Json} {key : String}
    (hkey : value.scalarText? = some key) (hfloat : ∀ x, value ≠ .ofBinary64 x) :
    (schema.query.refine [.whereEq schema.keyName value]).accepted store schema.indexName =
      ((store.document? schema.indexName key).map fun source ↦
        (⟨schema.indexName, key, source⟩ : Found)).toList := by
  rw [← Store.filter_id_documentsOf, ← accepted_query hsoft]
  show (schema.query.push .must (.leaf (.term schema.keyName value))).accepted store _ = _
  rw [Query.accepted_push_must, accepted_query hsoft]
  refine List.filter_congr fun found hfound ↦ ?_
  show looselyEqual (documentField found.source schema.keyName) value = decide (found.id = key)
  rw [Bool.eq_iff_iff, decide_eq_true_iff, h.looselyEqual_key_iff hfound hfloat, hkey,
    Option.some_inj, eq_comm]

/-- **The law of reading by key.** A query for a key reads the document whose id is the text of the
key, if there is one, and only writes its request down. -/
theorem LooksUp.get_whereEq_runOn (hsoft : schema.softDelete = false) {value : Json} {key : String}
    (hkey : value.scalarText? = some key) (hfloat : ∀ x, value ≠ .ofBinary64 x) :
    ∃ request,
      (schema.query.refine [.whereEq schema.keyName value]).get.runOn Store.backend store =
        (.ok (.records (((store.document? schema.indexName key).map fun source ↦
          ({ schema := schema, attributes := source.fieldsOrNone } : Record)).toList)),
          store.noting .search request) := by
  have hplain : (schema.query.refine [.whereEq schema.keyName value]).IsPlain :=
    (Query.isPlain_schema_query schema).push .must (.leaf (.term schema.keyName value))
  have hschema : (schema.query.refine [.whereEq schema.keyName value]).schema = schema := by
    rw [Query.schema_refine, schema_query]
  obtain ⟨request, hread⟩ := hplain.get_runOn (hschema.symm ▸ h.cast_eq_none)
    (hschema.symm ▸ h.keyedBy) (hschema.symm ▸ h.idle)
  rw [hschema, h.accepted_eq_stored hsoft hkey hfloat] at hread
  refine ⟨request, hread.trans ?_⟩
  cases store.document? schema.indexName key <;> rfl

/-! ### Keyed documents after a batch -/

/-- After a batch of the schema's records was written, documents are still looked up by key. -/
theorem LooksUp.of_made_write {records : List Record} {after : Store}
    (hschema : ∀ record ∈ records, record.schema = schema)
    (hmade : Change.write.Made (records.map Record.toEntry) store after) :
    schema.LooksUp after := by
  refine ⟨h.cast_eq_none, h.plain, fun id source hstored ↦ ?_, ?_⟩
  · rw [Change.document?_of_made_write hmade] at hstored
    split at hstored
    · next entry hlast =>
      obtain ⟨hmem, -, hkey, -⟩ := Entry.of_lastWritten?_eq_some hlast
      obtain ⟨record, hrecord, rfl⟩ := List.mem_map.1 hmem
      rw [← Option.some.inj hstored, ← hschema record hrecord]
      exact record.keyText?_ofObject.trans hkey
    · exact h.keyedBy id source hstored
  · rw [Store.Idle, hmade.answers.searchAnswers]
    exact h.idle

/-- So they are after any batch was removed. -/
theorem LooksUp.of_made_remove {entries : List Entry} {after : Store}
    (hmade : Change.remove.Made entries store after) : schema.LooksUp after := by
  refine ⟨h.cast_eq_none, h.plain, fun id source hstored ↦ ?_, ?_⟩
  · rw [Change.document?_of_made_remove hmade] at hstored
    split at hstored
    · exact absurd hstored nofun
    · exact h.keyedBy id source hstored
  · rw [Store.Idle, hmade.answers.searchAnswers]
    exact h.idle

/-- So they are after requests were written down. -/
theorem LooksUp.of_logs {after : Store} (hlogs : store.Logs after) : schema.LooksUp after := by
  obtain ⟨requests, rfl⟩ := hlogs
  exact ⟨h.cast_eq_none, h.plain, h.keyedBy, h.idle⟩

end Schema

/-! ### Batches of records -/

/-- The last of the records that has contents and the key. -/
def Record.lastOf? (key : String) (records : List Record) : Option Record :=
  records.reverse.find? fun record ↦ record.key? = some key ∧ record.attributes ≠ ∅

/-- What is last written under a key are the contents of the last record of the key. -/
theorem Entry.lastWritten?_map_toEntry {schema : Schema} {records : List Record}
    (hschema : ∀ record ∈ records, record.schema = schema) (key : String) :
    lastWritten? schema.indexName key (records.map Record.toEntry) =
      (Record.lastOf? key records).map Record.toEntry := by
  rw [lastWritten?, ← List.map_reverse, List.find?_map, Record.lastOf?]
  refine congrArg (Option.map Record.toEntry) (List.find?_congr fun record hrecord ↦ ?_)
  have hindex : record.toEntry.schema.indexName = schema.indexName :=
    congrArg Schema.indexName (hschema record (List.mem_reverse.1 hrecord))
  rw [Function.comp_apply, Bool.eq_iff_iff, writesTo_iff, decide_eq_true_iff]
  exact and_iff_right hindex

/-- A record with a key has contents, so a key of some record has a last one. -/
theorem Record.exists_lastOf? {key : String} {records : List Record}
    (h : ∃ record ∈ records, record.key? = some key) : ∃ last, lastOf? key records = some last := by
  obtain ⟨record, hrecord, hkey⟩ := h
  refine Option.isSome_iff_exists.1 (List.find?_isSome.2 ⟨record, List.mem_reverse.2 hrecord, ?_⟩)
  refine decide_eq_true ⟨hkey, fun hempty ↦ ?_⟩
  rw [key?, attributeText?, get?, hempty, Dict.get?_empty] at hkey
  exact Option.some_ne_none key hkey.symm

/-- A batch of an engine that succeeds makes all of its changes. -/
theorem Change.made_of_runOn_eq_ok {engine : Engine} {change : Change} {entries : List Entry}
    {caches changed : Caches} {store after : Store} {report : Report}
    (h : (change.job engine entries).runOn Store.backend caches store =
      ((.ok report, changed), after)) : change.Made entries store after := by
  obtain ⟨outcome, _, _, hrun, -, hmade⟩ := runOn_job engine change entries caches store
  obtain ⟨hleft, rfl⟩ := Prod.mk.inj (h.symm.trans hrun)
  obtain ⟨rfl, -⟩ := Prod.mk.inj hleft
  exact hmade

/-- **Written records are read back by their keys.** A batch of a schema's records is written into a
store whose documents are looked up by key. For every value that is no float and whose text is the
key of some record of the batch, a query for that value then reads exactly one record, which has the
attributes of the last record of that key. When records of which one has this key were removed
later, it reads none. -/
theorem written_read_back (schema : Schema) (store : Store) (h : schema.LooksUp store)
    (hsoft : schema.softDelete = false) (engine : Engine) (records : List Record)
    (hschema : ∀ record ∈ records, record.schema = schema) (caches changed : Caches)
    (report : Report) (after : Store)
    (hupdate : (engine.update (records.map Record.toEntry)).runOn Store.backend caches store =
      ((.ok report, changed), after))
    (value : Json) (hfloat : ∀ x, value ≠ .ofBinary64 x) (key : String)
    (hkey : value.scalarText? = some key) (hmem : ∃ record ∈ records, record.key? = some key) :
    let wanted := schema.query.refine [.whereEq schema.keyName value]
    (∃ last request, Record.lastOf? key records = some last ∧
      wanted.get.runOn Store.backend after =
        (.ok (.records [{ schema := schema, attributes := last.attributes }]),
          after.noting .search request)) ∧
    ∀ (remover : Engine) (removed : List Record) (known later : Caches) (before rest : Store)
      (gone : Report), after.Logs before →
      (∃ record ∈ removed, record.schema = schema ∧ record.key? = some key) →
      (remover.delete (removed.map Record.toEntry)).runOn Store.backend known before =
        ((.ok gone, later), rest) →
      ∃ request, wanted.get.runOn Store.backend rest =
        (.ok (.records []), rest.noting .search request) := by
  intro wanted
  have hmade : Change.write.Made (records.map Record.toEntry) store after :=
    Change.made_of_runOn_eq_ok hupdate
  have hwritten := h.of_made_write hschema hmade
  obtain ⟨last, hlast⟩ := Record.exists_lastOf? hmem
  refine ⟨?_, fun remover removed known later before rest gone hlogs hgone hdelete ↦ ?_⟩
  · have hstored : after.document? schema.indexName key = some (.ofObject last.attributes) := by
      rw [Change.document?_of_made_write hmade, Entry.lastWritten?_map_toEntry hschema, hlast]
      rfl
    obtain ⟨request, hread⟩ := hwritten.get_whereEq_runOn hsoft hkey hfloat
    refine ⟨last, request, hlast, hread.trans ?_⟩
    rw [hstored, Option.map_some, Json.fieldsOrNone_ofObject]
    rfl
  · have hremoved : Change.remove.Made (removed.map Record.toEntry) before rest :=
      Change.made_of_runOn_eq_ok hdelete
    have hmissing : rest.document? schema.indexName key = none := by
      obtain ⟨record, hrecord, hof, hownKey⟩ := hgone
      rw [Change.document?_of_made_remove hremoved, if_pos]
      refine List.any_eq_true.2 ⟨record.toEntry, List.mem_map_of_mem hrecord, ?_⟩
      exact Entry.isAt_iff.2 ⟨congrArg Schema.indexName hof, hownKey⟩
    obtain ⟨request, hread⟩ :=
      ((hwritten.of_logs hlogs).of_made_remove hremoved).get_whereEq_runOn hsoft hkey hfloat
    refine ⟨request, hread.trans ?_⟩
    rw [hmissing]
    rfl

/-- Two users of the key `7`, which is a text and then a number, a user of a key that contains it,
and a user without contents. -/
def sevens : List Record :=
  [user [("id", .string "7"), ("name", .string "x")], user [],
    user [("id", .ofNat 7), ("name", .string "y")], user [("id", .ofNat 70)]]

/-- The text `7` reads the second one of its users, and none when the first one was removed. -/
theorem written_read_back_sevens :
    let wanted := (Schema.ofTable "users").query.refine [.whereEq "id" (.string "7")]
    let run := (Engine.update {} (sevens.map Record.toEntry)).runOn Store.backend {} keyedUsers
    let gone := (Engine.delete {} ((sevens.take 1).map Record.toEntry)).runOn Store.backend {} run.2
    run.1.1 = .ok { indexed := 3, skipped := 1 } ∧ gone.1.1 = .ok { indexed := 1 } ∧
      (∃ record, (wanted.get.runOn Store.backend run.2).1 = .ok (.records [record]) ∧
        record.attributes = .ofList [("id", .ofNat 7), ("name", .string "y")]) ∧
      (wanted.get.runOn Store.backend gone.2).1 = .ok (.records []) := by
  intro wanted run gone
  have hlooksUp : (Schema.ofTable "users").LooksUp keyedUsers :=
    looksUp_ofTable (Store.keyedBy_iff.2 (by decide +kernel)) rfl
  have hrun : run.1.1 = .ok { indexed := 3, skipped := 1 } := by decide +kernel
  have hgone : gone.1.1 = .ok { indexed := 1 } := by decide +kernel
  have hlast : (Record.lastOf? "7" sevens).map Record.attributes =
      some (.ofList [("id", .ofNat 7), ("name", .string "y")]) := by
    decide +kernel
  obtain ⟨⟨last, request, hof, hread⟩, hremoved⟩ := written_read_back (.ofTable "users") keyedUsers
    hlooksUp rfl {} sevens (by simp [sevens, user]) {} run.1.2 _ run.2
    (Prod.ext (Prod.ext hrun rfl) rfl) (.string "7") (by simp [Json.ofBinary64]) "7" rfl
    ⟨_, List.mem_cons_self, by decide +kernel⟩
  obtain ⟨nothing, hnone⟩ := hremoved {} (sevens.take 1) {} gone.1.2 run.2 gone.2 _
    ⟨run.2.requests, rfl⟩ ⟨_, List.mem_cons_self, rfl, by decide +kernel⟩
    (Prod.ext (Prod.ext hgone rfl) rfl)
  refine ⟨hrun, hgone, ⟨_, congrArg Prod.fst hread, ?_⟩, congrArg Prod.fst hnone⟩
  rw [hof] at hlast
  exact Option.some.inj hlast

end RecordSearch
