import RecordSearch.Proofs.EveryMatch
import RecordSearch.Proofs.FirstRecord
/-!
# An update by query writes over what it reads

An update by query reads records, fills attributes in, and writes each record back as a whole
document. Nothing gets lost on this way if a record has all that is in its document and its key is
the id under which the document is stored. So for a **direct** query (`Query.IsDirect`) over keyed
documents, each document read has the attributes written over it, and no other document is touched
(`Engine.update_overlays_found`). It does not matter which documents the query finds: it may have a
free text, conditions and any window.

Whether the update reaches all documents that match is another question, which
`Engine.bulk_reaches_matched_iff` answers for queries by bare conditions.
-/

namespace RecordSearch

namespace Query

/-- A query is **direct** if the records that it reads are documents of its schema's own index, one
by one. -/
structure IsDirect (query : Query) : Prop where
  /-- Nothing is searched by hand. -/
  callback_eq_none : query.callback = none
  /-- The result is not grouped. -/
  groups_eq_empty : query.criteria.groups = ∅
  /-- No relation is loaded along. -/
  loads_eq_nil : query.loads = []
  /-- No further index is searched. -/
  unions_eq_nil : query.criteria.unions = []
  /-- The schema's own index is searched. -/
  aliasName_eq_none : query.criteria.aliasName = none

/-! ### What is read -/

namespace IsDirect

variable {query : Query} (h : query.IsDirect) {store : Store}
include h

theorem baseIndex?_eq : query.baseIndex? = .ok query.schema.indexName := by
  rw [baseIndex?, h.aliasName_eq_none]

/-- The winners in the window are documents of the schema's index, in the order of their ids. -/
theorem windowed_sublist : (query.windowed store query.schema.indexName).Sublist
    (store.documentsOf query.schema.indexName) := by
  refine ((List.take_sublist _ _).trans (List.drop_sublist _ _)).trans ?_
  rcases firstNonempty_eq_nil_or_mem
    ((query.payloads query.schema.indexName {}).map store.found) with hnil | hmem
  · rw [winners, hnil]
    exact List.nil_sublist _
  · obtain ⟨payload, hpayload, hfound⟩ := List.mem_map.1 hmem
    have htarget := query.targetIndices_of_mem_payloads query.schema.indexName {} hpayload
    rw [winners, ← hfound, Store.found, htarget, h.unions_eq_nil, List.flatMap_singleton,
      Store.foundIn_eq_filter]
    exact List.filter_sublist

theorem pairwise_id_windowed :
    (query.windowed store query.schema.indexName).Pairwise fun a b ↦ a.id < b.id :=
  (store.pairwise_id_documentsOf _).sublist h.windowed_sublist

variable (hkeyed : store.KeyedBy query.schema)
include hkeyed

theorem keyText?_of_mem_windowed {found : Found}
    (hfound : found ∈ query.windowed store query.schema.indexName) :
    query.schema.keyText? found.source = some found.id :=
  Store.keyedBy_iff.1 hkeyed found (h.windowed_sublist.mem hfound)

/-- What is written over a winner has its id for its key. -/
theorem key_filled_of_mem_windowed {attributes : Object}
    (hname : attributes.get? query.schema.keyName = none)
    (htime : query.schema.keyName ≠ "updated_at") {found : Found}
    (hfound : found ∈ query.windowed store query.schema.indexName) (now : String) :
    (found.filled query.schema attributes now).key = some found.id := by
  rw [found.key_filled query.schema now hname, if_neg fun hboth ↦ htime hboth.2.symm]
  exact h.keyText?_of_mem_windowed hkeyed hfound

/-- A direct query reads the records of the winners in its window. -/
theorem get_runOn (hcast : query.schema.cast = none)
    (hidle : Store.Idle store.searchAnswers query.schema.indexName) :
    ∃ after, query.get.runOn Store.backend store =
        (.ok (.records ((query.windowed store query.schema.indexName).map
          (Found.record · query.schema))), after) ∧
      store.Logs after := by
  obtain ⟨after, hrun, hlogs⟩ := get_runOn_of_winners h.callback_eq_none h.groups_eq_empty
    h.loads_eq_nil h.baseIndex?_eq hidle ⟨store.requests, rfl⟩
  have hread : (query.windowed store query.schema.indexName).filterMap query.recordOf? =
      (query.windowed store query.schema.indexName).map (Found.record · query.schema) := by
    rw [← List.filterMap_eq_map]
    refine List.filterMap_congr fun found hfound ↦ ?_
    rw [recordOf?, h.unions_eq_nil]
    exact Found.record?_hit_of_keyText hcast (h.keyText?_of_mem_windowed hkeyed hfound)
  exact ⟨after, hread ▸ hrun, hlogs⟩

end IsDirect

end Query

/-! ### What is written -/

/-- Requests that were written down before changed nothing. -/
theorem Change.Made.of_logs {change : Change} {entries : List Entry} {store between after : Store}
    (h : change.Made entries between after) (hlogs : store.Logs between) :
    change.Made entries store after := by
  obtain ⟨requests, rfl⟩ := hlogs
  exact ⟨⟨h.answers.searchAnswers, h.answers.countAnswers⟩, h.collection_eq⟩

/-- All entries that are written over documents are written, if they have keys. -/
theorem Found.outcome_allFilled {schema : Schema} {attributes : Object} {clock : Nat → String}
    {documents : List Found} (hattributes : attributes ≠ ∅)
    (hkeys : ∀ found ∈ documents, ∀ now,
      (found.filled schema attributes now).key = some found.id) :
    Change.write.outcome (allFilled documents schema attributes clock) {} =
      .ok { indexed := documents.length } := by
  rw [Change.outcome_write, allFilled, List.length_mapIdx]
  intro entry hentry
  obtain ⟨place, found, hfound, rfl⟩ := mem_allFilled_iff.1 hentry
  rw [hkeys found (List.mem_of_getElem? hfound)]
  exact ⟨found.projection_filled_ne_empty schema (clock place) hattributes, rfl⟩

/-! ### The update -/

namespace Engine

variable {engine : Engine} {query : Query} {store after : Store} {caches changed : Caches}
  {clock : Nat → String} {attributes : Object} {report : Report}

/-- An update that succeeds has written over the documents in the window. -/
theorem made_of_updateMatching_eq_ok (hdirect : query.IsDirect) (hcast : query.schema.cast = none)
    (hkeyed : store.KeyedBy query.schema)
    (hidle : Store.Idle store.searchAnswers query.schema.indexName) (hattributes : attributes ≠ ∅)
    (hrun : (engine.updateMatching clock query attributes).runOn Store.backend caches store =
      ((.ok report, changed), after)) :
    let entries := Found.allFilled (query.windowed store query.schema.indexName) query.schema
      attributes clock
    Change.write.outcome entries {} = .ok report ∧ Change.write.Made entries store after := by
  intro entries
  obtain ⟨between, hget, hlogs⟩ := hdirect.get_runOn hkeyed hcast hidle
  obtain ⟨outcome, _, _, hbatch, hends, hmade⟩ :=
    engine.updateMatching_runOn_of_mapped caches clock hattributes hget
  rw [filledRecords, Mapped.toRecords, mapIdx_map] at hends hmade
  obtain ⟨hleft, rfl⟩ := Prod.mk.inj (hrun.symm.trans hbatch)
  obtain ⟨rfl, -⟩ := Prod.mk.inj hleft
  refine ⟨?_, hmade.of_logs hlogs⟩
  rcases hends with houtcome | ⟨-, -, e, herror, -⟩
  · exact houtcome.symm
  · cases herror

/-- **An update by query writes over what it reads.** Let a direct query be about a schema that
changes no record and whose key is not the time of change, and let the documents of its index be
stored under their keys. If an update with some attributes, not the key among them, succeeds, it
reports as many documents as the query reads records. The document of each of these has the
attributes written over it, and the time of its change if the schema keeps one, and all else that it
had. All other documents of all indices are as before, and none is new. -/
theorem update_overlays_found (engine : Engine) (query : Query) (hdirect : query.IsDirect)
    (hcast : query.schema.cast = none) (htime : query.schema.keyName ≠ "updated_at")
    (store : Store) (hkeyed : store.KeyedBy query.schema)
    (hidle : Store.Idle store.searchAnswers query.schema.indexName) (attributes : Object)
    (hattributes : attributes ≠ ∅) (hname : attributes.get? query.schema.keyName = none)
    (clock : Nat → String) (caches changed : Caches) (report : Report) (after : Store)
    (hrun : (engine.updateMatching clock query attributes).runOn Store.backend caches store =
      ((.ok report, changed), after)) :
    ∃ records, (query.get.runOn Store.backend store).1 = .ok (.records records) ∧
      report = { indexed := records.length, skipped := 0 } ∧
      (∀ (place : Nat) (record : Record), records[place]? = some record →
        ∃ id source written, record.key? = some id ∧
        store.document? query.schema.indexName id = some source ∧
        record.attributes = source.fieldsOrNone ∧
        after.document? query.schema.indexName id = some (.ofObject written) ∧
        ∀ name, written.get? name =
          if query.schema.timestamps = true ∧ "updated_at" = name then
            some (.string (clock place))
          else (attributes.get? name).or (source.field? name)) ∧
      (∀ index id, (index = query.schema.indexName → ∀ record ∈ records, record.key? ≠ some id) →
        after.document? index id = store.document? index id) ∧
      ∀ index id, (after.document? index id).isSome = (store.document? index id).isSome := by
  obtain ⟨between, hget, -⟩ := hdirect.get_runOn hkeyed hcast hidle
  obtain ⟨houtcome, hmade⟩ :=
    made_of_updateMatching_eq_ok hdirect hcast hkeyed hidle hattributes hrun
  have hstored : ∀ found ∈ query.windowed store query.schema.indexName,
      store.document? query.schema.indexName found.id = some found.source :=
    fun found hfound ↦ (Store.mem_documentsOf.1 (hdirect.windowed_sublist.mem hfound)).2
  have hkey : ∀ found ∈ query.windowed store query.schema.indexName,
      (found.record query.schema).key? = some found.id := fun found hfound ↦
    (found.key?_record _).trans (hdirect.keyText?_of_mem_windowed hkeyed hfound)
  have hkeys : ∀ found ∈ query.windowed store query.schema.indexName, ∀ now,
      (found.filled query.schema attributes now).key = some found.id :=
    fun _ ↦ hdirect.key_filled_of_mem_windowed hkeyed hname htime
  rw [Found.outcome_allFilled hattributes hkeys] at houtcome
  have hover : ∀ (place : Nat) (found : Found),
      (query.windowed store query.schema.indexName)[place]? = some found →
      after.document? query.schema.indexName found.id =
        some (.ofObject (found.filled query.schema attributes (clock place)).projection) :=
    fun _ _ ↦ Found.document?_of_getElem? hattributes hkeys hmade hdirect.pairwise_id_windowed
  have hrest : ∀ index id, (index = query.schema.indexName →
      ∀ found ∈ query.windowed store query.schema.indexName, found.id ≠ id) →
      after.document? index id = store.document? index id := fun _ _ ↦
    Found.document?_of_forall_ne hattributes hkeys hmade
  refine ⟨_, congrArg Prod.fst hget, ?_, fun place record hrecord ↦ ?_,
    fun index id hne ↦ hrest index id fun hindex found hfound hid ↦ ?_, fun index id ↦ ?_⟩
  · rw [List.length_map]
    exact (Except.ok.inj houtcome).symm
  · rw [List.getElem?_map, Option.map_eq_some_iff] at hrecord
    obtain ⟨found, hplace, rfl⟩ := hrecord
    have hfound := List.mem_of_getElem? hplace
    refine ⟨found.id, found.source, _, hkey found hfound, hstored found hfound, rfl,
      hover place found hplace, fun name ↦ ?_⟩
    rw [found.get?_projection_filled, Json.field?_eq_get?_fieldsOrNone]
  · exact hne hindex _ (List.mem_map_of_mem hfound) (hid ▸ hkey found hfound)
  · by_cases hwritten : index = query.schema.indexName ∧
        ∃ found ∈ query.windowed store query.schema.indexName, found.id = id
    · obtain ⟨rfl, found, hfound, rfl⟩ := hwritten
      obtain ⟨place, hplace⟩ := List.mem_iff_getElem?.1 hfound
      rw [hover place found hplace, hstored found hfound]
      rfl
    · rw [hrest index id fun hindex found hfound hid ↦ hwritten ⟨hindex, found, hfound, hid⟩]

/-- The second one of the users called by a name. -/
def secondCalled (name : String) : Query :=
  let rule : Rule := .callable fun criteria ↦
    .single "filter" (.single "term" (.single "name" (.string (criteria.freeText.getD ""))))
  ({ Schema.ofTable "users" with timestamps := true }.search name).refine
    [.rule rule, .offset 1, .limit 1]

/-- Of the users called a, the second one gets an age and the time of change and keeps its name, and
the first one stays as it is. -/
theorem update_overlays_secondCalled :
    let store := crowdStore 2
    let query := secondCalled "a"
    let clock (place : Nat) : String := "time " ++ toString place
    ∃ changed after written,
      (({} : Engine).updateMatching clock query (.single "age" (.ofNat 7))).runOn Store.backend {}
        store = ((.ok { indexed := 1, skipped := 0 }, changed), after) ∧
      after.document? "users_index" "1" = store.document? "users_index" "1" ∧
      after.document? "users_index" "2" = some (.ofObject written) ∧
      written.get? "age" = some (.ofNat 7) ∧ written.get? "name" = some (.string "a") ∧
      written.get? "updated_at" = some (.string "time 0") := by
  intro store query clock
  have hkeyed : store.KeyedBy query.schema := Store.keyedBy_iff.2 (by decide +kernel)
  let run := (({} : Engine).updateMatching clock query (.single "age" (.ofNat 7))).runOn
    Store.backend {} store
  have hok : run.1.1 = .ok { indexed := 1, skipped := 0 } := by decide +kernel
  have hrun : run = ((.ok { indexed := 1, skipped := 0 }, run.1.2), run.2) := by rw [← hok]
  obtain ⟨records, hget, -, hover, hrest, -⟩ := update_overlays_found {} query
    ⟨rfl, rfl, rfl, rfl, rfl⟩ rfl (by decide +kernel) store hkeyed rfl (.single "age" (.ofNat 7))
    (by decide +kernel) (by decide +kernel) clock {} run.1.2 _ run.2 hrun
  have hkeys : ((query.get.runOn Store.backend store).1.toOption.map fun mapped ↦
      mapped.toRecords.map Record.key?) = some [some "2"] := by decide +kernel
  rw [hget] at hkeys
  obtain ⟨record, rfl, hkey⟩ := List.map_eq_singleton_iff.1 (Option.some.inj hkeys)
  obtain ⟨id, source, written, hid, hstored, -, hafter, hwritten⟩ :=
    hover 0 record rfl
  obtain rfl : "2" = id := Option.some.inj (hkey.symm.trans hid)
  obtain rfl : Json.ofFields [("id", .ofNat 2), ("name", .string "a")] = source :=
    Option.some.inj (Eq.trans (by decide +kernel) hstored)
  refine ⟨run.1.2, run.2, written, hrun, hrest _ _ fun _ other hother ↦ ?_, hafter,
    (hwritten _).trans (by decide +kernel), (hwritten _).trans (by decide +kernel),
    (hwritten _).trans (by decide +kernel)⟩
  rw [List.mem_singleton.1 hother, hkey]
  decide

end Engine

end RecordSearch
