import RecordSearch.Proofs.Exchange
import RecordSearch.Proofs.Search
import RecordSearch.Query.Related
/-!
# Reading the records that a query finds

A read searches, maps the response to records and loads their relations. A query is **hand-free**
if neither it nor a load that it asks for is searched by hand. Such a read asks nothing but
searches, however many relations it follows, and the records that it returns are those of its
response with related records attached (`complete_always`). So a read from a store leaves the
documents as they are, and what it finds is told by the documents in the window of the query
(`get_runOn`).
-/

namespace RecordSearch

/-! ### Hand-free queries -/

mutual

/-- Is nothing searched by hand, neither by the step nor by a load that it asks for? -/
def Step.isHandFree : Step → Bool
  | .callback _ => false
  | .load _ (some constraint) => Step.areHandFree constraint
  | _ => true

/-- Is nothing searched by hand by any of the steps? -/
def Step.areHandFree : List Step → Bool
  | [] => true
  | step :: rest => step.isHandFree && Step.areHandFree rest

end

/-- Is nothing searched by hand for the load? -/
def Load.isHandFree (load : Load) : Bool :=
  Step.areHandFree (load.constraint.getD [])

theorem Load.isHandFree_toStep (load : Load) : load.toStep.isHandFree = load.isHandFree := by
  obtain ⟨name, _ | constraint⟩ := load <;> rfl

theorem Step.areHandFree_map_toStep {loads : List Load}
    (h : ∀ load ∈ loads, load.isHandFree = true) :
    Step.areHandFree (loads.map Load.toStep) = true := by
  induction loads with
  | nil => rfl
  | cons load rest ih =>
    obtain ⟨hload, hrest⟩ := List.forall_mem_cons.1 h
    rw [List.map_cons, Step.areHandFree, Load.isHandFree_toStep, hload, ih hrest]
    rfl

namespace Query

/-- Nothing is searched by hand for the query. -/
structure HandFree (query : Query) : Prop where
  /-- The query itself is not searched by hand. -/
  callback_eq_none : query.callback = none
  /-- No load is searched by hand. -/
  loads : ∀ load ∈ query.loads, load.isHandFree = true

theorem HandFree.apply {query : Query} (h : query.HandFree) {step : Step}
    (hstep : step.isHandFree = true) : (step.apply query).HandFree := by
  cases step with
  | callback byHand => exact absurd hstep Bool.false_ne_true
  | load name constraint =>
    refine ⟨h.callback_eq_none, fun load hload ↦ ?_⟩
    rcases List.mem_append.1 hload with hload | hload
    · exact h.loads load hload
    · rw [List.mem_singleton.1 hload, ← Load.isHandFree_toStep]
      exact hstep
  | _ => exact ⟨h.callback_eq_none, h.loads⟩

theorem HandFree.refine {query : Query} (h : query.HandFree) {steps : List Step}
    (hsteps : Step.areHandFree steps = true) : (query.refine steps).HandFree := by
  induction steps generalizing query with
  | nil => exact h
  | cons step rest ih =>
    rw [Step.areHandFree, Bool.and_eq_true] at hsteps
    exact ih (h.apply hsteps.1) hsteps.2

theorem HandFree.schema_query (schema : Schema) : schema.query.HandFree := by
  rw [Schema.query]
  split <;> exact ⟨rfl, fun _ h ↦ absurd h List.not_mem_nil⟩

end Query

/-- The query for related records is hand-free if the loads are. -/
theorem Relation.handFree_query (relation : Relation) {load : Load} {loads : List Load}
    (hload : load.isHandFree = true) (hloads : ∀ other ∈ loads, other.isHandFree = true)
    (keys : List Json) : (relation.query load loads keys).HandFree := by
  have hnested : ∀ other ∈ loads.filterMap fun other ↦ other.under? load.name,
      other.isHandFree = true := by
    intro other hother
    obtain ⟨whole, hwhole, hunder⟩ := List.mem_filterMap.1 hother
    obtain ⟨rest, -, rfl⟩ := Option.map_eq_some_iff.1 hunder
    exact hloads whole hwhole
  rw [Relation.query]
  refine Query.HandFree.refine (Query.HandFree.refine (Query.HandFree.refine ?_ hload)
    (Step.areHandFree_map_toStep hnested)) rfl
  exact (Query.HandFree.schema_query relation.related).apply rfl

/-! ### Searches only -/

/-- Only searches may be asked, and no reply is the missing key of a record. -/
def searchContract : Contract where
  allowed op := op = .search
  replies _ reply := NoMissingKey reply

namespace Query

/-- The one way not to compile is an unknown alias. -/
theorem compile_noMissingKey (query : Query) (options : Options) :
    NoMissingKey (query.compile options) := by
  have hone : ∀ request : SearchRequest,
      NoMissingKey (request.withCriteria query.schema query.criteria options) := by
    intro request
    rw [SearchRequest.withCriteria, SearchRequest.withTarget]
    cases query.criteria.aliasName with
    | none => trivial
    | some name =>
      dsimp only
      rw [Envelope.useAlias]
      cases query.schema.aliasIndex? name with
      | none =>
        exact (rfl : Error.isMissingKey
          (.configuration (.unknownAlias query.schema.table name)) = false)
      | some index => trivial
  rw [compile]
  induction query.baseRequests options with
  | nil => trivial
  | cons request rest ih =>
    rw [List.mapM_cons]
    exact (hone request).bind fun _ _ ↦ ih.bind fun _ _ ↦ trivial

theorem firstWithHits_always (requests : List SearchRequest) (last : Response) :
    (firstWithHits requests last).Always searchContract NoMissingKey := by
  induction requests generalizing last with
  | nil => exact .pure trivial
  | cons request rest ih =>
    rw [firstWithHits]
    refine Fetch.Always.bind_settles (.ask _ rfl) fun body _ ↦ ?_
    dsimp only
    split
    · exact .pure trivial
    · exact ih _

theorem search_always {query : Query} (h : query.callback = none) :
    query.search.Always searchContract NoMissingKey := by
  rw [search, respond, h]
  refine (Fetch.Always.ofExcept (query.compile_noMissingKey {})).bind_settles fun requests _ ↦ ?_
  exact firstWithHits_always requests {}

end Query

/-! ### Records without attached records -/

/-- The record without what is attached to it. -/
def Record.bare (record : Record) : Record :=
  { record with relations := [] }

/-- The records of a result without what is attached to them. -/
def Mapped.bareRecords (mapped : Mapped) : List Record :=
  mapped.toRecords.map Record.bare

/-- A record that is read from a hit is one of the schema, and has nothing attached. -/
theorem Hit.record?_eq_some {hit : Hit} {schema : Schema} {tagged : Bool} {record : Record}
    (h : hit.record? schema tagged = some record) :
    record.schema = schema ∧ record.bare = record := by
  have hhydrate : ∀ attributes : Object, ∀ record ∈ Record.hydrate? schema attributes,
      record.schema = schema ∧ record.bare = record := by
    intro attributes record hrecord
    rw [Record.hydrate?] at hrecord
    split at hrecord
    · cases hrecord
    · rw [← Option.some.inj hrecord]
      exact ⟨rfl, rfl⟩
  obtain ⟨read, hread, hcast⟩ := Option.bind_eq_some_iff.1 h
  split at hcast
  · obtain ⟨attributes, -, hchanged⟩ := Option.bind_eq_some_iff.1 hcast
    exact hhydrate attributes record hchanged
  · rw [← Option.some.inj hcast]
    exact hhydrate _ read hread

namespace Query

/-- **A read asks nothing but searches.** Whatever they are answered, the records that a hand-free
query completes a response to are those of the response, but for what is attached to them. -/
theorem complete_always (query : Query) (hfree : query.HandFree) (response : Response) :
    (query.complete response).Always searchContract
      (Settles fun mapped ↦ mapped.bareRecords = (response.map query).bareRecords) := by
  rw [complete]
  split
  · next buckets hmap =>
    rw [hmap]
    exact .pure rfl
  · next hmap =>
    rw [hmap]
    exact .pure rfl
  · next found _ hmap =>
    rw [hmap]
    -- If every load keeps the records but for what is attached, the fold over the loads does.
    have hloaded : ∀ step : List Record → Load → Fetch (List Record),
        (∀ records, ∀ load ∈ query.loads.filter fun load ↦ !load.isNested,
          records.map Record.bare = found.map Record.bare →
            (step records load).Always searchContract
              (Settles fun loaded ↦ loaded.map Record.bare = found.map Record.bare)) →
        ((query.loads.filter fun load ↦ !load.isNested).foldlM step found >>= fun loaded ↦
            pure (Mapped.records loaded)).Always searchContract
          (Settles fun mapped ↦ mapped.bareRecords = found.map Record.bare) :=
      fun step hstep ↦ (Fetch.Always.foldlM hstep rfl).bind_settles fun loaded h ↦ .pure h
    refine hloaded _ fun records load hload hrecords ↦ ?_
    have hloadFree := hfree.loads load (List.mem_filter.1 hload).1
    dsimp only
    split
    · exact Fetch.Always.throw rfl
    · next relation hrelation =>
      -- The inner query is over a part of the schema, so the induction applies to it.
      have hinner := relation.handFree_query hloadFree hfree.loads
        (distinctValues records relation.foreignKey)
      have hlt := Schema.sizeOf_related_lt hrelation
      have hattached : ∀ related : List Record, (records.map fun record ↦
          record.attach load.name (relation.matching record related)).map Record.bare =
            found.map Record.bare := by
        intro related
        rw [← hrecords, List.map_map]
        rfl
      split
      · exact .pure (hattached [])
      · refine (search_always hinner.callback_eq_none).bind_settles fun answer _ ↦ ?_
        exact (complete_always _ hinner answer).bind_settles fun mapped _ ↦ .pure (hattached _)
termination_by sizeOf query.schema
decreasing_by
  rw [Relation.schema_query]
  exact hlt

/-! ### Reads from a store -/

/-- The records of the documents in the window of a query; a query that groups has none. -/
def recordsFound (query : Query) (store : Store) (base : String) : List Record :=
  if query.criteria.groups.isEmpty then
    (query.shown store base).filterMap fun found ↦
      found.hit.record? query.schema (!query.criteria.unions.isEmpty)
  else []

theorem toRecords_map_storeResponse (query : Query) (options : Options) (store : Store)
    (base : String) :
    ((query.storeResponse options store base).map query).toRecords =
      query.recordsFound store base := by
  rw [Response.map, total_storeResponse, hits_storeResponse, recordsFound]
  split
  · next hnone =>
    rw [shown, List.length_eq_zero_iff.1 hnone, List.drop_nil, List.take_nil, List.filterMap_nil,
      ite_self]
    rfl
  · rw [List.filterMap_map, Dict.first?, Dict.isEmpty]
    cases query.criteria.groups.entries <;> rfl

/-- The records of documents are records of the query's schema, and have nothing attached. -/
theorem of_mem_recordsFound {query : Query} {store : Store} {base : String} {record : Record}
    (h : record ∈ query.recordsFound store base) :
    record.schema = query.schema ∧ record.bare = record := by
  rw [recordsFound] at h
  split at h
  · obtain ⟨found, -, hfound⟩ := List.mem_filterMap.1 h
    exact Hit.record?_eq_some hfound
  · exact absurd h List.not_mem_nil

theorem map_bare_recordsFound (query : Query) (store : Store) (base : String) :
    (query.recordsFound store base).map Record.bare = query.recordsFound store base :=
  (List.map_congr_left fun _ h ↦ (of_mem_recordsFound h).2).trans (List.map_id' _)

end Query

/-- The documents and the answers that wait for counts are the same in both states. -/
structure Store.SameDocuments (before after : Store) : Prop where
  /-- The documents are the same. -/
  documents : after.documents = before.documents
  /-- The same answers wait for counts. -/
  countAnswers : after.countAnswers = before.countAnswers

theorem Store.SameDocuments.document?_eq {before after : Store} (h : SameDocuments before after)
    (index id : String) : after.document? index id = before.document? index id := by
  rw [document?, h.documents, document?]

/-- The store meets the contract, and keeps its documents and the answers that wait for counts. -/
theorem searchContract_metBy (store : Store) :
    searchContract.MetBy Store.backend (Store.SameDocuments store) := by
  rintro op request state rfl ⟨hdocuments, hanswers⟩
  rw [Store.reply_backend, Store.reply, Store.search]
  split <;> exact ⟨trivial, hdocuments, hanswers⟩

namespace Query

variable {query : Query} {base : String} {store : Store}

/-- **The read law.** A hand-free query without free text reads the records of the documents in its
window, unless a relation cannot be loaded, and the documents of the store stay as they are. -/
theorem get_runOn (htext : query.criteria.freeText = none) (hfree : query.HandFree)
    (hbase : query.baseIndex? = .ok base) (hidle : Store.Idle store.searchAnswers base) :
    ∃ outcome after, query.get.runOn Store.backend store = (outcome, after) ∧
      Settles (fun mapped ↦ mapped.bareRecords = query.recordsFound store base) outcome ∧
        Store.SameDocuments store after := by
  have hsearch := search_runOn ⟨htext, hfree.callback_eq_none⟩ hbase hidle
  have hnoted : Store.SameDocuments store (store.noting .search (query.request {} base).render) :=
    ⟨rfl, rfl⟩
  obtain ⟨hsettles, hkept⟩ := (query.complete_always hfree (query.storeResponse {} store base)).run
    (searchContract_metBy store) hnoted
  refine ⟨_, _, Fetch.runOn_bind_of_ok hsearch, ?_, hkept⟩
  rwa [Mapped.bareRecords, toRecords_map_storeResponse, map_bare_recordsFound] at hsettles

/-- A query that loads no relation completes a response without asking. -/
theorem complete_of_loads_eq_nil (hloads : query.loads = []) (response : Response) :
    query.complete response = pure (response.map query) := by
  rw [complete, hloads]
  split
  · next hmap => rw [hmap]
  · next hmap => rw [hmap]
  · next hmap => rw [hmap]; rfl

/-- A filter that loads no relation reads what the response of the store maps to. -/
theorem get_runOn_eq (hfilter : query.IsFilter) (hloads : query.loads = [])
    (hbase : query.baseIndex? = .ok base) (hidle : Store.Idle store.searchAnswers base) :
    query.get.runOn Store.backend store =
      (.ok ((query.storeResponse {} store base).map query),
        store.noting .search (query.request {} base).render) := by
  rw [get, Fetch.runOn_bind_of_ok (search_runOn hfilter hbase hidle),
    complete_of_loads_eq_nil hloads]
  rfl

/-- A query that loads no relation reads its records in any case. -/
theorem get_runOn_of_loads_eq_nil (hfilter : query.IsFilter) (hloads : query.loads = [])
    (hbase : query.baseIndex? = .ok base) (hidle : Store.Idle store.searchAnswers base) :
    ∃ mapped, mapped.bareRecords = query.recordsFound store base ∧
      query.get.runOn Store.backend store =
        (.ok mapped, store.noting .search (query.request {} base).render) := by
  refine ⟨_, ?_, get_runOn_eq hfilter hloads hbase hidle⟩
  rw [Mapped.bareRecords, toRecords_map_storeResponse, map_bare_recordsFound]

end Query

end RecordSearch
