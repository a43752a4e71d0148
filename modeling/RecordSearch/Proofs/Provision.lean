import RecordSearch.Proofs.Memo
/-!
# What a failed provision leaves behind

The index of a schema is provisioned in steps: it is looked for, created and given its mapping, and
each of them can fail. What comes of it is told from the state before: the index is there in any
case, and it has the mapping of the schema unless that is **refused** (`Schema.refusal?`), because
there is none, or because the probe hides an index that exists (`Schema.provisioned`,
`syncMapping_runOn`). An update does this for the tables that it reaches (`Engine.reached`), each
of which has an index of its own, so that no provision sees what another one does: one sync is
`syncMapping_provisions`, and by induction all of them are `syncAll_provisions`.

A missing mapping is noticed last of all, when the index is created already. So a provision that
fails leaves the indices as they were unless the schema has no mapping and its index was missing
(`failed_provision_restores_iff`).
-/

namespace RecordSearch

/-! ### What is known of indices -/

namespace Store

/-- The same is known of an index in two states: with what body it was created, if at all, and its
mapping. The probe fails in both of them or in neither. -/
structure SameAt (index : String) (before after : Store) : Prop where
  /-- The index was created alike. -/
  created : after.indices.get? index = before.indices.get? index
  /-- It has the same mapping. -/
  mapping : after.mappings.get? index = before.mappings.get? index
  /-- The probe is the same. -/
  probe : after.failsProbe = before.failsProbe

/-- The same is known of all indices in two states. -/
structure SameIndices (before after : Store) : Prop where
  /-- The indices were created alike. -/
  indices : after.indices = before.indices
  /-- They have the same mappings. -/
  mappings : after.mappings = before.mappings
  /-- The probe is the same. -/
  probe : after.failsProbe = before.failsProbe

variable {index : String} {before between after : Store}

theorem SameAt.refl (store : Store) : SameAt index store store :=
  ⟨rfl, rfl, rfl⟩

theorem SameAt.trans (h : SameAt index before between) (h' : SameAt index between after) :
    SameAt index before after :=
  ⟨h'.created.trans h.created, h'.mapping.trans h.mapping, h'.probe.trans h.probe⟩

theorem SameAt.contains_eq (h : SameAt index before after) :
    after.indices.contains index = before.indices.contains index :=
  congrArg Option.isSome h.created

theorem SameIndices.refl (store : Store) : SameIndices store store :=
  ⟨rfl, rfl, rfl⟩

theorem SameIndices.trans (h : SameIndices before between) (h' : SameIndices between after) :
    SameIndices before after :=
  ⟨h'.indices.trans h.indices, h'.mappings.trans h.mappings, h'.probe.trans h.probe⟩

/-- The same is known of all indices if it is of each. -/
theorem sameIndices_iff : SameIndices before after ↔ ∀ index, SameAt index before after := by
  constructor
  · intro h index
    exact ⟨by rw [h.indices], by rw [h.mappings], h.probe⟩
  · intro h
    exact ⟨Dict.ext_get? fun index ↦ (h index).created, Dict.ext_get? fun index ↦ (h index).mapping,
      (h "").probe⟩

theorem sameIndices_noting (store : Store) (op : Operation) (request : Json) :
    SameIndices store (store.noting op request) :=
  ⟨rfl, rfl, rfl⟩

end Store

namespace Schema

variable (schema : Schema) (store : Store)

/-! ### The provision of one index -/

/-- The body with which the index of a schema is created. -/
def creationBody : Json :=
  .ofObject (if schema.settings.isEmpty then ∅ else .single "settings" (.ofObject schema.settings))

/-- The mapping that is written for a schema. -/
def mappingBody : Json :=
  .ofObject (.single schema.typeName (.ofObject schema.mapping))

/-- The error of an index that is created although it exists. -/
def alreadyThere : Error :=
  .backend ("400: resource_already_exists_exception: index [" ++ schema.indexName ++
    "] already exists")

/-- Why the mapping of the schema cannot be brought up to date, if it cannot: the probe hides an
index that exists, or there is no mapping. -/
def refusal? : Option Error :=
  if store.indices.contains schema.indexName && store.failsProbe then some schema.alreadyThere
  else if schema.mapping.isEmpty then some (.configuration (.missingMapping schema.table))
  else none

/-- The store in which the index of the schema exists. -/
def created : Store :=
  if store.indices.contains schema.indexName then store
  else { store with indices := store.indices.insert schema.indexName schema.creationBody }

/-- The store in which the mapping of the schema is written. -/
def mapped : Store :=
  { store with mappings := store.mappings.insert schema.indexName schema.mappingBody }

/-- The store in which the index of the schema was provisioned: it is there, with its mapping unless
that is refused. -/
def provisioned : Store :=
  match schema.refusal? store with
  | some _ => schema.created store
  | none => schema.mapped (schema.created store)

/-- Nothing is to be done for the index of the schema: it exists, and its mapping is refused or the
one that is written. -/
def Settled : Prop :=
  store.indices.contains schema.indexName = true ∧
    ((schema.refusal? store).isSome ∨
      store.mappings.get? schema.indexName = some schema.mappingBody)

/-- The probe sees the index if it exists, unless the probe fails. -/
theorem indexExists_runOn : ∃ after,
    schema.indexExists.runOn Store.backend store =
      (.ok (store.indices.contains schema.indexName && !store.failsProbe), after) ∧
      store.SameIndices after := by
  refine ⟨_, ?_, store.sameIndices_noting .indexExists
    (PlainRequest.render { envelope := .forIndex schema })⟩
  have htarget : targetIndices (PlainRequest.render { envelope := .forIndex schema }) =
      [schema.indexName] := schema.isAsked_forIndex .indexExists ∅
  rw [indexExists, Fetch.runOn_bind_of_ok (Fetch.runOn_attempt _ _ _ _), Store.reply_backend,
    Store.reply, Store.indexExists, htarget, List.all_cons, List.all_nil, Bool.and_true]
  cases hprobe : store.failsProbe with
  | true => simp [Store.noting, hprobe]
  | false => simp [Store.noting, hprobe]

/-- The request that creates an index has the settings of the schema for a body. -/
theorem bodyOf_creation :
    Store.bodyOf (PlainRequest.setKeyIfSaid { envelope := .forIndex schema } "settings"
      (.ofObject schema.settings)).render = schema.creationBody := by
  have hvoid : (Json.ofObject schema.settings).isVoid = schema.settings.isEmpty := rfl
  rw [PlainRequest.setKeyIfSaid, creationBody, hvoid]
  split
  · rfl
  · exact PlainRequest.bodyOf_render (Dict.insert_ne_empty _ _ _)

/-- An index is created unless it exists. -/
theorem createIndex_runOn : ∃ after,
    schema.createIndex.runOn Store.backend store =
        (if store.indices.contains schema.indexName then .error schema.alreadyThere else .ok (),
          after) ∧
      (schema.created store).SameIndices after := by
  have htarget : targetIndices (PlainRequest.setKeyIfSaid { envelope := .forIndex schema }
      "settings" (.ofObject schema.settings)).render = [schema.indexName] :=
    schema.createIndex_asksOnly.1
  rw [createIndex, Fetch.runOn_bind, Fetch.runOn_ask, Store.reply_backend, Store.reply,
    Store.createIndex, htarget, schema.bodyOf_creation, created]
  cases hindex : store.indices.contains schema.indexName with
  | true =>
    simp only [Store.noting, List.find?_cons, hindex]
    exact ⟨_, rfl, rfl, rfl, rfl⟩
  | false =>
    simp only [Store.noting, List.find?_cons, hindex, List.find?_nil]
    exact ⟨_, rfl, rfl, rfl, rfl⟩

/-- A mapping is written unless there is none. -/
theorem updateMapping_runOn : ∃ after,
    schema.updateMapping.runOn Store.backend store =
        (if schema.mapping.isEmpty then .error (.configuration (.missingMapping schema.table))
          else .ok (), after) ∧
      (if schema.mapping.isEmpty then store else schema.mapped store).SameIndices after := by
  rw [updateMapping]
  cases hempty : schema.mapping.isEmpty with
  | true =>
    rw [mappingRequest, hempty]
    exact ⟨store, rfl, .refl store⟩
  | false =>
    obtain ⟨request, hrequest⟩ : ∃ request, schema.mappingRequest = .ok request := by
      rw [mappingRequest, hempty]
      exact ⟨_, rfl⟩
    have htarget : targetIndices request.render = [schema.indexName] :=
      schema.isAsked_of_mappingRequest .putMapping hrequest
    have hbody : Store.bodyOf request.render = schema.mappingBody := by
      rw [mappingRequest, hempty] at hrequest
      obtain rfl := Except.ok.inj hrequest
      exact PlainRequest.bodyOf_render (Dict.insert_ne_empty _ _ _)
    rw [hrequest, Fetch.runOn_bind_of_ok (Fetch.runOn_ofExcept _ _ _), Fetch.runOn_bind,
      Fetch.runOn_ask, Store.reply_backend, Store.reply, Store.putMapping, htarget, hbody]
    exact ⟨_, rfl, rfl, rfl, rfl⟩

variable {schema store}

theorem sameIndices_created {other : Store} (h : store.SameIndices other) :
    (schema.created store).SameIndices (schema.created other) := by
  rw [created, created, h.indices]
  split
  · exact h
  · exact ⟨rfl, h.mappings, h.probe⟩

theorem sameIndices_mapped {other : Store} (h : store.SameIndices other) :
    (schema.mapped store).SameIndices (schema.mapped other) :=
  ⟨h.indices, by rw [mapped, mapped, h.mappings], h.probe⟩

/-- An index that exists is left alone; if the probe hides it, it cannot be created. -/
theorem ensureIndex_runOn_of_contains (hindex : store.indices.contains schema.indexName = true) :
    ∃ after, schema.ensureIndex.runOn Store.backend store =
        (if store.failsProbe then .error schema.alreadyThere else .ok false, after) ∧
      store.SameIndices after := by
  obtain ⟨probed, hprobe, hsame⟩ := schema.indexExists_runOn store
  rw [ensureIndex, Fetch.runOn_bind_of_ok hprobe, hindex]
  cases hfails : store.failsProbe with
  | false => exact ⟨_, rfl, hsame⟩
  | true =>
    obtain ⟨after, hcreate, hcreated⟩ := schema.createIndex_runOn probed
    rw [created, hsame.indices, if_pos hindex] at hcreated
    rw [hsame.indices, if_pos hindex] at hcreate
    exact ⟨after, Fetch.runOn_bind_of_error hcreate, hsame.trans hcreated⟩

/-- An index that is missing is created, and gets its mapping if there is one. -/
theorem ensureIndex_runOn_of_missing (hindex : store.indices.contains schema.indexName = false) :
    ∃ after, schema.ensureIndex.runOn Store.backend store =
        ((schema.refusal? store).elim (.ok true) .error, after) ∧
      (schema.provisioned store).SameIndices after := by
  obtain ⟨probed, hprobe, hsame⟩ := schema.indexExists_runOn store
  obtain ⟨there, hcreate, hcreated⟩ := schema.createIndex_runOn probed
  obtain ⟨after, hupdate, hmapped⟩ := schema.updateMapping_runOn there
  have hthere : (schema.created store).SameIndices there :=
    (sameIndices_created hsame).trans hcreated
  rw [hsame.indices, hindex] at hcreate
  rw [ensureIndex, Fetch.runOn_bind_of_ok hprobe, provisioned, refusal?, hindex]
  cases hempty : schema.mapping.isEmpty with
  | true =>
    rw [hempty] at hupdate hmapped
    exact ⟨after, (Fetch.runOn_bind_of_ok hcreate).trans (Fetch.runOn_bind_of_error hupdate),
      hthere.trans hmapped⟩
  | false =>
    rw [hempty] at hupdate hmapped
    exact ⟨after, (Fetch.runOn_bind_of_ok hcreate).trans (Fetch.runOn_bind_of_ok hupdate),
      (sameIndices_mapped hthere).trans hmapped⟩

/-- If a missing index cannot be ensured, the schema has no mapping, and the index is left behind
without one. -/
theorem of_ensureIndex_eq_error (hindex : store.indices.contains schema.indexName = false)
    {e : Error} {after : Store}
    (h : schema.ensureIndex.runOn Store.backend store = (.error e, after)) :
    schema.mapping = ∅ ∧
      after.indices = store.indices.insert schema.indexName schema.creationBody ∧
        after.mappings = store.mappings := by
  obtain ⟨left, hensure, hsame⟩ := ensureIndex_runOn_of_missing hindex
  obtain ⟨hrefused, rfl⟩ := Prod.mk.inj (h.symm.trans hensure)
  have hempty : schema.mapping = ∅ := by
    by_contra hne
    simp [refusal?, hindex, hne] at hrefused
  have hleft : schema.provisioned store =
      { store with indices := store.indices.insert schema.indexName schema.creationBody } := by
    rw [provisioned, refusal?, hindex, Dict.isEmpty_iff.2 hempty, created, hindex]
    rfl
  rw [hleft] at hsame
  exact ⟨hempty, hsame.indices, hsame.mappings⟩

/-- **What bringing a mapping up to date comes to.** The index is provisioned, and if its mapping is
refused, that is the outcome. -/
theorem syncMapping_runOn (schema : Schema) (store : Store) :
    ∃ after, schema.syncMapping.runOn Store.backend store =
        ((schema.refusal? store).elim (.ok ()) .error, after) ∧
      (schema.provisioned store).SameIndices after := by
  cases hindex : store.indices.contains schema.indexName with
  | false =>
    obtain ⟨after, hensure, hsame⟩ := ensureIndex_runOn_of_missing hindex
    refine ⟨after, ?_, hsame⟩
    cases hrefusal : schema.refusal? store with
    | some e => rw [hrefusal] at hensure; exact Fetch.runOn_bind_of_error hensure
    | none => rw [hrefusal] at hensure; exact Fetch.runOn_bind_of_ok hensure
  | true =>
    obtain ⟨there, hensure, hthere⟩ := ensureIndex_runOn_of_contains hindex
    obtain ⟨after, hupdate, hmapped⟩ := schema.updateMapping_runOn there
    rw [provisioned, refusal?, created, if_pos hindex, hindex]
    cases hfails : store.failsProbe with
    | true =>
      rw [hfails] at hensure
      exact ⟨there, Fetch.runOn_bind_of_error hensure, hthere⟩
    | false =>
      rw [hfails] at hensure
      refine ⟨after, (Fetch.runOn_bind_of_ok hensure).trans ?_, ?_⟩
      · rw [if_neg Bool.false_ne_true, hupdate]
        cases schema.mapping.isEmpty <;> rfl
      · cases hempty : schema.mapping.isEmpty with
        | true => rw [hempty] at hmapped; exact hthere.trans hmapped
        | false => rw [hempty] at hmapped; exact (sameIndices_mapped hthere).trans hmapped

/-! ### What a provision touches -/

/-- The mapping of a schema is refused by what is known of its index. -/
theorem refusal?_congr {other : Store} (h : store.SameAt schema.indexName other) :
    schema.refusal? other = schema.refusal? store := by
  rw [refusal?, refusal?, h.contains_eq, h.probe]

theorem provisioned_congr {other : Store} (h : store.SameAt schema.indexName other) :
    (schema.provisioned store).SameAt schema.indexName (schema.provisioned other) := by
  have hcreated : (schema.created store).SameAt schema.indexName (schema.created other) := by
    rw [created, created, h.contains_eq]
    split
    · exact h
    · exact ⟨by simp, h.mapping, h.probe⟩
  rw [provisioned, provisioned, refusal?_congr h]
  split
  · exact hcreated
  · exact ⟨hcreated.created, by simp [mapped], hcreated.probe⟩

/-- A provision touches one index only. -/
theorem sameAt_provisioned_of_ne {index : String} (h : schema.indexName ≠ index) :
    store.SameAt index (schema.provisioned store) := by
  have hcreated : store.SameAt index (schema.created store) := by
    rw [created]
    split
    · exact .refl store
    · exact ⟨Dict.get?_insert_of_ne _ _ h, rfl, rfl⟩
  rw [provisioned]
  split
  · exact hcreated
  · exact hcreated.trans ⟨rfl, Dict.get?_insert_of_ne _ _ h, rfl⟩

/-- Bringing a mapping up to date is told from what was known of its index at any time before, and
touches no other index. -/
theorem syncMapping_provisions {state : Store} (h : store.SameAt schema.indexName state) :
    ∃ after, schema.syncMapping.runOn Store.backend state =
        ((schema.refusal? store).elim (.ok ()) .error, after) ∧
      (schema.provisioned store).SameAt schema.indexName after ∧
      ∀ index, schema.indexName ≠ index → state.SameAt index after := by
  obtain ⟨after, hsync, hafter⟩ := schema.syncMapping_runOn state
  rw [Store.sameIndices_iff] at hafter
  rw [refusal?_congr h] at hsync
  exact ⟨after, hsync, (provisioned_congr h).trans (hafter _),
    fun index hne ↦ (sameAt_provisioned_of_ne hne).trans (hafter index)⟩

theorem failsProbe_provisioned : (schema.provisioned store).failsProbe = store.failsProbe := by
  have hcreated : (schema.created store).failsProbe = store.failsProbe := by
    rw [created]
    split <;> rfl
  rw [provisioned]
  split <;> exact hcreated

/-- After a provision the index is there. -/
theorem contains_provisioned :
    (schema.provisioned store).indices.contains schema.indexName = true := by
  have hcreated : (schema.created store).indices.contains schema.indexName = true := by
    rw [created]
    split
    · assumption
    · simp
  rw [provisioned]
  split <;> exact hcreated

/-- A provision changes nothing exactly if nothing is to be done. -/
theorem sameAt_provisioned_iff :
    store.SameAt schema.indexName (schema.provisioned store) ↔ schema.Settled store := by
  constructor
  · intro h
    refine ⟨h.contains_eq.symm.trans contains_provisioned, ?_⟩
    have hmapping := h.mapping
    rw [provisioned] at hmapping
    cases hrefusal : schema.refusal? store with
    | some e => exact .inl rfl
    | none =>
      rw [hrefusal] at hmapping
      exact .inr (hmapping.symm.trans (Dict.get?_insert_self _ _ _))
  · rintro ⟨hindex, hmapping⟩
    rw [provisioned, created, if_pos hindex]
    cases hrefusal : schema.refusal? store with
    | some e => exact .refl store
    | none =>
      rw [hrefusal] at hmapping
      exact ⟨rfl, (Dict.get?_insert_self _ _ _).trans (hmapping.resolve_left nofun).symm, rfl⟩

end Schema

/-! ### The provisions of an update -/

namespace Engine

/-- The schemas whose mappings are brought up to date for entries, in order: those of the entries
with contents whose tables are not remembered, each table once, up to the first one whose mapping
is refused. -/
def provisions (store : Store) : MappingMemo → List Entry → List Schema
  | _, [] => []
  | memo, entry :: rest =>
    if entry.projection.isEmpty || memo.contains entry.schema.table then provisions store memo rest
    else entry.schema ::
      if (entry.schema.refusal? store).isSome then []
      else provisions store (memo.claim entry.schema.table).2 rest

variable {store : Store}

/-- A remembered table is not provisioned. -/
theorem not_contains_of_mem_provisions {memo : MappingMemo} {entries : List Entry} {schema : Schema}
    (h : schema ∈ provisions store memo entries) : memo.contains schema.table = false := by
  induction entries generalizing memo with
  | nil => cases h
  | cons entry rest ih =>
    rw [provisions] at h
    split at h
    · exact ih h
    · next hnew =>
      rw [Bool.or_eq_true, not_or] at hnew
      rcases List.mem_cons.1 h with rfl | h
      · exact Bool.eq_false_iff.2 hnew.2
      · split at h
        · cases h
        · have hclaimed := ih h
          rw [MappingMemo.contains_claim, Bool.or_eq_false_iff] at hclaimed
          exact hclaimed.2

/-- **What bringing mappings up to date comes to.** In a state in which no index of a new table was
touched, it provisions the indices told from the store before, and touches no other index. -/
theorem syncAll_provisions (entries : List Entry) (caches : Caches) {state : Store}
    (hstate : ∀ schema : Schema, caches.memo.contains schema.table = false →
      store.SameAt schema.indexName state) :
    ∃ outcome changed after,
      (syncAll entries).runOn Store.backend caches state = ((outcome, changed), after) ∧
      (∀ schema ∈ provisions store caches.memo entries,
        (schema.provisioned store).SameAt schema.indexName after) ∧
      ∀ index, (∀ schema ∈ provisions store caches.memo entries, schema.indexName ≠ index) →
        state.SameAt index after := by
  -- The state moves on, but every table is judged by the store before: its index was not touched
  -- as long as the table is not remembered.
  induction entries generalizing caches state with
  | nil => exact ⟨_, _, _, rfl, nofun, fun index _ ↦ .refl state⟩
  | cons entry rest ih =>
    rw [syncAll, Job.runOn_bind, syncEntry_runOn_eq, provisions]
    by_cases hskip : (entry.projection.isEmpty || caches.memo.contains entry.schema.table) = true
    · rw [if_pos hskip, if_pos hskip]
      exact ih caches hstate
    · rw [if_neg hskip, if_neg hskip]
      have hnew : caches.memo.contains entry.schema.table = false := by
        rw [Bool.or_eq_true, not_or] at hskip
        exact Bool.eq_false_iff.2 hskip.2
      obtain ⟨there, hsync, hhere, helse⟩ :=
        Schema.syncMapping_provisions (hstate entry.schema hnew)
      rw [hsync]
      cases hrefusal : entry.schema.refusal? store with
      | some e =>
        refine ⟨_, _, there, rfl, ?_, ?_⟩
        · intro schema hschema
          rw [List.mem_singleton.1 hschema]
          exact hhere
        · exact fun index hindex ↦ helse index (hindex _ (List.mem_singleton_self _))
      | none =>
        -- The tables behind are others, and so are their indices.
        have hother : ∀ schema : Schema,
            (caches.memo.claim entry.schema.table).2.contains schema.table = false →
              caches.memo.contains schema.table = false ∧
                entry.schema.indexName ≠ schema.indexName := by
          intro schema hschema
          rw [MappingMemo.contains_claim, Bool.or_eq_false_iff, decide_eq_false_iff_not] at hschema
          exact ⟨hschema.2, mt (String.append_left_inj "_index").1 hschema.1⟩
        have hthere : ∀ schema : Schema,
            (caches.memo.claim entry.schema.table).2.contains schema.table = false →
              store.SameAt schema.indexName there := fun schema hschema ↦
          (hstate schema (hother schema hschema).1).trans (helse _ (hother schema hschema).2)
        obtain ⟨outcome, changed, after, hrun, hdone, hrest⟩ :=
          ih { caches with memo := (caches.memo.claim entry.schema.table).2 } hthere
        refine ⟨outcome, changed, after, hrun, ?_, ?_⟩
        · refine List.forall_mem_cons.2 ⟨hhere.trans (hrest _ fun schema hschema ↦ ?_), hdone⟩
          exact (hother schema (not_contains_of_mem_provisions hschema)).2.symm
        · intro index hindex
          obtain ⟨hfirst, hothers⟩ := List.forall_mem_cons.1 hindex
          exact (helse index hfirst).trans (hrest index hothers)

/-- To write documents touches no index. -/
theorem sameIndices_writeAll (indexer : Indexer) (entries : List Entry) (state : Store) :
    state.SameIndices ((indexer.writeAll entries).runOn Store.backend state).2 := by
  have hasks : (indexer.writeAll entries).AsksOnly fun op _ ↦ op = .index :=
    indexer.writeAll_asksOnly entries fun _ ↦ rfl
  refine Exchange.AsksOnly.run_keeps hasks (fun op request between hop h ↦ h.trans ?_)
    (.refl state)
  subst hop
  rw [Store.reply_backend, Store.reply, Store.index]
  split <;> exact ⟨rfl, rfl, rfl⟩

/-- The schemas whose mappings an update brings up to date, if it is told to. -/
def reached (engine : Engine) (store : Store) (memo : MappingMemo) (entries : List Entry) :
    List Schema :=
  if engine.updateMapping then provisions store memo entries else []

/-- **What an update does to indices.** It provisions those of the schemas that it reaches, and
touches no other. -/
theorem update_provisions {engine : Engine} {entries : List Entry} {caches changed : Caches}
    {outcome : Except Error Report} {after : Store}
    (h : (engine.update entries).runOn Store.backend caches store = ((outcome, changed), after)) :
    (∀ schema ∈ engine.reached store caches.memo entries,
      (schema.provisioned store).SameAt schema.indexName after) ∧
    ∀ index, (∀ schema ∈ engine.reached store caches.memo entries, schema.indexName ≠ index) →
      store.SameAt index after := by
  rw [reached]
  rw [update] at h
  cases hmapping : engine.updateMapping with
  | false =>
    rw [hmapping, if_neg Bool.false_ne_true] at h
    dsimp only at h
    rw [Job.runOn_ofFetch] at h
    obtain ⟨-, rfl⟩ := Prod.mk.inj h
    exact ⟨fun _ hschema ↦ absurd hschema List.not_mem_nil,
      fun index _ ↦ Store.sameIndices_iff.1 (sameIndices_writeAll _ _ _) index⟩
  | true =>
    obtain ⟨synced, memory, there, hsync, hdone, hrest⟩ :=
      syncAll_provisions entries caches fun schema _ ↦ Store.SameAt.refl store
    rw [hmapping, if_pos rfl] at h
    have hafter : there.SameIndices after := by
      cases synced with
      | error e =>
        rw [Job.runOn_bind_of_error hsync] at h
        obtain ⟨-, rfl⟩ := Prod.mk.inj h
        exact .refl there
      | ok _ =>
        rw [Job.runOn_bind_of_ok hsync, Job.runOn_ofFetch] at h
        obtain ⟨-, rfl⟩ := Prod.mk.inj h
        exact sameIndices_writeAll _ _ _
    rw [Store.sameIndices_iff] at hafter
    exact ⟨fun schema hschema ↦ (hdone schema hschema).trans (hafter _),
      fun index hindex ↦ (hrest index hindex).trans (hafter index)⟩

/-- An update leaves the indices as they were exactly if nothing was to be done for those that it
reaches. -/
theorem update_restores_iff {engine : Engine} {entries : List Entry} {caches changed : Caches}
    {outcome : Except Error Report} {after : Store}
    (h : (engine.update entries).runOn Store.backend caches store = ((outcome, changed), after)) :
    (after.indices = store.indices ∧ after.mappings = store.mappings) ↔
      ∀ schema ∈ engine.reached store caches.memo entries, schema.Settled store := by
  obtain ⟨hdone, hrest⟩ := update_provisions h
  constructor
  · rintro ⟨hindices, hmappings⟩ schema hschema
    have hafter := hdone schema hschema
    refine Schema.sameAt_provisioned_iff.1 ⟨?_, ?_, Schema.failsProbe_provisioned⟩
    · rw [← hafter.created, hindices]
    · rw [← hafter.mapping, hmappings]
  · intro hsettled
    have hsame : store.SameIndices after := by
      refine Store.sameIndices_iff.2 fun index ↦ ?_
      by_cases hindex : ∃ schema ∈ engine.reached store caches.memo entries,
          schema.indexName = index
      · obtain ⟨schema, hschema, rfl⟩ := hindex
        exact (Schema.sameAt_provisioned_iff.2 (hsettled schema hschema)).trans
          (hdone schema hschema)
      · exact hrest index fun schema hschema heq ↦ hindex ⟨schema, hschema, heq⟩
    exact ⟨hsame.indices, hsame.mappings⟩

end Engine

/-- **A failed provision restores the indices, but for one case.** If an index cannot be ensured,
all indices, with their settings and mappings, are as they were, unless the schema has no mapping
and its index was missing; then the index is left behind without a mapping. If an update fails, all
indices are as they were exactly if nothing was to be done for any schema that it reaches. The index
of a schema whose mapping is refused in it is as it was exactly if it existed. -/
theorem failed_provision_restores_iff (schema : Schema) (engine : Engine) (entries : List Entry)
    (caches : Caches) (store : Store) :
    (∀ e after, schema.ensureIndex.runOn Store.backend store = (.error e, after) →
      ((after.indices = store.indices ∧ after.mappings = store.mappings) ↔
        (schema.mapping = ∅ → store.indices.contains schema.indexName = true)) ∧
      (store.indices.contains schema.indexName = false →
        after.indices = store.indices.insert schema.indexName schema.creationBody ∧
          after.mappings = store.mappings)) ∧
    ∀ e changed after,
      (engine.update entries).runOn Store.backend caches store = ((.error e, changed), after) →
      ((after.indices = store.indices ∧ after.mappings = store.mappings) ↔
        ∀ reached ∈ engine.reached store caches.memo entries, reached.Settled store) ∧
      ∀ reached ∈ engine.reached store caches.memo entries, (reached.refusal? store).isSome →
        (store.SameAt reached.indexName after ↔
          store.indices.contains reached.indexName = true) := by
  refine ⟨fun e after hrun ↦ ?_, fun e changed after hrun ↦
    ⟨Engine.update_restores_iff hrun, fun reached hreached hrefused ↦ ?_⟩⟩
  · cases hindex : store.indices.contains schema.indexName with
    | true =>
      obtain ⟨left, hensure, hsame⟩ := Schema.ensureIndex_runOn_of_contains hindex
      obtain ⟨-, rfl⟩ := Prod.mk.inj (hrun.symm.trans hensure)
      exact ⟨iff_of_true ⟨hsame.indices, hsame.mappings⟩ fun _ ↦ rfl, nofun⟩
    | false =>
      obtain ⟨hempty, hindices, hmappings⟩ := Schema.of_ensureIndex_eq_error hindex hrun
      refine ⟨iff_of_false ?_ fun h ↦ Bool.false_ne_true (h hempty), fun _ ↦
        ⟨hindices, hmappings⟩⟩
      rintro ⟨hunchanged, -⟩
      have hthere : after.indices.contains schema.indexName = true := by
        rw [hindices]
        simp
      rw [hunchanged, hindex] at hthere
      exact Bool.false_ne_true hthere
  · have hafter := (Engine.update_provisions hrun).1 reached hreached
    constructor
    · intro hsame
      rw [← hsame.contains_eq, hafter.contains_eq]
      exact Schema.contains_provisioned
    · intro hindex
      exact (Schema.sameAt_provisioned_iff.2 ⟨hindex, .inl hrefused⟩).trans hafter

/-- A schema without a mapping. -/
def bareSchema : Schema :=
  { Schema.ofTable "bare" with mapping := ∅ }

/-- A record of the schema without a mapping. -/
def bareEntry : Entry where
  schema := bareSchema
  key := some "1"
  projection := .single "id" (.string "1")

/-- The missing index of a schema without a mapping is left behind by an error. From then on it
passes for an index that is ensured. -/
theorem ensureIndex_leaves_bare_index :
    ∃ after, bareSchema.ensureIndex.runOn Store.backend {} =
        (.error (.configuration (.missingMapping "bare")), after) ∧
      after.indices.contains "bare_index" = true ∧ after.mappings = ∅ ∧
      (bareSchema.ensureIndex.runOn Store.backend after).1 = .ok false ∧
      ∃ e changed left, (({} : Engine).update [bareEntry]).runOn Store.backend {} {} =
          ((.error e, changed), left) ∧
        left.indices.contains "bare_index" = true :=
  ⟨_, rfl, by decide +kernel, by decide +kernel, by decide +kernel, _, _, _, rfl,
    by decide +kernel⟩

/-- With an index of users and a probe that fails, neither their index is ensured nor a user
written, and all indices stay as they are. A user without a key is written after the index is
provisioned, so the index is there when that fails. -/
theorem failed_provision_restores_users :
    let hidden : Store := { unmappedStore with failsProbe := true }
    let keyless : Entry := { userEntry "1" with key := none }
    (∃ e after, (Schema.ofTable "users").ensureIndex.runOn Store.backend hidden =
        (.error e, after) ∧ after.indices = hidden.indices ∧ after.mappings = hidden.mappings) ∧
    (∃ e changed after, (({} : Engine).update [userEntry "1"]).runOn Store.backend {} hidden =
        ((.error e, changed), after) ∧
      after.indices = hidden.indices ∧ after.mappings = hidden.mappings) ∧
    ∃ e changed after, (({} : Engine).update [keyless]).runOn Store.backend {} {} =
        ((.error e, changed), after) ∧
      ¬(after.indices = ∅ ∧ after.mappings = ∅) := by
  intro hidden keyless
  obtain ⟨hensures, hupdates⟩ :=
    failed_provision_restores_iff (.ofTable "users") {} [userEntry "1"] {} hidden
  obtain ⟨-, hkeyless⟩ := failed_provision_restores_iff (.ofTable "users") {} [keyless] {} {}
  refine ⟨⟨_, _, rfl, (hensures _ _ rfl).1.2 fun _ ↦ rfl⟩,
    ⟨_, _, _, rfl, (hupdates _ _ _ rfl).1.2 ?_⟩, ⟨_, _, _, rfl, mt (hkeyless _ _ _ rfl).1.1 ?_⟩⟩
  · intro schema hschema
    obtain rfl : schema = .ofTable "users" := List.mem_singleton.1 hschema
    exact ⟨rfl, .inl rfl⟩
  · intro hsettled
    exact Bool.false_ne_true (hsettled (.ofTable "users") List.mem_cons_self).1

end RecordSearch
