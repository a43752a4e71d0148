import RecordSearch.Engine.Basic
import RecordSearch.Proofs.Writing
/-!
# The batches of an engine

Before it writes, an engine brings mappings up to date. That touches no document and never fails
for want of a record's key (`syncAll_runOn`), so the outcome of a batch says which of its entries
were changed: `Change.handled` reads them off. `runOn_job` is the law for every batch of an engine,
whatever it remembers and in whatever state the store is.
-/

namespace RecordSearch

/-! ### Mappings -/

/-- What it takes to bring a mapping up to date: to look for the index, to create it and to write
the mapping. -/
def mappingContract : Contract where
  allowed op := op ∈ [Operation.indexExists, .createIndex, .putMapping]
  replies _ reply := NoMissingKey reply

/-- The store meets the contract, and keeps its documents and prepared answers. -/
theorem mappingContract_metBy (store : Store) :
    mappingContract.MetBy Store.backend fun after ↦
      after.documents = store.documents ∧ Store.SameAnswers store after := by
  rintro op request state hop ⟨hdocuments, hanswers⟩
  have hnoted : Store.SameAnswers store (state.noting op request) :=
    hanswers.trans (Store.sameAnswers_noting _ _ _)
  rw [Store.reply_backend]
  rcases op with _ | _ | _ | _ | _ | _ | _
  · simp [mappingContract] at hop
  · simp [mappingContract] at hop
  · simp [mappingContract] at hop
  · simp [mappingContract] at hop
  · rw [Store.reply, Store.indexExists]
    split
    · exact ⟨rfl, hdocuments, hnoted⟩
    · exact ⟨trivial, hdocuments, hnoted⟩
  · rw [Store.reply, Store.createIndex]
    split
    · exact ⟨rfl, hdocuments, hnoted⟩
    · exact ⟨trivial, hdocuments, hnoted.searchAnswers, hnoted.countAnswers⟩
  · exact ⟨trivial, hdocuments, hnoted.searchAnswers, hnoted.countAnswers⟩

theorem mappingContract_ask {op : Operation} (request : Json)
    (h : op ∈ [Operation.indexExists, .createIndex, .putMapping]) :
    (Fetch.ask op request).Always mappingContract NoMissingKey :=
  .ask request h

namespace Schema

variable (schema : Schema)

theorem updateMapping_always : schema.updateMapping.Always mappingContract NoMissingKey := by
  have hrequest : NoMissingKey schema.mappingRequest := by
    rw [mappingRequest]
    split
    · exact rfl
    · exact trivial
  rw [updateMapping]
  refine (Fetch.Always.ofExcept hrequest).bind_settles fun request _ ↦ ?_
  exact (mappingContract_ask _ (by simp)).bind_settles fun _ _ ↦ .pure trivial

theorem createIndex_always : schema.createIndex.Always mappingContract NoMissingKey :=
  (mappingContract_ask _ (by simp)).bind_settles fun _ _ ↦ .pure trivial

theorem ensureIndex_always : schema.ensureIndex.Always mappingContract NoMissingKey := by
  have hexists : schema.indexExists.Always mappingContract NoMissingKey := by
    refine (Fetch.Always.attempt _ (by simp [mappingContract])).bind_settles fun reply _ ↦ ?_
    cases reply <;> exact Fetch.Always.pure trivial
  rw [ensureIndex]
  refine hexists.bind_settles fun found _ ↦ ?_
  cases found with
  | true => exact .pure trivial
  | false =>
    refine schema.createIndex_always.bind_settles fun _ _ ↦ ?_
    exact schema.updateMapping_always.bind_settles fun _ _ ↦ .pure trivial

/-- Whatever the backend replies, bringing a mapping up to date never fails for want of a record's
key. -/
theorem syncMapping_always : schema.syncMapping.Always mappingContract NoMissingKey := by
  rw [syncMapping]
  refine schema.ensureIndex_always.bind_settles fun created _ ↦ ?_
  cases created with
  | true => exact .pure trivial
  | false => exact schema.updateMapping_always

end Schema

/-! ### Batches of an engine -/

namespace Engine

/-- **What a run for one entry does.** Nothing for an entry without contents or of a remembered
table; else the mapping of the table is brought up to date, and the table remembered if that
succeeds. -/
theorem syncEntry_runOn_eq {σ : Type} (backend : Backend σ) (entry : Entry) (caches : Caches)
    (state : σ) :
    (syncEntry entry).runOn backend caches state =
      if entry.projection.isEmpty || caches.memo.contains entry.schema.table then
        ((.ok (), caches), state)
      else
        match entry.schema.syncMapping.runOn backend state with
        | (.ok _, after) =>
          ((.ok (), { caches with memo := (caches.memo.claim entry.schema.table).2 }), after)
        | (.error e, after) => ((.error e, caches), after) := by
  rw [syncEntry]
  cases hempty : entry.projection.isEmpty with
  | true => rfl
  | false =>
    rw [if_neg Bool.false_ne_true, Job.runOn_bind_of_ok (Job.runOn_get _ _ _)]
    -- The table is claimed before its mapping is written, and given back if that fails.
    dsimp only
    rw [Job.runOn_bind_of_ok (Job.runOn_set _ _ _ _), Bool.false_or]
    cases hknown : caches.memo.contains entry.schema.table with
    | true =>
      rw [show (caches.memo.claim entry.schema.table).1 = false by simp [MappingMemo.claim, hknown],
        MappingMemo.claim_of_contains hknown]
      rfl
    | false =>
      rw [show (caches.memo.claim entry.schema.table).1 = true by simp [MappingMemo.claim, hknown],
        if_pos rfl, Job.runOn_bind_of_ok (Job.runOn_attempt _ _ _ _)]
      rcases entry.schema.syncMapping.runOn backend state with ⟨e | _, after⟩
      · show ((Except.error e, { caches with memo := MappingMemo.release _ _ }), after) = _
        rw [MappingMemo.release_claim hknown]
        rfl
      · rfl

/-- A run for one entry keeps what the replies about mappings keep, and fails for want of no key. -/
theorem syncEntry_keeps {σ : Type} {backend : Backend σ} {keeps : σ → Prop}
    (hmet : mappingContract.MetBy backend keeps) (entry : Entry) (caches : Caches) {state : σ}
    (hstate : keeps state) :
    NoMissingKey ((syncEntry entry).runOn backend caches state).1.1 ∧
      keeps ((syncEntry entry).runOn backend caches state).2 := by
  rw [syncEntry_runOn_eq]
  split
  · exact ⟨trivial, hstate⟩
  · obtain ⟨hfinal, hkept⟩ := entry.schema.syncMapping_always.run hmet hstate
    rcases hrun : entry.schema.syncMapping.runOn backend state with ⟨e | _, after⟩
    · rw [hrun] at hfinal hkept
      exact ⟨hfinal, hkept⟩
    · rw [hrun] at hkept
      exact ⟨trivial, hkept⟩

/-- Bringing mappings up to date keeps what the replies about them keep, and fails for want of no
key. -/
theorem syncAll_keeps {σ : Type} {backend : Backend σ} {keeps : σ → Prop}
    (hmet : mappingContract.MetBy backend keeps) (entries : List Entry) (caches : Caches)
    {state : σ} (hstate : keeps state) :
    NoMissingKey ((syncAll entries).runOn backend caches state).1.1 ∧
      keeps ((syncAll entries).runOn backend caches state).2 := by
  induction entries generalizing caches state with
  | nil => exact ⟨trivial, hstate⟩
  | cons entry rest ih =>
    obtain ⟨houtcome, hkept⟩ := syncEntry_keeps hmet entry caches hstate
    rw [syncAll, Job.runOn_bind]
    rcases hrun : (syncEntry entry).runOn backend caches state with ⟨⟨e | _, changed⟩, between⟩
    · rw [hrun] at houtcome hkept
      exact ⟨houtcome, hkept⟩
    · rw [hrun] at hkept
      exact ih changed hkept

/-- A run from a store that fails for want of no key and keeps documents and prepared answers. -/
structure OnlyMappings (store : Store) (run : (Except Error Unit × Caches) × Store) : Prop where
  /-- The run fails for want of no key. -/
  outcome : NoMissingKey run.1.1
  /-- The documents are the same. -/
  documents : run.2.documents = store.documents
  /-- The same prepared answers wait. -/
  answers : Store.SameAnswers store run.2

/-- Bringing mappings up to date touches no document and fails for want of no key. -/
theorem syncAll_runOn {backend : Backend Store}
    (hmet : ∀ store, mappingContract.MetBy backend fun after ↦
      after.documents = store.documents ∧ Store.SameAnswers store after)
    (entries : List Entry) (caches : Caches) (store : Store) :
    OnlyMappings store ((syncAll entries).runOn backend caches store) := by
  obtain ⟨houtcome, hdocuments, hanswers⟩ :=
    syncAll_keeps (hmet store) entries caches ⟨rfl, Store.SameAnswers.refl store⟩
  exact ⟨houtcome, hdocuments, hanswers⟩

end Engine

/-- What a batch of things handled, by its outcome: all of them after a success, those before the
first one at which it stops after a missing key, and none after another error. -/
def handledBy {α : Type} (stops : α → Bool) (items : List α) : Except Error Report → List α
  | .ok _ => items
  | .error e => if e.isMissingKey then items.takeWhile fun item ↦ !stops item else []

theorem mem_of_mem_handledBy {α : Type} {stops : α → Bool} {items : List α}
    {outcome : Except Error Report} {item : α} (h : item ∈ handledBy stops items outcome) :
    item ∈ items := by
  cases outcome with
  | ok report => exact h
  | error e =>
    rw [handledBy] at h
    split at h
    · exact (List.takeWhile_sublist _).mem h
    · exact absurd h List.not_mem_nil

theorem handledBy_map {α β : Type} (stops : β → Bool) (f : α → β) (items : List α)
    (outcome : Except Error Report) :
    handledBy stops (items.map f) outcome =
      (handledBy (fun item ↦ stops (f item)) items outcome).map f := by
  cases outcome with
  | ok report => rfl
  | error e =>
    rw [handledBy, handledBy, List.takeWhile_map]
    split <;> rfl

namespace Change

/-- The engine's job for a batch. -/
def job (engine : Engine) : Change → List Entry → Job Report
  | write => engine.update
  | remove => engine.delete

/-- The entries that a batch changed, by its outcome. -/
def handled (change : Change) (entries : List Entry) (outcome : Except Error Report) :
    List Entry :=
  handledBy change.stops entries outcome

theorem mem_of_mem_handled {change : Change} {entries : List Entry}
    {outcome : Except Error Report} {entry : Entry} (h : entry ∈ change.handled entries outcome) :
    entry ∈ entries :=
  mem_of_mem_handledBy h

/-- The outcomes that an engine's batch can have: that of the batch, or when mappings are written
first, an error on the way to that, which is no missing key. -/
def CanEnd (change : Change) (engine : Engine) (entries : List Entry)
    (outcome : Except Error Report) : Prop :=
  outcome = change.outcome entries {} ∨
    change = .write ∧ engine.updateMapping = true ∧
      ∃ e, outcome = .error e ∧ e.isMissingKey = false

/-- A batch that is carried out changes the entries that it reaches. -/
theorem handled_outcome (change : Change) (entries : List Entry) (report : Report) :
    change.handled entries (change.outcome entries report) = change.reached entries := by
  rw [outcome]
  cases h : entries.find? change.stops with
  | some entry => rfl
  | none => exact (reached_eq_self h).symm

theorem Made.of_documents_eq {change : Change} {store after : Store}
    (hdocuments : after.documents = store.documents) (hanswers : Store.SameAnswers store after) :
    change.Made [] store after := by
  refine ⟨hanswers, fun index ↦ ?_⟩
  rw [applyAll_nil, Store.collection, hdocuments, Store.collection]

/-- A batch of entries that is carried out after the mappings were brought up to date, if at all. -/
theorem Made.after_mappings {change : Change} {entries : List Entry} {store between after : Store}
    (hmappings : change.Made [] store between) (h : change.Made entries between after) :
    change.Made entries store after := by
  refine ⟨hmappings.answers.trans h.answers, fun index ↦ ?_⟩
  rw [h.collection_eq, hmappings.collection_eq, applyAll_nil]

/-- The batch of an indexer as a job. -/
theorem batch_runOn (indexer : Indexer) (change : Change) (entries : List Entry) (caches : Caches)
    (store : Store) :
    ∃ after, (Job.ofFetch (Indexer.forAll (change.act indexer) entries {})).runOn Store.backend
      caches store = ((change.outcome entries {}, caches), after) ∧
        change.Made (change.handled entries (change.outcome entries {})) store after := by
  obtain ⟨after, hrun, hmade⟩ := runOn_forAll indexer store change entries {}
  refine ⟨after, ?_, ?_⟩
  · rw [Job.runOn_ofFetch, hrun]
  · rw [handled_outcome]
    exact hmade

/-- **The law of an engine's batches.** The outcome of a batch is what it can be, and tells which
of its entries were changed. -/
theorem runOn_job (engine : Engine) (change : Change) (entries : List Entry) (caches : Caches)
    (store : Store) :
    ∃ outcome changed after,
      (change.job engine entries).runOn Store.backend caches store = ((outcome, changed), after) ∧
        change.CanEnd engine entries outcome ∧
        change.Made (change.handled entries outcome) store after := by
  -- Mappings leave the documents alone, so the batch itself may start behind them.
  have hbatch : ∀ (caches : Caches) (between : Store), change.Made [] store between →
      ∃ outcome changed after,
        (Job.ofFetch (Indexer.forAll (change.act engine.indexer) entries {})).runOn Store.backend
          caches between = ((outcome, changed), after) ∧
          change.CanEnd engine entries outcome ∧
          change.Made (change.handled entries outcome) store after := by
    intro caches between hmappings
    obtain ⟨after, hrun, hmade⟩ := batch_runOn engine.indexer change entries caches between
    exact ⟨_, _, after, hrun, .inl rfl, hmappings.after_mappings hmade⟩
  cases change with
  | remove => exact hbatch caches store (.nil _ _)
  | write =>
    rw [job, Engine.update]
    cases hmapping : engine.updateMapping with
    | false => exact hbatch caches store (.nil _ _)
    | true =>
      have hsync := Engine.syncAll_runOn mappingContract_metBy entries caches store
      rw [if_pos rfl, Job.runOn_bind]
      rcases hrun : (Engine.syncAll entries).runOn Store.backend caches store with
        ⟨⟨e | _, changed⟩, between⟩
      · rw [hrun] at hsync
        have herror : e.isMissingKey = false := hsync.outcome
        refine ⟨.error e, changed, between, rfl, .inr ⟨rfl, hmapping, e, rfl, herror⟩, ?_⟩
        rw [handled, handledBy, herror]
        exact .of_documents_eq hsync.documents hsync.answers
      · rw [hrun] at hsync
        exact hbatch changed between (.of_documents_eq hsync.documents hsync.answers)

end Change

end RecordSearch
