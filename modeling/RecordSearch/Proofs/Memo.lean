import RecordSearch.Engine.Expand
import RecordSearch.Engine.Resync
import RecordSearch.Proofs.Mappings
import RecordSearch.Proofs.Reading
/-!
# Remembered tables have their mapping

An engine remembers the tables whose mapping it brought up to date. A table is claimed before its
mapping is written and given back if that fails, so between operations it is remembered only after
a success. `Progress` says what every operation of an engine does to the memo and the store: no
table, index or mapping is lost, and a table that is new in the memo has an index and a mapping.
An operation that writes is **careful** besides (`Job.Careful`): it asks nothing about the life of
the index of a remembered table.

Both are closed under composition, so they hold of every operation, and by induction of every run of
operations. `memo_safe` says what this comes to for a run that starts with an empty memo.
-/

namespace RecordSearch

variable {α β : Type} {fails : Nat → Bool}

/-! ### Progress -/

/-- The memo and the store go on from one state to another without a loss, and a table that is new
in the memo has an index and a mapping. -/
structure Progress (caches : Caches) (store : Store) (changed : Caches) (after : Store) : Prop where
  /-- Remembered tables stay remembered. -/
  memo : ∀ table, caches.memo.contains table = true → changed.memo.contains table = true
  /-- Indices and mappings stay. -/
  grows : store.Grows after
  /-- New tables have an index and a mapping. -/
  backed : ∀ table, changed.memo.contains table = true →
    caches.memo.contains table = true ∨ after.Backs table

namespace Progress

variable {caches between changed : Caches} {store middle after : Store}

/-- A memo that stays as it is. -/
theorem of_memo_eq (hmemo : changed.memo = caches.memo) (hgrows : store.Grows after) :
    Progress caches store changed after :=
  ⟨fun _ h ↦ hmemo ▸ h, hgrows, fun _ h ↦ .inl (hmemo ▸ h)⟩

theorem trans (h : Progress caches store between middle)
    (h' : Progress between middle changed after) : Progress caches store changed after where
  memo table htable := h'.memo table (h.memo table htable)
  grows := h.grows.trans h'.grows
  backed table htable := by
    rcases h'.backed table htable with hbetween | hbacks
    · exact (h.backed table hbetween).imp_right fun hbacks ↦ hbacks.of_grows h'.grows
    · exact .inr hbacks

end Progress

/-- The request is not about the life of the index: whether it exists, its creation or its
mapping. -/
def LeavesAlone (index : String) (op : Operation) (request : Json) : Prop :=
  ¬(op ∈ [Operation.indexExists, .createIndex, .putMapping] ∧ index ∈ targetIndices request)

namespace Job

/-- Every run of the job is a progress. -/
def Progresses (fails : Nat → Bool) (job : Job α) : Prop :=
  ∀ caches store outcome changed after,
    job.runOn (Store.probed fails) caches store = ((outcome, changed), after) →
      Progress caches store changed after

/-- Every run of the job is a progress, and leaves the life of the indices of remembered tables
alone. -/
structure Careful (fails : Nat → Bool) (job : Job α) : Prop where
  /-- Every run is a progress. -/
  progresses : job.Progresses fails
  /-- Nothing is asked about the life of the index of a remembered table. -/
  spares : ∀ caches store outcome changed after,
    job.runOn (Store.probed fails) caches store = ((outcome, changed), after) →
      ∀ table, caches.memo.contains table = true →
        Store.Sent (LeavesAlone (table ++ "_index")) store after

theorem Progresses.pure (a : α) : (pure a : Job α).Progresses fails := by
  rintro caches store _ _ _ ⟨⟩
  exact .of_memo_eq rfl (.refl store)

theorem Progresses.throw (e : Error) : (throw e : Job α).Progresses fails := by
  rintro caches store _ _ _ ⟨⟩
  exact .of_memo_eq rfl (.refl store)

theorem Progresses.get : (get : Job Caches).Progresses fails := by
  rintro caches store _ _ _ ⟨⟩
  exact .of_memo_eq rfl (.refl store)

theorem Progresses.modify {change : Caches → Caches}
    (h : ∀ caches, (change caches).memo = caches.memo) :
    (modify change : Job PUnit).Progresses fails := by
  rintro caches store _ _ _ ⟨⟩
  exact .of_memo_eq (h caches) (.refl store)

theorem Progresses.ofFetch (fetch : Fetch α) : (Job.ofFetch fetch).Progresses fails := by
  intro caches store outcome changed after hrun
  rw [runOn_ofFetch] at hrun
  cases hrun
  exact .of_memo_eq rfl (Store.grows_run _)

theorem Progresses.bind {job : Job α} {next : α → Job β} (h : job.Progresses fails)
    (hnext : ∀ a, (next a).Progresses fails) : (job >>= next).Progresses fails := by
  intro caches store outcome changed after hrun
  rw [runOn_bind] at hrun
  rcases hfirst : job.runOn (Store.probed fails) caches store with ⟨⟨e | a, between⟩, middle⟩
  · rw [hfirst] at hrun
    cases hrun
    exact h _ _ _ _ _ hfirst
  · rw [hfirst] at hrun
    exact (h _ _ _ _ _ hfirst).trans (hnext a _ _ _ _ _ hrun)

theorem Careful.pure (a : α) : (pure a : Job α).Careful fails := by
  refine ⟨.pure a, ?_⟩
  rintro caches store _ _ _ ⟨⟩ table _
  exact .refl store

theorem Careful.throw (e : Error) : (throw e : Job α).Careful fails := by
  refine ⟨.throw e, ?_⟩
  rintro caches store _ _ _ ⟨⟩ table _
  exact .refl store

theorem Careful.ofFetch {fetch : Fetch α} (h : ∀ index, fetch.AsksOnly (LeavesAlone index)) :
    (Job.ofFetch fetch).Careful fails := by
  refine ⟨.ofFetch fetch, fun caches store outcome changed after hrun table _ ↦ ?_⟩
  rw [runOn_ofFetch] at hrun
  cases hrun
  exact Store.sent_run (h _)

theorem Careful.bind {job : Job α} {next : α → Job β} (h : job.Careful fails)
    (hnext : ∀ a, (next a).Careful fails) : (job >>= next).Careful fails := by
  refine ⟨h.progresses.bind fun a ↦ (hnext a).progresses, ?_⟩
  intro caches store outcome changed after hrun table htable
  rw [runOn_bind] at hrun
  rcases hfirst : job.runOn (Store.probed fails) caches store with ⟨⟨e | a, between⟩, middle⟩
  · rw [hfirst] at hrun
    cases hrun
    exact h.spares _ _ _ _ _ hfirst table htable
  · rw [hfirst] at hrun
    have hbetween := (h.progresses _ _ _ _ _ hfirst).memo table htable
    exact (h.spares _ _ _ _ _ hfirst table htable).trans
      ((hnext a).spares _ _ _ _ _ hrun table hbetween)

end Job

/-! ### Writing documents -/

/-- To write documents nothing else is asked. -/
theorem Indexer.writeAll_asksOnly (indexer : Indexer) (entries : List Entry)
    {allowed : Operation → Json → Prop} (hallowed : ∀ request, allowed .index request) :
    (indexer.writeAll entries).AsksOnly allowed := by
  have hwrite : ∀ entry, (indexer.write entry).AsksOnly allowed := by
    intro entry
    rw [write]
    split
    · exact trivial
    · refine (Fetch.AsksOnly.ofExcept _).bind fun request ↦ ?_
      exact (Fetch.AsksOnly.ask (hallowed _)).bind fun _ ↦ trivial
  suffices ∀ report, (forAll indexer.write entries report).AsksOnly allowed from this {}
  induction entries with
  | nil => exact fun _ ↦ trivial
  | cons entry rest ih => exact fun report ↦ (hwrite entry).bind fun one ↦ ih _

namespace Engine

/-! ### Mappings -/

/-- What a run for one entry can be: nothing is asked and the memo stays as it is, or the mapping of
a table that was not remembered is brought up to date, and the table is remembered exactly if that
succeeds. -/
theorem syncEntry_cases {σ : Type} {backend : Backend σ} {entry : Entry} {caches changed : Caches}
    {state after : σ} {outcome : Except Error Unit}
    (h : (syncEntry entry).runOn backend caches state = ((outcome, changed), after)) :
    (outcome = .ok () ∧ after = state ∧
      ∀ table, changed.memo.contains table = true ↔ caches.memo.contains table = true) ∨
    (caches.memo.contains entry.schema.table = false ∧
      entry.schema.syncMapping.runOn backend state = (outcome, after) ∧
      ∀ table, changed.memo.contains table = true ↔
        caches.memo.contains table = true ∨ outcome = .ok () ∧ entry.schema.table = table) := by
  rw [syncEntry_runOn_eq] at h
  split at h
  · cases h
    exact .inl ⟨rfl, rfl, fun _ ↦ .rfl⟩
  · next hnew =>
    have hnew : caches.memo.contains entry.schema.table = false := by
      rw [Bool.or_eq_true, not_or] at hnew
      exact Bool.eq_false_iff.2 hnew.2
    rcases hsync : entry.schema.syncMapping.runOn backend state with ⟨e | _, synced⟩
    · rw [hsync] at h
      cases h
      exact .inr ⟨hnew, rfl, by simp⟩
    · rw [hsync] at h
      cases h
      refine .inr ⟨hnew, rfl, fun table ↦ ?_⟩
      simp [MappingMemo.contains_claim, or_comm]

/-- Bringing the mapping for an entry up to date is careful. -/
theorem syncEntry_careful (entry : Entry) : (syncEntry entry).Careful fails := by
  constructor
  · intro caches store outcome changed after h
    rcases syncEntry_cases h with ⟨-, rfl, hmemo⟩ | ⟨-, hsync, hmemo⟩
    · exact ⟨fun table ↦ (hmemo table).2, .refl _, fun table htable ↦ .inl ((hmemo table).1 htable)⟩
    · refine ⟨fun table htable ↦ (hmemo table).2 (.inl htable), Store.grows_runOn hsync,
        fun table htable ↦ ((hmemo table).1 htable).imp_right ?_⟩
      rintro ⟨rfl, rfl⟩
      exact Schema.backs_of_syncMapping hsync
  · intro caches store outcome changed after h table htable
    rcases syncEntry_cases h with ⟨-, rfl, -⟩ | ⟨hnew, hsync, -⟩
    · exact .refl _
    · have hsent := Store.sent_runOn entry.schema.syncMapping_asksOnly hsync
      refine hsent.mono fun op request hasked ⟨_, hindex⟩ ↦ ?_
      rw [hasked, List.mem_singleton] at hindex
      -- The index is that of the entry's table, which is not remembered.
      have heq : table = entry.schema.table := (String.append_left_inj "_index").1 hindex
      rw [heq, hnew] at htable
      exact Bool.false_ne_true htable

/-- Bringing the mappings for entries up to date is careful. -/
theorem syncAll_careful (entries : List Entry) : (syncAll entries).Careful fails := by
  induction entries with
  | nil => exact .pure _
  | cons entry rest ih => exact (syncEntry_careful entry).bind fun _ ↦ ih

/-- If mappings cannot be brought up to date, it is for one entry: those before it succeeded, and
the table of that entry was and is not remembered, while all others stay as they were then. -/
theorem syncAll_error {entries : List Entry} {caches changed : Caches} {store after : Store}
    {e : Error} (h : (syncAll entries).runOn (Store.probed fails) caches store =
      ((.error e, changed), after)) :
    ∃ done entry rest between middle, entries = done ++ entry :: rest ∧
      (syncAll done).runOn (Store.probed fails) caches store = ((.ok (), between), middle) ∧
      entry.schema.syncMapping.runOn (Store.probed fails) middle = (.error e, after) ∧
      between.memo.contains entry.schema.table = false ∧
      ∀ table, changed.memo.contains table = between.memo.contains table := by
  induction entries generalizing caches store with
  | nil => cases h
  | cons first rest ih =>
    rw [syncAll, Job.runOn_bind] at h
    rcases hfirst : (syncEntry first).runOn (Store.probed fails) caches store with
      ⟨⟨e' | _, memory⟩, synced⟩
    · rw [hfirst] at h
      cases h
      rcases syncEntry_cases hfirst with ⟨hok, -, -⟩ | ⟨hnew, hsync, hmemo⟩
      · cases hok
      · refine ⟨[], first, rest, caches, store, rfl, rfl, hsync, hnew, fun table ↦ ?_⟩
        rw [Bool.eq_iff_iff, hmemo table]
        simp
    · rw [hfirst] at h
      obtain ⟨done, entry, others, between, middle, rfl, hdone, hentry⟩ := ih h
      refine ⟨first :: done, entry, others, between, middle, rfl, ?_, hentry⟩
      rw [syncAll, Job.runOn_bind_of_ok hfirst, hdone]

/-! ### Operations -/

variable (engine : Engine)

theorem update_careful (entries : List Entry) : (engine.update entries).Careful fails := by
  have hwrite : (Job.ofFetch (engine.indexer.writeAll entries)).Careful fails :=
    -- Writing a document is no matter of the life of an index.
    .ofFetch fun _ ↦ engine.indexer.writeAll_asksOnly entries fun _ h ↦ absurd h.1 (by decide)
  rw [update]
  split
  · exact (syncAll_careful entries).bind fun _ ↦ hwrite
  · exact hwrite

theorem writeChunks_careful (source : EntrySource) (ids : Option (List String)) (offset : Nat)
    (report : ResyncReport) : (engine.writeChunks source ids offset report).Careful fails := by
  fun_induction engine.writeChunks source ids offset report with
  | case1 => exact .throw _
  | case2 => exact .pure _
  | case3 offset report entry rest hchunk ih =>
    refine (engine.update_careful _).bind fun written ↦ ?_
    dsimp only
    split
    · exact .pure _
    · exact ih written

theorem resync_careful (source : EntrySource) (ids : Option String) :
    (engine.resync source ids).Careful fails := by
  rw [resync]
  split
  · exact .throw _
  · exact engine.writeChunks_careful source _ 0 _

theorem updateMatching_progresses (clock : Nat → String) (query : Query) (attributes : Object) :
    (engine.updateMatching clock query attributes).Progresses fails := by
  rw [updateMatching]
  split
  · exact .pure _
  · exact (Job.Progresses.ofFetch _).bind fun mapped ↦ (engine.update_careful _).progresses

theorem deleteMatching_progresses (query : Query) :
    (engine.deleteMatching query).Progresses fails := by
  refine (Job.Progresses.ofFetch _).bind fun mapped ↦ ?_
  split
  · exact .pure _
  · exact .ofFetch _

end Engine

namespace Schema

variable (schema : Schema)

theorem expand_progresses (ids : List Json) : (schema.expand ids).Progresses fails := by
  rw [expand]
  split
  · exact .pure _
  · refine (Job.Progresses.ofFetch _).bind fun mapped ↦ ?_
    refine Job.Progresses.bind ?_ fun _ ↦ .pure _
    exact .modify fun _ ↦ rfl

theorem expanded_progresses (id : Json) : (schema.expanded id).Progresses fails := by
  rw [expanded]
  split
  · exact .throw _
  · refine Job.Progresses.get.bind fun caches ↦ ?_
    split
    · exact .pure _
    · refine (Job.Progresses.ofFetch _).bind fun found ↦ ?_
      refine Job.Progresses.bind ?_ fun _ ↦ .pure _
      exact .modify fun _ ↦ rfl

end Schema

/-! ### Runs of operations -/

/-- One operation of an engine. -/
inductive Task where
  /-- Write entries. -/
  | update (entries : List Entry)
  /-- Delete the documents of entries. -/
  | delete (entries : List Entry)
  /-- Write attributes over the records that a query finds. -/
  | updateMatching (clock : Nat → String) (query : Query) (attributes : Object)
  /-- Delete the documents of the records that a query finds. -/
  | deleteMatching (query : Query)
  /-- Write a whole source, or some ids of it. -/
  | resync (source : EntrySource) (ids : Option String)
  /-- Create an index that is missing. -/
  | ensureIndex (schema : Schema)
  /-- Remember the records of some ids. -/
  | expand (schema : Schema) (ids : List Json)
  /-- Look the record of an id up. -/
  | expanded (schema : Schema) (id : Json)
  /-- Read, or ask anything else of the backend. -/
  | read {α : Type} (fetch : Fetch α)

namespace Task

/-- The job of an engine for an operation, without its result. -/
def job (engine : Engine) : Task → Job Unit
  | update entries => engine.update entries >>= fun _ ↦ pure ()
  | delete entries => engine.delete entries >>= fun _ ↦ pure ()
  | updateMatching clock query attributes =>
    engine.updateMatching clock query attributes >>= fun _ ↦ pure ()
  | deleteMatching query => engine.deleteMatching query >>= fun _ ↦ pure ()
  | resync source ids => engine.resync source ids >>= fun _ ↦ pure ()
  | ensureIndex schema => Job.ofFetch schema.ensureIndex >>= fun _ ↦ pure ()
  | expand schema ids => schema.expand ids >>= fun _ ↦ pure ()
  | expanded schema id => schema.expanded id >>= fun _ ↦ pure ()
  | read fetch => Job.ofFetch fetch >>= fun _ ↦ pure ()

/-- Every operation is a progress. -/
theorem job_progresses (engine : Engine) (task : Task) : (task.job engine).Progresses fails := by
  cases task with
  | update entries => exact (engine.update_careful entries).progresses.bind fun _ ↦ .pure ()
  | delete entries => exact (Job.Progresses.ofFetch _).bind fun _ ↦ .pure ()
  | updateMatching clock query attributes =>
    exact (engine.updateMatching_progresses clock query attributes).bind fun _ ↦ .pure ()
  | deleteMatching query => exact (engine.deleteMatching_progresses query).bind fun _ ↦ .pure ()
  | resync source ids => exact (engine.resync_careful source ids).progresses.bind fun _ ↦ .pure ()
  | ensureIndex schema => exact (Job.Progresses.ofFetch _).bind fun _ ↦ .pure ()
  | expand schema ids => exact (schema.expand_progresses ids).bind fun _ ↦ .pure ()
  | expanded schema id => exact (schema.expanded_progresses id).bind fun _ ↦ .pure ()
  | read fetch => exact (Job.Progresses.ofFetch fetch).bind fun _ ↦ .pure ()

/-- Carry out operations in order, each by its engine, whether they succeed or fail. -/
def runAll (fails : Nat → Bool) : List (Engine × Task) → Caches → Store → Caches × Store
  | [], caches, store => (caches, store)
  | (engine, task) :: rest, caches, store =>
    let ((_, changed), after) := (task.job engine).runOn (Store.probed fails) caches store
    runAll fails rest changed after

/-- Every run of operations is a progress. -/
theorem runAll_progress (tasks : List (Engine × Task)) (caches : Caches) (store : Store) :
    Progress caches store (runAll fails tasks caches store).1
      (runAll fails tasks caches store).2 := by
  induction tasks generalizing caches store with
  | nil => exact .of_memo_eq rfl (.refl store)
  | cons first rest ih =>
    obtain ⟨engine, task⟩ := first
    rcases hrun : (task.job engine).runOn (Store.probed fails) caches store with
      ⟨⟨outcome, changed⟩, after⟩
    rw [runAll, hrun]
    exact (task.job_progresses engine caches store outcome changed after hrun).trans
      (ih changed after)

end Task

/-! ### Updates -/

/-- A hand-free read leaves the life of every index alone. -/
theorem Query.HandFree.sent_get {query : Query} (h : query.HandFree) (index : String)
    (store : Store) :
    Store.Sent (LeavesAlone index) store (query.get.runOn (Store.probed fails) store).2 := by
  have hget : query.get.Always searchContract NoMissingKey :=
    (Query.search_always h.callback_eq_none).bind_settles fun response _ ↦
      (query.complete_always h response).mono fun outcome houtcome ↦ by cases outcome <;> trivial
  have hmet : searchContract.MetBy (Store.probed fails) (Store.Sent (LeavesAlone index) store) := by
    rintro op request state rfl hstate
    have hreply := (searchContract_metBy _ .search request
      { state with failsProbe := fails state.requests.length } rfl ⟨rfl, rfl⟩).1
    refine ⟨hreply, hstate.trans ⟨[(.search, request)], Store.requests_probed _ _ _ _, ?_⟩⟩
    have hsearch : Operation.search ∉ [Operation.indexExists, .createIndex, .putMapping] := by
      decide
    intro asked hasked
    rw [List.mem_singleton.1 hasked]
    exact fun h ↦ hsearch h.1
  exact (hget.run hmet (.refl store)).2

namespace Engine

variable (engine : Engine)

/-- The state in which an update of what a query finds starts to write: without attributes nothing
is read. -/
def afterRead (fails : Nat → Bool) (query : Query) (attributes : Object) (store : Store) : Store :=
  if attributes.isEmpty then store else (query.get.runOn (Store.probed fails) store).2

/-- Behind its read, an update of what a query finds leaves the life of the indices of remembered
tables alone. -/
theorem sent_updateMatching (clock : Nat → String) (query : Query) (attributes : Object)
    (caches : Caches) (store : Store) {table : String}
    (htable : caches.memo.contains table = true) :
    Store.Sent (LeavesAlone (table ++ "_index")) (afterRead fails query attributes store)
      ((engine.updateMatching clock query attributes).runOn (Store.probed fails) caches
        store).2 := by
  rw [afterRead, updateMatching]
  split
  · exact .refl store
  · rw [Job.runOn_bind, Job.runOn_ofFetch]
    rcases query.get.runOn (Store.probed fails) store with ⟨e | mapped, between⟩
    · exact .refl between
    · dsimp only
      exact (engine.update_careful _).spares caches between _ _ _ rfl table htable

/-- An update of what a query finds leaves the life of the indices of remembered tables alone, if
nothing is searched by hand. -/
theorem sent_updateMatching_of_handFree (clock : Nat → String) {query : Query}
    (hfree : query.HandFree) (attributes : Object) (caches : Caches) (store : Store)
    {table : String} (htable : caches.memo.contains table = true) :
    Store.Sent (LeavesAlone (table ++ "_index")) store
      ((engine.updateMatching clock query attributes).runOn (Store.probed fails) caches
        store).2 := by
  refine Store.Sent.trans ?_ (engine.sent_updateMatching clock query attributes caches store htable)
  rw [afterRead]
  split
  · exact .refl _
  · exact hfree.sent_get _ _

/-- An update whose mappings cannot be brought up to date ends with that error. -/
theorem update_runOn_of_syncAll_error (hmapping : engine.updateMapping = true)
    {entries : List Entry} {caches changed : Caches} {store after : Store} {e : Error}
    (h : (syncAll entries).runOn (Store.probed fails) caches store = ((.error e, changed), after)) :
    (engine.update entries).runOn (Store.probed fails) caches store =
      ((.error e, changed), after) := by
  rw [update, if_pos hmapping]
  exact Job.runOn_bind_of_error h

/-- Bringing mappings up to date leaves the documents as they are, whether it succeeds or fails. -/
theorem documents_of_syncAll {entries : List Entry} {caches changed : Caches}
    {store after : Store} {outcome : Except Error Unit}
    (h : (syncAll entries).runOn (Store.probed fails) caches store = ((outcome, changed), after)) :
    after.documents = store.documents := by
  have hmappings : OnlyMappings store ((syncAll entries).runOn (Store.probed fails) caches store) :=
    syncAll_runOn Store.mappingContract_metBy_probed entries caches store
  rw [h] at hmappings
  exact hmappings.documents

/-- Where bringing mappings up to date fails, one table stays out of the memo, and no table gets
lost. -/
theorem memo_of_syncAll_error {entries : List Entry} {caches changed : Caches}
    {store after : Store} {e : Error}
    (h : (syncAll entries).runOn (Store.probed fails) caches store = ((.error e, changed), after)) :
    ∃ done entry rest between middle, entries = done ++ entry :: rest ∧
      (syncAll done).runOn (Store.probed fails) caches store = ((.ok (), between), middle) ∧
      entry.schema.syncMapping.runOn (Store.probed fails) middle = (.error e, after) ∧
      caches.memo.contains entry.schema.table = false ∧
      changed.memo.contains entry.schema.table = false ∧
      ∀ table, caches.memo.contains table = true ∨ between.memo.contains table = true →
        changed.memo.contains table = true := by
  obtain ⟨done, entry, rest, between, middle, hentries, hdone, hentry, hnew, hmemo⟩ :=
    syncAll_error h
  have hbefore : ∀ table, caches.memo.contains table = true →
      between.memo.contains table = true :=
    ((syncAll_careful done).progresses _ _ _ _ _ hdone).memo
  refine ⟨done, entry, rest, between, middle, hentries, hdone, hentry, ?_, ?_, fun table h ↦ ?_⟩
  · exact Bool.eq_false_iff.2 fun h ↦ absurd (hbefore _ h) (by simp [hnew])
  · rw [hmemo, hnew]
  · rw [hmemo]
    exact h.elim (hbefore table) id

end Engine

/-- **The memo is safe.** Let operations be carried out from an empty memo on, in whatever store, by
one engine or several that share their memories, while the probe fails whenever it does. A table
that is remembered then has an index with a mapping, and is still remembered after any later
operations. From there on no update asks about the life of its index: neither one of entries, nor of
a source, nor, behind its read, one of what a query finds (and the read does not either unless
something is searched by hand). An update whose mappings cannot be brought up to date ends with that
error and leaves the documents as they are. It fails at one entry, whose table was and is not
remembered, and all tables remembered by then stay so. -/
theorem memo_safe (fails : Nat → Bool) (records : RecordCache) (store : Store)
    (tasks later : List (Engine × Task)) :
    let now := Task.runAll fails tasks { records := records } store
    let last := Task.runAll fails later now.1 now.2
    (∀ table, now.1.memo.contains table = true →
      now.2.Backs table ∧ last.1.memo.contains table = true ∧ ∀ engine : Engine,
        let spares (before after : Store) :=
          Store.Sent (LeavesAlone (table ++ "_index")) before after
        (∀ entries, spares last.2
          ((engine.update entries).runOn (Store.probed fails) last.1 last.2).2) ∧
        (∀ source ids, spares last.2
          ((engine.resync source ids).runOn (Store.probed fails) last.1 last.2).2) ∧
        ∀ clock query attributes,
          let update := (engine.updateMatching clock query attributes).runOn (Store.probed fails)
            last.1 last.2
          spares (Engine.afterRead fails query attributes last.2) update.2 ∧
          (query.HandFree → spares last.2 update.2)) ∧
    ∀ (engine : Engine) (entries : List Entry) (e : Error) (changed : Caches) (after : Store),
      engine.updateMapping = true →
      (Engine.syncAll entries).runOn (Store.probed fails) now.1 now.2 =
        ((.error e, changed), after) →
      (engine.update entries).runOn (Store.probed fails) now.1 now.2 =
        ((.error e, changed), after) ∧
      after.documents = now.2.documents ∧
      ∃ done entry rest between middle, entries = done ++ entry :: rest ∧
        (Engine.syncAll done).runOn (Store.probed fails) now.1 now.2 =
          ((.ok (), between), middle) ∧
        entry.schema.syncMapping.runOn (Store.probed fails) middle = (.error e, after) ∧
        now.1.memo.contains entry.schema.table = false ∧
        changed.memo.contains entry.schema.table = false ∧
        ∀ table, now.1.memo.contains table = true ∨ between.memo.contains table = true →
          changed.memo.contains table = true := by
  intro now last
  have hnow : Progress { records := records } store now.1 now.2 := Task.runAll_progress tasks _ _
  have hlast : Progress now.1 now.2 last.1 last.2 := Task.runAll_progress later _ _
  refine ⟨fun table htable ↦ ?_, fun engine entries e changed after hmapping hsync ↦ ?_⟩
  · have hbacks : now.2.Backs table :=
      (hnow.backed table htable).resolve_left Bool.false_ne_true
    have hkept : last.1.memo.contains table = true := hlast.memo table htable
    refine ⟨hbacks, hkept, fun engine ↦ ⟨fun entries ↦ ?_, fun source ids ↦ ?_,
      fun clock query attributes ↦ ?_⟩⟩
    · exact (engine.update_careful entries).spares _ _ _ _ _ rfl table hkept
    · exact (engine.resync_careful source ids).spares _ _ _ _ _ rfl table hkept
    · exact ⟨engine.sent_updateMatching clock query attributes last.1 last.2 hkept, fun hfree ↦
        engine.sent_updateMatching_of_handFree clock hfree attributes last.1 last.2 hkept⟩
  · exact ⟨engine.update_runOn_of_syncAll_error hmapping hsync, Engine.documents_of_syncAll hsync,
      Engine.memo_of_syncAll_error hsync⟩

/-- A user to write. -/
def userEntry (id : String) : Entry where
  schema := .ofTable "users"
  key := some id
  projection := .single "id" (.string id)

/-- A store with an index of users, which has no mapping. -/
def unmappedStore : Store :=
  { indices := .single "users_index" .emptyObject }

/-- The probe of the first request fails, so the first write tries to create the index that exists,
and fails. The second one finds the index and writes its mapping; from there on users are
remembered, and writing another one asks nothing about their index. -/
theorem memo_safe_unmappedStore :
    let fails (sent : Nat) : Bool := sent = 0
    let tasks : List (Engine × Task) :=
      [({}, .update [userEntry "1"]), ({}, .update [userEntry "1"])]
    let now := Task.runAll fails tasks {} unmappedStore
    (∃ e changed after, (({} : Engine).update [userEntry "1"]).runOn (Store.probed fails) {}
        unmappedStore = ((.error e, changed), after) ∧
      changed.memo.contains "users" = false ∧ after.documents = ∅) ∧
    now.1.memo.contains "users" = true ∧ now.2.Backs "users" ∧
    Store.Sent (LeavesAlone "users_index") now.2
      ((({} : Engine).update [userEntry "2"]).runOn (Store.probed fails) now.1 now.2).2 := by
  intro fails tasks now
  obtain ⟨-, hfailing⟩ := memo_safe fails {} unmappedStore [] []
  obtain ⟨hremembered, -⟩ := memo_safe fails {} unmappedStore tasks []
  have hknown : now.1.memo.contains "users" = true := by decide +kernel
  obtain ⟨hbacks, -, hupdates⟩ := hremembered "users" hknown
  obtain ⟨e, changed, after, hsync⟩ : ∃ e changed after,
      (Engine.syncAll [userEntry "1"]).runOn (Store.probed fails) {} unmappedStore =
        ((.error e, changed), after) := ⟨_, _, _, rfl⟩
  obtain ⟨hupdate, hdocuments, done, entry, rest, _, _, hentries, -, -, -, hforgotten, -⟩ :=
    hfailing {} [userEntry "1"] e changed after rfl hsync
  have hentry : entry ∈ [userEntry "1"] := by
    rw [hentries]
    simp
  rw [List.mem_singleton.1 hentry] at hforgotten
  exact ⟨⟨e, changed, after, hupdate, hforgotten, hdocuments⟩, hknown, hbacks, (hupdates {}).1 _⟩

end RecordSearch
