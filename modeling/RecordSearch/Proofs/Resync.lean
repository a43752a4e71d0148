import RecordSearch.Proofs.Provision
/-!
# A resync writes every entry once

A source **hands out** lists of entries if its chunks are windows of them. Its resync comes to an
end because it is one update for each chunk of the list (`resync_eq`, `chunked`), and the law of
such a run is that of one update, chunk by chunk: if the mappings can be brought up to date, the
entries before the first one that needs a key and has none are written, all others are not, and the
outcome says whether there is such an entry (`updateEach_runOn`).

What is **written** (`Indexer.Wrote`) is told in two ways: by the documents in the store, and by the
index requests that were sent to it, one for each entry with contents and in the order of the
entries. Bringing mappings up to date sends none.
-/

namespace RecordSearch

/-! ### Entries that are written -/

/-- The index requests among the requests so far. -/
def Store.indexRequests (store : Store) : List Json :=
  store.requests.filterMap fun asked ↦ if asked.1 = .index then some asked.2 else none

/-- One more request is one more index request if it is one. -/
theorem Store.indexRequests_reply (op : Operation) (request : Json) (store : Store) :
    (backend.reply op request store).2.indexRequests =
      store.indexRequests ++ if op = .index then [request] else [] := by
  have hnoted : (backend.reply op request store).2.requests = store.requests ++ [(op, request)] :=
    (effect_reply op request _).requests_eq
  rw [indexRequests, hnoted, List.filterMap_append, indexRequests]
  by_cases hop : op = .index
  · rw [if_pos hop, List.filterMap_cons, if_pos hop, List.filterMap_nil]
  · rw [if_neg hop, List.filterMap_cons, if_neg hop, List.filterMap_nil]

namespace Indexer

/-- The request that writes the contents of an entry. -/
def writeRequest (indexer : Indexer) (entry : Entry) : Except Error Json :=
  (indexer.documentRequest entry).map fun request ↦
    PlainRequest.render { request with body := entry.projection }

/-- Between two states entries were **written**: the documents of those with contents are put in
place, and for each of these, in order, its request was sent. -/
structure Wrote (indexer : Indexer) (entries : List Entry) (before after : Store) : Prop where
  /-- The documents are put in place. -/
  made : Change.write.Made entries before after
  /-- The requests were sent. -/
  sent : ∃ sent, after.indexRequests = before.indexRequests ++ sent ∧
    sent.map .ok = (entries.filter Entry.hasContents).map indexer.writeRequest

variable {indexer : Indexer} {first rest : List Entry} {before between after : Store}

theorem Wrote.nil (store : Store) : indexer.Wrote [] store store :=
  ⟨.nil _ store, [], (List.append_nil _).symm, rfl⟩

theorem Wrote.append (h : indexer.Wrote first before between)
    (h' : indexer.Wrote rest between after) : indexer.Wrote (first ++ rest) before after := by
  obtain ⟨sent, hsent, hrequests⟩ := h.sent
  obtain ⟨more, hmore, hrequests'⟩ := h'.sent
  refine ⟨⟨h.made.answers.trans h'.made.answers, fun index ↦ ?_⟩, sent ++ more, ?_, ?_⟩
  · rw [h'.made.collection_eq, h.made.collection_eq, Change.applyAll, Change.applyAll,
      Change.applyAll, List.foldl_append]
  · rw [hmore, hsent, List.append_assoc]
  · rw [List.map_append, List.filter_append, List.map_append, hrequests, hrequests']

/-- Whatever the backend replies, to write an entry is to send its request. -/
theorem write_runOn_snd {σ : Type} (backend : Backend σ) (state : σ) {entry : Entry}
    (hcontents : entry.hasContents = true) {request : Json}
    (h : indexer.writeRequest entry = .ok request) :
    ((indexer.write entry).runOn backend state).2 = (backend.reply .index request state).2 := by
  have hempty : ¬entry.projection.isEmpty = true := by
    rw [Dict.isEmpty_iff]
    exact Entry.hasContents_eq_true_iff.1 hcontents
  rw [writeRequest] at h
  cases hdocument : indexer.documentRequest entry with
  | error e =>
    rw [hdocument] at h
    cases h
  | ok document =>
    rw [hdocument] at h
    obtain rfl := Except.ok.inj h
    rw [write, if_neg hempty, hdocument, Fetch.runOn_bind_of_ok (Fetch.runOn_ofExcept _ _ _),
      Fetch.runOn_bind, Fetch.runOn_ask]
    split
    · next hreply => rw [hreply]; rfl
    · next hreply => rw [hreply]

/-- An entry at which the batch does not stop is written. -/
theorem write_runOn_wrote (indexer : Indexer) (store : Store) {entry : Entry}
    (h : Change.write.stops entry = false) :
    ∃ after, (indexer.write entry).runOn Store.backend store =
      (.ok (Change.write.report entry), after) ∧ indexer.Wrote [entry] store after := by
  obtain ⟨after, hrun, hmade⟩ := Change.act_runOn indexer store h
  have hafter : ((indexer.write entry).runOn Store.backend store).2 = after :=
    congrArg Prod.snd hrun
  refine ⟨after, hrun, hmade, ?_⟩
  cases hcontents : entry.hasContents with
  | false =>
    have hempty : entry.projection = ∅ := by
      rw [← Dict.isEmpty_iff]
      simpa [Entry.hasContents] using hcontents
    rw [(Change.write_runOn_of_empty indexer store hempty).1] at hafter
    refine ⟨[], ?_, ?_⟩
    · rw [← hafter, List.append_nil]
    · rw [List.filter_cons_of_neg (by simp [hcontents])]
      rfl
  | true =>
    obtain ⟨id, hkey⟩ := Entry.exists_key hcontents h
    obtain ⟨request, hrequest⟩ : ∃ request, indexer.writeRequest entry = .ok request := by
      rw [writeRequest, documentRequest_eq, hkey]
      exact ⟨_, rfl⟩
    rw [write_runOn_snd Store.backend store hcontents hrequest] at hafter
    refine ⟨[request], ?_, ?_⟩
    · rw [← hafter, Store.indexRequests_reply, if_pos rfl]
    · rw [List.filter_cons_of_pos hcontents, List.filter_nil, List.map_singleton,
        List.map_singleton, hrequest]

/-- What is sent to bring a mapping up to date writes no entry. -/
theorem mappingContract_metBy_wrote (indexer : Indexer) (store : Store) :
    mappingContract.MetBy Store.backend (indexer.Wrote [] store) := by
  intro op request state hop h
  obtain ⟨hreply, hdocuments, hanswers⟩ :=
    mappingContract_metBy state op request state hop ⟨rfl, .refl state⟩
  refine ⟨hreply, h.append ⟨.of_documents_eq hdocuments hanswers, [], ?_, rfl⟩⟩
  have hindex : op ≠ .index := by
    rintro rfl
    simp [mappingContract] at hop
  rw [Store.indexRequests_reply, if_neg hindex]

end Indexer

/-! ### One update -/

namespace Engine

variable {engine : Engine} {caches : Caches} {store : Store}

/-- The mappings for a batch can be brought up to date, if that is done at all. -/
def Synced (engine : Engine) (entries : List Entry) (caches : Caches) (store : Store) : Prop :=
  engine.updateMapping = true →
    ((syncAll entries).runOn Store.backend caches store).1.1 = .ok ()

/-- An update whose mappings can be brought up to date writes the entries that it reaches. -/
theorem update_runOn_of_synced {entries : List Entry} (h : engine.Synced entries caches store) :
    ∃ changed after, (engine.update entries).runOn Store.backend caches store =
        ((Change.write.outcome entries {}, changed), after) ∧
      engine.indexer.Wrote (Change.write.reached entries) store after := by
  have hbatch : ∀ (changed : Caches) (between : Store), engine.indexer.Wrote [] store between →
      ∃ after, (Job.ofFetch (engine.indexer.writeAll entries)).runOn Store.backend changed between =
          ((Change.write.outcome entries {}, changed), after) ∧
        engine.indexer.Wrote (Change.write.reached entries) store after := by
    intro changed between hmappings
    obtain ⟨after, hrun, hwrote⟩ := Change.forAll_runOn_does engine.indexer between
      Indexer.Wrote.nil Indexer.Wrote.append
      (fun _ store hstops ↦ engine.indexer.write_runOn_wrote store hstops) entries {}
    refine ⟨after, ?_, hmappings.append hwrote⟩
    rw [Job.runOn_ofFetch, show (engine.indexer.writeAll entries).runOn _ _ = _ from hrun]
  rw [update]
  cases hmapping : engine.updateMapping with
  | false => exact ⟨caches, hbatch caches store (.nil store)⟩
  | true =>
    obtain ⟨-, hmappings⟩ := syncAll_keeps (engine.indexer.mappingContract_metBy_wrote store)
      entries caches (.nil store)
    have hsynced := h hmapping
    rcases hrun : (syncAll entries).runOn Store.backend caches store with
      ⟨⟨outcome, changed⟩, between⟩
    rw [hrun] at hmappings hsynced
    obtain rfl : outcome = .ok () := hsynced
    rw [if_pos rfl, Job.runOn_bind_of_ok hrun]
    exact ⟨changed, hbatch changed between hmappings⟩

/-- An update that succeeds has brought its mappings up to date. -/
theorem synced_of_update_eq_ok {entries : List Entry} {report : Report}
    (h : ((engine.update entries).runOn Store.backend caches store).1.1 = .ok report) :
    engine.Synced entries caches store := by
  intro hmapping
  rw [update, if_pos hmapping, Job.runOn_bind] at h
  rcases hrun : (syncAll entries).runOn Store.backend caches store with ⟨⟨e | _, changed⟩, between⟩
  · rw [hrun] at h
    cases h
  · rfl

/-! ### One update after the other -/

/-- Write lists of entries one after the other. -/
def updateEach (engine : Engine) : List (List Entry) → ResyncReport → Job ResyncReport
  | [], report => pure report
  | chunk :: rest, report => do
    let written ← engine.update chunk
    updateEach engine rest (report.addChunk written)

/-- The mappings can be brought up to date for every list of entries that is come to. -/
def SyncedEach (engine : Engine) : List (List Entry) → Caches → Store → Prop
  | [], _, _ => True
  | chunk :: rest, caches, store =>
    engine.Synced chunk caches store ∧ ∀ report changed after,
      (engine.update chunk).runOn Store.backend caches store = ((.ok report, changed), after) →
        SyncedEach engine rest changed after

/-- The outcome of writing lists of entries one after the other: the missing key of the first entry
that needs one, or what is reported of all entries behind a report. -/
def outcomeOfEach (chunks : List (List Entry)) (report : ResyncReport) :
    Except Error ResyncReport :=
  match chunks.flatten.find? Change.write.stops with
  | some entry => .error (.configuration (.missingKey entry.schema.table))
  | none => .ok
    { total := report.total
      chunks := report.chunks + chunks.length
      indexed := report.indexed + chunks.flatten.countP Entry.hasContents
      skipped := report.skipped + chunks.flatten.countP fun entry ↦ entry.projection.isEmpty }

/-- A report is made of entries at which no write stops, and counts them. -/
theorem of_outcomeOfEach_eq_ok {chunks : List (List Entry)} {report last : ResyncReport}
    (h : outcomeOfEach chunks report = .ok last) :
    chunks.flatten.find? Change.write.stops = none ∧
      last.total = report.total ∧ last.chunks = report.chunks + chunks.length ∧
      last.indexed = report.indexed + chunks.flatten.countP Entry.hasContents ∧
      last.skipped =
        report.skipped + chunks.flatten.countP fun entry ↦ entry.projection.isEmpty := by
  rw [outcomeOfEach] at h
  cases hstops : chunks.flatten.find? Change.write.stops with
  | some stop =>
    rw [hstops] at h
    cases h
  | none =>
    rw [hstops] at h
    obtain rfl := Except.ok.inj h
    exact ⟨rfl, rfl, rfl, rfl, rfl⟩

/-- The outcome behind a list of entries that are all written. -/
theorem outcomeOfEach_cons_of_none {chunk : List Entry} (h : chunk.find? Change.write.stops = none)
    (rest : List (List Entry)) (report : ResyncReport) :
    ∃ written, Change.write.outcome chunk {} = .ok written ∧
      outcomeOfEach (chunk :: rest) report = outcomeOfEach rest (report.addChunk written) := by
  refine ⟨_, by rw [Change.outcome, h, Change.foldl_report_write], ?_⟩
  rw [outcomeOfEach, outcomeOfEach, List.flatten_cons, List.find?_append, h, Option.none_or]
  cases rest.flatten.find? Change.write.stops with
  | some entry => rfl
  | none =>
    rw [List.countP_append, List.countP_append, List.length_cons, ResyncReport.addChunk]
    simp [Nat.add_assoc, Nat.add_comm 1]

/-- **The law of updates one after the other.** If their mappings can be brought up to date, the
entries before the first one that needs a key and has none are written, and the outcome says whether
there is such an entry. -/
theorem updateEach_runOn {chunks : List (List Entry)} (h : engine.SyncedEach chunks caches store)
    (report : ResyncReport) :
    ∃ changed after, (engine.updateEach chunks report).runOn Store.backend caches store =
        ((outcomeOfEach chunks report, changed), after) ∧
      engine.indexer.Wrote (Change.write.reached chunks.flatten) store after := by
  induction chunks generalizing caches store report with
  | nil => exact ⟨caches, store, by simp [updateEach, outcomeOfEach], .nil store⟩
  | cons chunk rest ih =>
    obtain ⟨hsynced, hrest⟩ := h
    obtain ⟨changed, between, hrun, hwrote⟩ := update_runOn_of_synced hsynced
    rw [updateEach, List.flatten_cons]
    cases hstops : chunk.find? Change.write.stops with
    | some entry =>
      have houtcome : Change.write.outcome chunk {} =
          .error (.configuration (.missingKey entry.schema.table)) := by
        rw [Change.outcome, hstops]
      rw [houtcome] at hrun
      refine ⟨changed, between, ?_, ?_⟩
      · rw [Job.runOn_bind_of_error hrun, outcomeOfEach, List.flatten_cons, List.find?_append,
          hstops, Option.some_or]
      · rwa [Change.reached_append_of_some hstops]
    | none =>
      obtain ⟨written, houtcome, hbehind⟩ := outcomeOfEach_cons_of_none hstops rest report
      rw [houtcome] at hrun
      obtain ⟨last, after, hlast, hmore⟩ := ih (hrest _ _ _ hrun) (report.addChunk written)
      refine ⟨last, after, ?_, ?_⟩
      · rw [Job.runOn_bind_of_ok hrun, hlast, hbehind]
      · rw [Change.reached_append_of_none hstops]
        rw [Change.reached_eq_self hstops] at hwrote
        exact hwrote.append hmore

/-- Updates that succeed one after the other have brought their mappings up to date. -/
theorem syncedEach_of_updateEach_eq_ok {chunks : List (List Entry)} {report last : ResyncReport}
    (h : ((engine.updateEach chunks report).runOn Store.backend caches store).1.1 = .ok last) :
    engine.SyncedEach chunks caches store := by
  induction chunks generalizing caches store report with
  | nil => exact trivial
  | cons chunk rest ih =>
    rw [updateEach, Job.runOn_bind] at h
    rcases hrun : (engine.update chunk).runOn Store.backend caches store with
      ⟨⟨e | written, changed⟩, between⟩
    · rw [hrun] at h
      cases h
    · rw [hrun] at h
      refine ⟨synced_of_update_eq_ok (congrArg (fun run ↦ run.1.1) hrun), fun _ _ _ hother ↦ ?_⟩
      obtain ⟨⟨-, rfl⟩, rfl⟩ : (_ ∧ changed = _) ∧ between = _ := by
        simpa using hrun.symm.trans hother
      exact ih h

end Engine

/-! ### Schemas with a mapping -/

/-- A reply does not change whether the probe fails. -/
theorem Store.failsProbe_reply (op : Operation) (request : Json) (store : Store) :
    (backend.reply op request store).2.failsProbe = store.failsProbe :=
  (effect_reply op request _).failsProbe_eq

namespace Engine

variable {engine : Engine} {store : Store}

/-- A probe that answers still does after a job. -/
theorem failsProbe_runOn {α : Type} (job : Job α) (caches : Caches)
    (hprobe : store.failsProbe = false) :
    (job.runOn Store.backend caches store).2.failsProbe = false :=
  Exchange.run_keeps (fun op request state hstate ↦
    (Store.failsProbe_reply op request state).trans hstate) _ hprobe

/-- A store whose probe answers lets the mappings of entries be brought up to date if their schemas
have some. -/
theorem syncAll_runOn_of_mapped {entries : List Entry}
    (hmapped : ∀ entry ∈ entries, entry.schema.mapping ≠ ∅) (caches : Caches)
    (hprobe : store.failsProbe = false) :
    ((syncAll entries).runOn Store.backend caches store).1.1 = .ok () := by
  induction entries generalizing caches store with
  | nil => rfl
  | cons entry rest ih =>
    obtain ⟨hentry, hrest⟩ := List.forall_mem_cons.1 hmapped
    have hsync : ((syncEntry entry).runOn Store.backend caches store).1.1 = .ok () := by
      rw [syncEntry_runOn_eq]
      split
      · rfl
      · obtain ⟨after, hrun, -⟩ := entry.schema.syncMapping_runOn store
        rw [hrun, Schema.refusal?, hprobe, Bool.and_false, if_neg Bool.false_ne_true,
          if_neg (by rwa [Dict.isEmpty_iff])]
        rfl
    have hprobe' := failsProbe_runOn (syncEntry entry) caches hprobe
    rcases hrun : (syncEntry entry).runOn Store.backend caches store with
      ⟨⟨outcome, changed⟩, after⟩
    rw [hrun] at hsync hprobe'
    obtain rfl : outcome = .ok () := hsync
    rw [syncAll, Job.runOn_bind_of_ok hrun]
    exact ih hrest changed hprobe'

/-- So it does before every one of several updates. -/
theorem syncedEach_of_mapped {chunks : List (List Entry)}
    (hmapped : ∀ entry ∈ chunks.flatten, entry.schema.mapping ≠ ∅) (caches : Caches)
    (hprobe : store.failsProbe = false) : engine.SyncedEach chunks caches store := by
  induction chunks generalizing caches store with
  | nil => exact trivial
  | cons chunk rest ih =>
    rw [List.flatten_cons, List.forall_mem_append] at hmapped
    refine ⟨fun _ ↦ syncAll_runOn_of_mapped hmapped.1 caches hprobe, fun _ changed after hrun ↦ ?_⟩
    have hafter := failsProbe_runOn (engine.update chunk) caches hprobe
    rw [hrun] at hafter
    exact ih hmapped.2 changed hafter

end Engine

/-! ### Chunks -/

/-- A list cut into chunks; only the last one may be shorter than the others. -/
def chunked {α : Type} : List α → List (List α)
  | [] => []
  | x :: rest =>
    (x :: rest).take Engine.chunkSize :: chunked ((x :: rest).drop Engine.chunkSize)
termination_by xs => xs.length
decreasing_by
  rw [List.length_drop, List.length_cons, Engine.chunkSize]
  omega

theorem chunked_of_ne_nil {α : Type} {xs : List α} (h : xs ≠ []) :
    chunked xs = xs.take Engine.chunkSize :: chunked (xs.drop Engine.chunkSize) := by
  cases xs with
  | nil => exact absurd rfl h
  | cons x rest => rw [chunked]

/-- The chunks put together are the list. -/
theorem flatten_chunked {α : Type} (xs : List α) : (chunked xs).flatten = xs := by
  fun_induction chunked xs with
  | case1 => rfl
  | case2 x rest ih => rw [List.flatten_cons, ih, List.take_append_drop]

/-- There is one chunk for every hundred elements begun. -/
theorem length_chunked {α : Type} (xs : List α) :
    (chunked xs).length = (xs.length + 99) / 100 := by
  fun_induction chunked xs with
  | case1 => simp
  | case2 x rest ih =>
    rw [List.length_cons, ih, List.length_drop, Engine.chunkSize, List.length_cons]
    omega

namespace EntrySource

/-- The source hands out lists of entries: its count is their number, and its chunks are windows of
them. -/
structure HandsOut (source : EntrySource) (entries : Option (List String) → List Entry) : Prop where
  /-- The count is the number of entries. -/
  count_eq : ∀ ids, source.count ids = .ok (entries ids).length
  /-- A chunk is a window. -/
  chunk_eq : ∀ ids offset limit,
    source.chunk ids offset limit = .ok (((entries ids).drop offset).take limit)

theorem handsOut_ofList (entries : List Entry) :
    (ofList entries).HandsOut (selected entries) :=
  ⟨fun _ ↦ rfl, fun _ _ _ ↦ rfl⟩

end EntrySource

namespace Engine

variable {engine : Engine} {source : EntrySource} {entries : Option (List String) → List Entry}

/-- Writing the chunks of a source is one update for each chunk of the list behind the offset. -/
theorem writeChunks_eq (h : source.HandsOut entries) (ids : Option (List String)) (offset : Nat)
    (report : ResyncReport) :
    engine.writeChunks source ids offset report =
      engine.updateEach (chunked ((entries ids).drop offset)) report := by
  fun_induction engine.writeChunks source ids offset report with
  | case1 offset report e hchunk =>
    rw [h.chunk_eq] at hchunk
    cases hchunk
  | case2 offset report hchunk =>
    rw [h.chunk_eq] at hchunk
    have hbehind : (entries ids).drop offset = [] :=
      (List.take_eq_nil_iff.1 (Except.ok.inj hchunk)).resolve_left (by decide)
    rw [hbehind, chunked, updateEach]
  | case3 offset report entry rest hchunk ih =>
    rw [h.chunk_eq] at hchunk
    have htake := Except.ok.inj hchunk
    have hlength : (entry :: rest).length =
        min chunkSize ((entries ids).drop offset).length := by
      rw [← htake, List.length_take]
    have hbehind : (entries ids).drop offset ≠ [] := fun hnil ↦ by simp [hnil] at htake
    rw [chunked_of_ne_nil hbehind, htake, updateEach, List.drop_drop]
    refine bind_congr fun written ↦ ?_
    dsimp only
    split
    · next hshort =>
      have hnone : (entries ids).drop (offset + chunkSize) = [] := by
        rw [← List.drop_drop, List.drop_eq_nil_iff]
        omega
      rw [hnone, chunked, updateEach]
    · next hfull =>
      rw [ih written, show (entry :: rest).length = chunkSize by omega]

/-- **A resync is a finite run of updates**, one for each chunk of the selected entries. -/
theorem resync_eq (h : source.HandsOut entries) (text : Option String) :
    engine.resync source text =
      engine.updateEach (chunked (entries (text.bind Text.commaList?)))
        { total := (entries (text.bind Text.commaList?)).length } := by
  rw [resync, h.count_eq]
  exact writeChunks_eq h _ 0 _

/-- The law of a resync: that of updates one after the other. -/
theorem resync_runOn (h : source.HandsOut entries) {text : Option String} {found : List Entry}
    (hfound : entries (text.bind Text.commaList?) = found) {caches : Caches} {store : Store}
    (hsynced : engine.SyncedEach (chunked found) caches store) :
    ∃ changed after, (engine.resync source text).runOn Store.backend caches store =
        ((outcomeOfEach (chunked found) { total := found.length }, changed), after) ∧
      engine.indexer.Wrote (Change.write.reached found) store after := by
  have hrun := updateEach_runOn hsynced { total := found.length }
  rwa [flatten_chunked, ← hfound, ← resync_eq h text, hfound] at hrun

/-- A resync that succeeds has brought its mappings up to date. -/
theorem syncedEach_of_resync_eq_ok (h : source.HandsOut entries) {text : Option String}
    {caches : Caches} {store : Store} {report : ResyncReport}
    (hok : ((engine.resync source text).runOn Store.backend caches store).1.1 = .ok report) :
    engine.SyncedEach (chunked (entries (text.bind Text.commaList?))) caches store := by
  rw [resync_eq h] at hok
  exact syncedEach_of_updateEach_eq_ok hok

/-- An entry has contents or has none. -/
theorem countP_hasContents_add_countP_isEmpty (entries : List Entry) :
    entries.countP Entry.hasContents + entries.countP (fun entry ↦ entry.projection.isEmpty) =
      entries.length := by
  rw [List.length_eq_countP_add_countP Entry.hasContents]
  refine congrArg _ (List.countP_congr fun entry _ ↦ ?_)
  simp [Entry.hasContents]

/-- **A resync writes every entry once.** For a source that hands out lists of entries it comes to
an end, since it is one update for each chunk of the selected entries. If it succeeds, the report
counts these entries, and they are written: one request was sent for each of them that has
contents, in order. If the mappings can be brought up to date, it succeeds unless an entry with
contents has no key; the first such entry is the error, and exactly those before it are written. -/
theorem resync_writes_once (h : source.HandsOut entries) (engine : Engine) (text : Option String)
    (caches : Caches) (store : Store) :
    let found := entries (text.bind Text.commaList?)
    let run := (engine.resync source text).runOn Store.backend caches store
    engine.resync source text = engine.updateEach (chunked found) { total := found.length } ∧
    (∀ report, run.1.1 = .ok report →
      report.total = found.length ∧ report.chunks = (found.length + 99) / 100 ∧
      report.indexed + report.skipped = found.length ∧
      report.skipped = found.countP (fun entry ↦ entry.projection.isEmpty) ∧
      engine.indexer.Wrote found store run.2) ∧
    (engine.SyncedEach (chunked found) caches store →
      (∀ before stop rest, found = before ++ stop :: rest →
        (∀ entry ∈ before, entry.projection ≠ ∅ → entry.key.isSome = true) →
        stop.projection ≠ ∅ → stop.key = none →
        run.1.1 = .error (.configuration (.missingKey stop.schema.table)) ∧
          engine.indexer.Wrote before store run.2) ∧
      ((∀ entry ∈ found, entry.projection ≠ ∅ → entry.key.isSome = true) →
        ∃ report, run.1.1 = .ok report)) := by
  intro found run
  have hselected : entries (text.bind Text.commaList?) = found := rfl
  refine ⟨resync_eq h text, fun report hok ↦ ?_, fun hsynced ↦ ?_⟩
  · obtain ⟨changed, after, hrun, hwrote⟩ :=
      resync_runOn h hselected (syncedEach_of_resync_eq_ok h hok)
    have hreport : outcomeOfEach (chunked found) { total := found.length } = .ok report := by
      rw [← hok]
      exact (congrArg (fun run ↦ run.1.1) hrun).symm
    obtain ⟨hstops, htotal, hchunks, hindexed, hskipped⟩ := of_outcomeOfEach_eq_ok hreport
    rw [flatten_chunked] at hstops hindexed hskipped
    rw [length_chunked, Nat.zero_add] at hchunks
    rw [Nat.zero_add] at hindexed hskipped
    refine ⟨htotal, hchunks, ?_, hskipped, ?_⟩
    · rw [hindexed, hskipped, countP_hasContents_add_countP_isEmpty]
    · rw [Change.reached_eq_self hstops] at hwrote
      rwa [show run.2 = after from congrArg Prod.snd hrun]
  · obtain ⟨changed, after, hrun, hwrote⟩ := resync_runOn h hselected hsynced
    have houtcome : run.1.1 = outcomeOfEach (chunked found) { total := found.length } :=
      congrArg (fun run ↦ run.1.1) hrun
    rw [houtcome, show run.2 = after from congrArg Prod.snd hrun, outcomeOfEach, flatten_chunked]
    refine ⟨fun before stop rest hfound hkeys hcontents hkey ↦ ?_, fun hkeys ↦ ?_⟩
    · have hbefore := Entry.find?_stops_write_eq_none_iff.2 hkeys
      have hstop : Change.write.stops stop = true := by
        rw [Entry.stops_write_eq, Entry.hasContents_eq_true_iff.2 hcontents, hkey]
        rfl
      rw [hfound, Change.reached_append_cons hbefore hstop] at hwrote
      refine ⟨?_, hwrote⟩
      rw [hfound, List.find?_append, hbefore, Option.none_or, List.find?_cons_of_pos hstop]
    · rw [Entry.find?_stops_write_eq_none_iff.2 hkeys]
      exact ⟨_, rfl⟩

/-- A hundred users, one entry without contents, then a user without a key and one more. All of them
together fail at the user without a key, and whatever stands before it is written; two of them alone
are written. -/
theorem resync_writes_once_hundredUsers :
    let users := (List.range 100).map fun n ↦ userEntry (toString n)
    let blank : Entry := { userEntry "100" with projection := ∅ }
    let keyless : Entry := { userEntry "101" with key := none }
    let source : EntrySource := .ofList (users ++ [blank] ++ keyless :: [userEntry "102"])
    let all := (({} : Engine).resync source none).runOn Store.backend {} {}
    let two := (({} : Engine).resync source (some "7, ,99")).runOn Store.backend {} {}
    all.1.1 = .error (.configuration (.missingKey "users")) ∧
      Indexer.Wrote {} (users ++ [blank]) {} all.2 ∧
    ∃ report, two.1.1 = .ok report ∧ report.total = 2 ∧ report.chunks = 1 ∧
      Indexer.Wrote {} [userEntry "7", userEntry "99"] {} two.2 := by
  intro users blank keyless source all two
  have hsource := EntrySource.handsOut_ofList (users ++ [blank] ++ keyless :: [userEntry "102"])
  have hsynced : ∀ entries : List Entry, (∀ entry ∈ entries, entry.schema = .ofTable "users") →
      ({} : Engine).SyncedEach (chunked entries) {} {} := by
    refine fun entries hentries ↦ syncedEach_of_mapped (fun entry hentry ↦ ?_) {} rfl
    rw [flatten_chunked] at hentry
    rw [hentries entry hentry]
    decide
  have husers : ∀ entry ∈ users, entry.schema = .ofTable "users" ∧ entry.key.isSome = true := by
    intro entry hentry
    obtain ⟨n, -, rfl⟩ := List.mem_map.1 hentry
    exact ⟨rfl, rfl⟩
  have htwo : EntrySource.selected (users ++ [blank] ++ keyless :: [userEntry "102"])
      ((some "7, ,99").bind Text.commaList?) = [userEntry "7", userEntry "99"] := by
    have hids : (some "7, ,99").bind Text.commaList? = some ["7", "99"] := by decide +kernel
    have hnumbers : (List.range 100).filter (fun n ↦ ["7", "99"].contains (toString n)) =
        [7, 99] := by decide +kernel
    have hfound : users.filter (fun entry ↦ entry.key.any ["7", "99"].contains) =
        [userEntry "7", userEntry "99"] :=
      (List.filter_map ..).trans (congrArg _ hnumbers)
    rw [hids, EntrySource.selected, List.filter_append, List.filter_append, hfound]
    rfl
  have hschema : ∀ entry ∈ users ++ [blank] ++ keyless :: [userEntry "102"],
      entry.schema = .ofTable "users" := by
    simp only [List.forall_mem_append, List.forall_mem_cons]
    exact ⟨⟨fun entry hentry ↦ (husers entry hentry).1, rfl, nofun⟩, rfl, rfl, nofun⟩
  have hkeys : ∀ entry ∈ users ++ [blank], entry.projection ≠ ∅ → entry.key.isSome = true := by
    simp only [List.forall_mem_append, List.forall_mem_cons]
    exact ⟨fun entry hentry _ ↦ (husers entry hentry).2, fun _ ↦ rfl, nofun⟩
  obtain ⟨-, -, hall⟩ := resync_writes_once hsource {} none {} {}
  obtain ⟨hstop, hbefore⟩ :=
    (hall (hsynced _ hschema)).1 (users ++ [blank]) keyless _ rfl hkeys (by decide) rfl
  obtain ⟨-, hok, hkeyed⟩ := resync_writes_once hsource {} (some "7, ,99") {} {}
  rw [htwo] at hok hkeyed
  obtain ⟨report, hreport⟩ := (hkeyed (hsynced _ (by simp [userEntry]))).2 (by simp [userEntry])
  obtain ⟨htotal, hchunks, -, -, hwrote⟩ := hok report hreport
  exact ⟨hstop, hbefore, report, hreport, htotal, hchunks, hwrote⟩

end Engine

end RecordSearch
