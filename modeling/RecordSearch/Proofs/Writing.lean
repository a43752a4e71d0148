import Mathlib.Data.List.TakeWhile
import RecordSearch.Engine.Indexer
import RecordSearch.Proofs.Answer
import RecordSearch.Proofs.Exchange
/-!
# What a batch of writes leaves in the store

A batch writes or removes the documents of entries one after the other, and stops at the first
entry that needs a key and has none. `Change` names the two kinds of batches, and the rest is said
once for both: what one entry does to the documents of its index (`Change.apply`), at which entry a
batch stops (`Change.stops`), and that a whole batch folds the former over the entries before the
latter (`runOn_forAll`). What is found in the store afterwards is told document by document:
`document?_of_made_remove`, `document?_of_made_write`.
-/

namespace RecordSearch

/-! ### Documents -/

namespace Store

theorem collection_put (store : Store) (index id : String) (source : Json) (other : String) :
    (store.put index id source).collection other =
      if index = other then (store.collection index).insert id source
      else store.collection other := by
  rw [collection, put, Dict.alter, Dict.get?_insert]
  split <;> rfl

theorem collection_drop (store : Store) (index id other : String) :
    (store.drop index id).collection other =
      if index = other then (store.collection index).erase id else store.collection other := by
  have hindex : store.collection index = (store.documents.get? index).getD ∅ := rfl
  cases h : store.documents.get? index with
  | none =>
    have hnone : store.collection index = ∅ := by rw [hindex, h]; rfl
    have hdrop : store.drop index id = store := by simp only [drop, h]
    rw [hdrop]
    split
    · next heq =>
      subst heq
      exact (Dict.erase_of_get?_eq_none (by rw [hnone, Dict.get?_empty])).symm
    · rfl
  | some documents =>
    have hsome : store.collection index = documents := by rw [hindex, h]; rfl
    have hdrop : (store.drop index id).documents =
        store.documents.insert index (documents.erase id) := by simp only [drop, h]
    rw [hsome, collection, hdrop, Dict.get?_insert]
    split <;> rfl

/-- The same prepared answers wait in both states. -/
structure SameAnswers (before after : Store) : Prop where
  /-- The same answers wait for searches. -/
  searchAnswers : after.searchAnswers = before.searchAnswers
  /-- The same answers wait for counts. -/
  countAnswers : after.countAnswers = before.countAnswers

theorem SameAnswers.refl (store : Store) : SameAnswers store store :=
  ⟨rfl, rfl⟩

theorem SameAnswers.trans {first second third : Store} (h : SameAnswers first second)
    (h' : SameAnswers second third) : SameAnswers first third :=
  ⟨h'.searchAnswers.trans h.searchAnswers, h'.countAnswers.trans h.countAnswers⟩

theorem sameAnswers_put (store : Store) (index id : String) (source : Json) :
    SameAnswers store (store.put index id source) :=
  ⟨rfl, rfl⟩

theorem sameAnswers_drop (store : Store) (index id : String) :
    SameAnswers store (store.drop index id) := by
  rw [drop]
  split <;> exact ⟨rfl, rfl⟩

theorem sameAnswers_noting (store : Store) (op : Operation) (request : Json) :
    SameAnswers store (store.noting op request) :=
  ⟨rfl, rfl⟩

/-- Prepared answers are taken by searches and counts. -/
theorem Effect.sameAnswers {op : Operation} {before after : Store} (h : Effect before op after)
    (hsearch : op ≠ .search) (hcount : op ≠ .count) : SameAnswers before after := by
  cases h with
  | searched => exact absurd rfl hsearch
  | counted => exact absurd rfl hcount
  | _ => exact ⟨rfl, rfl⟩

end Store

/-! ### Keys and addresses -/

/-- The text of the key in the contents of a document. -/
def Schema.keyText? (schema : Schema) (source : Json) : Option String :=
  (source.field? schema.keyName).bind Json.scalarText?

theorem Record.keyText?_ofObject (record : Record) :
    record.schema.keyText? (.ofObject record.attributes) = record.key? :=
  rfl

namespace Indexer

/-- The envelope of the request for the document of an id. -/
def address (indexer : Indexer) (schema : Schema) (id : String) : Envelope :=
  { Envelope.forType schema with
    id := some id
    params := match indexer.refresh with
      | some refresh => .single "refresh" (.string refresh)
      | none => ∅ }

theorem documentRequest_eq (indexer : Indexer) (entry : Entry) :
    indexer.documentRequest entry =
      match entry.key with
      | some id => .ok { envelope := indexer.address entry.schema id }
      | none => .error (.configuration (.missingKey entry.schema.table)) := by
  rw [documentRequest]
  cases entry.key with
  | none => rfl
  | some id => cases h : indexer.refresh <;> simp only [address, h] <;> rfl

theorem get?_params_address (indexer : Indexer) (schema : Schema) (id : String) {key : String}
    (hkey : Envelope.isProtected key = true) :
    (indexer.address schema id).params.get? key = none := by
  have hrefresh : "refresh" ≠ key := by
    rintro rfl
    simp [Envelope.isProtected] at hkey
  rw [address]
  cases indexer.refresh with
  | none => rfl
  | some refresh => exact (Dict.get?_single _ _ _).trans (if_neg hrefresh)

/-- The address is that of the document of the id in the schema's index, whatever the body and the
client options. -/
theorem documentAddress_address (indexer : Indexer) (schema : Schema) (id : String)
    (client body : Object) :
    documentAddress (PlainRequest.render
      { envelope := { indexer.address schema id with client := client }, body := body }) =
      .ok (schema.indexName, id) :=
  PlainRequest.documentAddress_render (fun _ hkey ↦ indexer.get?_params_address schema id hkey)
    rfl rfl

end Indexer

/-! ### One entry -/

namespace Entry

/-- Is the document of the entry the one of an id in an index? -/
def isAt (index id : String) (entry : Entry) : Bool :=
  entry.schema.indexName = index ∧ entry.key = some id

/-- Has the entry contents for the document of an id in an index? -/
def writesTo (index id : String) (entry : Entry) : Bool :=
  entry.isAt index id && !entry.projection.isEmpty

/-- The last of the entries with contents for the document of an id in an index. -/
def lastWritten? (index id : String) (entries : List Entry) : Option Entry :=
  entries.reverse.find? (writesTo index id)

variable {index id : String} {entry : Entry} {entries : List Entry}

theorem isAt_iff :
    entry.isAt index id = true ↔ entry.schema.indexName = index ∧ entry.key = some id :=
  decide_eq_true_iff

theorem writesTo_iff :
    entry.writesTo index id = true ↔
      entry.schema.indexName = index ∧ entry.key = some id ∧ entry.projection ≠ ∅ := by
  rw [writesTo, Bool.and_eq_true, isAt_iff, and_assoc, Bool.not_eq_true', ← Bool.not_eq_true,
    Dict.isEmpty_iff]

/-- What is last written is one of the entries, and has contents for the document. -/
theorem of_lastWritten?_eq_some (h : lastWritten? index id entries = some entry) :
    entry ∈ entries ∧ entry.schema.indexName = index ∧ entry.key = some id ∧
      entry.projection ≠ ∅ :=
  ⟨List.mem_reverse.1 (List.mem_of_find?_eq_some h), writesTo_iff.1 (List.find?_some h)⟩

/-- Nothing is last written if no entry has contents for the document. -/
theorem lastWritten?_eq_none_iff :
    lastWritten? index id entries = none ↔
      ∀ entry ∈ entries, entry.writesTo index id = false := by
  rw [lastWritten?, List.find?_eq_none]
  simp only [List.mem_reverse, Bool.not_eq_true]

/-- Later entries are looked at first. -/
theorem lastWritten?_cons :
    lastWritten? index id (entry :: entries) =
      (lastWritten? index id entries).or
        (if entry.writesTo index id then some entry else none) := by
  rw [lastWritten?, List.reverse_cons, List.find?_append, List.find?_singleton]
  rfl

end Entry

/-- What a batch does with its entries. -/
inductive Change where
  /-- Their documents are written. -/
  | write
  /-- Their documents are removed. -/
  | remove
deriving DecidableEq

namespace Change

/-- Does a batch stop at the entry? It takes a key to remove an entry, and to write one with
contents. -/
def stops : Change → Entry → Bool
  | write, entry => !entry.projection.isEmpty && entry.key.isNone
  | remove, entry => entry.key.isNone

/-- The documents of the entry's index after the change of one entry. -/
def apply (change : Change) (entry : Entry) (documents : Dict Json) : Dict Json :=
  match change, entry.key with
  | _, none => documents
  | write, some id =>
    if entry.projection.isEmpty then documents
    else documents.insert id (.ofObject entry.projection)
  | remove, some id => documents.erase id

/-- The documents of an index after the changes of entries in order. -/
def applyAll (change : Change) (index : String) (entries : List Entry) (documents : Dict Json) :
    Dict Json :=
  entries.foldl (fun documents entry ↦
    if entry.schema.indexName = index then change.apply entry documents else documents) documents

theorem apply_write {entry : Entry} {id : String} (hkey : entry.key = some id)
    (hne : entry.projection ≠ ∅) (documents : Dict Json) :
    write.apply entry documents = documents.insert id (.ofObject entry.projection) := by
  simp [apply, hkey, hne]

theorem apply_remove {entry : Entry} {id : String} (hkey : entry.key = some id)
    (documents : Dict Json) : remove.apply entry documents = documents.erase id := by
  simp [apply, hkey]

/-- Without contents there is nothing to write. -/
theorem apply_write_of_empty {entry : Entry} (h : entry.projection = ∅) (documents : Dict Json) :
    write.apply entry documents = documents := by
  cases hkey : entry.key <;> simp [apply, hkey, h]

/-- Writing an entry puts its contents under its key and leaves the rest. -/
theorem get?_apply_write (entry : Entry) (documents : Dict Json) (id : String) :
    (write.apply entry documents).get? id =
      if entry.projection ≠ ∅ ∧ entry.key = some id then some (.ofObject entry.projection)
      else documents.get? id := by
  by_cases hempty : entry.projection = ∅
  · rw [apply_write_of_empty hempty, if_neg fun h ↦ h.1 hempty]
  · cases hkey : entry.key with
    | none => simp [apply, hkey]
    | some key =>
      rw [apply_write hkey hempty, Dict.get?_insert]
      exact if_congr ⟨fun h ↦ ⟨hempty, congrArg some h⟩, fun h ↦ Option.some.inj h.2⟩ rfl rfl

/-- Removing an entry takes away what is under its key and leaves the rest. -/
theorem get?_apply_remove (entry : Entry) (documents : Dict Json) (id : String) :
    (remove.apply entry documents).get? id =
      if entry.key = some id then none else documents.get? id := by
  cases hkey : entry.key with
  | none => simp [apply, hkey]
  | some key =>
    rw [apply_remove hkey, Dict.get?_erase]
    exact if_congr ⟨congrArg some, Option.some.inj⟩ rfl rfl

@[simp]
theorem applyAll_nil (change : Change) (index : String) (documents : Dict Json) :
    change.applyAll index [] documents = documents :=
  rfl

theorem applyAll_cons (change : Change) (index : String) (entry : Entry) (entries : List Entry)
    (documents : Dict Json) :
    change.applyAll index (entry :: entries) documents =
      change.applyAll index entries
        (if entry.schema.indexName = index then change.apply entry documents else documents) :=
  rfl

/-- What is reported of one entry. -/
def report : Change → Entry → Report
  | write, entry => if entry.projection.isEmpty then { skipped := 1 } else { indexed := 1 }
  | remove, _ => { indexed := 1 }

/-- The indexer's operation for one entry. -/
def act (indexer : Indexer) : Change → Entry → Fetch Report
  | write => indexer.write
  | remove => indexer.remove

/-- One state is the other one after the changes of entries: the documents of every index are
changed in order, and the same prepared answers wait. -/
structure Made (change : Change) (entries : List Entry) (before after : Store) : Prop where
  /-- The same prepared answers wait. -/
  answers : Store.SameAnswers before after
  /-- The documents are changed in order. -/
  collection_eq : ∀ index,
    after.collection index = change.applyAll index entries (before.collection index)

theorem Made.nil (change : Change) (store : Store) : change.Made [] store store :=
  ⟨.refl store, fun _ ↦ rfl⟩

/-- A request that was written down changed nothing. -/
theorem Made.of_noting {change : Change} {entries : List Entry} {store after : Store}
    {op : Operation} {request : Json} (h : change.Made entries (store.noting op request) after) :
    change.Made entries store after :=
  ⟨⟨h.answers.searchAnswers, h.answers.countAnswers⟩, h.collection_eq⟩

theorem Made.cons {change : Change} {entry : Entry} {entries : List Entry}
    {before between after : Store} (hone : change.Made [entry] before between)
    (hrest : change.Made entries between after) : change.Made (entry :: entries) before after := by
  refine ⟨hone.answers.trans hrest.answers, fun index ↦ ?_⟩
  rw [hrest.collection_eq, hone.collection_eq]
  rfl

variable (indexer : Indexer) (store : Store)

/-- A batch that stops at an entry changes nothing for it. -/
theorem act_runOn_of_stops {change : Change} {entry : Entry} (h : change.stops entry = true) :
    (change.act indexer entry).runOn Store.backend store =
      (.error (.configuration (.missingKey entry.schema.table)), store) := by
  cases change with
  | write =>
    simp only [stops, Bool.and_eq_true, Bool.not_eq_true', Option.isNone_iff_eq_none] at h
    rw [act, Indexer.write, h.1, if_neg (by simp), Indexer.documentRequest_eq, h.2]
    exact Fetch.runOn_bind_of_error (Fetch.runOn_ofExcept _ _ _)
  | remove =>
    simp only [stops, Option.isNone_iff_eq_none] at h
    rw [act, Indexer.remove, Indexer.documentRequest_eq, h]
    exact Fetch.runOn_bind_of_error (Fetch.runOn_ofExcept _ _ _)

/-- An entry without contents is skipped, with or without a key. -/
theorem write_runOn_of_empty {entry : Entry} (h : entry.projection = ∅) :
    (indexer.write entry).runOn Store.backend store = (.ok (write.report entry), store) ∧
      write.Made [entry] store store := by
  refine ⟨?_, .refl store, fun index ↦ ?_⟩
  · rw [Indexer.write, report, if_pos (Dict.isEmpty_iff.2 h), if_pos (Dict.isEmpty_iff.2 h)]
    rfl
  · rw [applyAll_cons, apply_write_of_empty h, ite_self, applyAll_nil]

/-- A document that is put in place after a request was written down is a written entry. -/
theorem made_put {entry : Entry} {id : String} (hkey : entry.key = some id)
    (hne : entry.projection ≠ ∅) (op : Operation) (request : Json) :
    write.Made [entry] store ((store.noting op request).put entry.schema.indexName id
      (.ofObject entry.projection)) := by
  refine ⟨(Store.sameAnswers_noting _ _ _).trans (Store.sameAnswers_put _ _ _ _), fun index ↦ ?_⟩
  rw [Store.collection_put, applyAll_cons, applyAll_nil, apply_write hkey hne]
  split
  · next heq => rw [← heq]; rfl
  · rfl

/-- A document that is taken away after a request was written down is a removed entry. -/
theorem made_drop {entry : Entry} {id : String} (hkey : entry.key = some id) (op : Operation)
    (request : Json) :
    remove.Made [entry] store
      ((store.noting op request).drop entry.schema.indexName id) := by
  refine ⟨(Store.sameAnswers_noting _ _ _).trans (Store.sameAnswers_drop _ _ _), fun index ↦ ?_⟩
  rw [Store.collection_drop, applyAll_cons, applyAll_nil, apply_remove hkey]
  split
  · next heq => rw [← heq]; rfl
  · rfl

/-- So is a document that is not there. -/
theorem made_of_absent {entry : Entry} {id : String} (hkey : entry.key = some id)
    (habsent : store.document? entry.schema.indexName id = none) (op : Operation)
    (request : Json) : remove.Made [entry] store (store.noting op request) := by
  refine ⟨Store.sameAnswers_noting _ _ _, fun index ↦ ?_⟩
  rw [applyAll_cons, applyAll_nil, apply_remove hkey]
  split
  · next heq =>
    rw [← heq, Dict.erase_of_get?_eq_none (Store.document?_eq_get?_collection _ _ _ ▸ habsent)]
    rfl
  · rfl

/-- An entry with contents and a key is put in place. -/
theorem write_runOn {entry : Entry} {id : String} (hkey : entry.key = some id)
    (hne : entry.projection ≠ ∅) :
    ∃ after, (indexer.write entry).runOn Store.backend store = (.ok (write.report entry), after) ∧
      write.Made [entry] store after := by
  have hempty : entry.projection.isEmpty = false := by simpa [← Bool.not_eq_true] using hne
  let request := PlainRequest.render
    { envelope := indexer.address entry.schema id, body := entry.projection }
  have haddress : documentAddress request = .ok (entry.schema.indexName, id) :=
    indexer.documentAddress_address entry.schema id ∅ entry.projection
  have hbody : Store.bodyOf request = .ofObject entry.projection := PlainRequest.bodyOf_render hne
  have hreply := Store.reply_backend .index request store
  rw [Store.reply, Store.index, haddress, hbody] at hreply
  refine ⟨_, ?_, made_put store hkey hne .index request⟩
  rw [Indexer.write, hempty, if_neg (by simp), Indexer.documentRequest_eq, hkey]
  rw [Fetch.runOn_bind_of_ok (Fetch.runOn_ofExcept _ _ _)]
  rw [Fetch.runOn_bind_of_ok ((Fetch.runOn_ask _ _ _ _).trans hreply), report, hempty]
  rfl

/-- A document is taken out of its index, whether or not it is there. -/
theorem remove_runOn {entry : Entry} {id : String} (hkey : entry.key = some id) :
    ∃ after, (indexer.remove entry).runOn Store.backend store = (.ok (remove.report entry), after) ∧
      remove.Made [entry] store after := by
  let request := PlainRequest.render
    { envelope := (indexer.address entry.schema id).setClient "ignore" (.ofNat 404) }
  have haddress : documentAddress request = .ok (entry.schema.indexName, id) :=
    indexer.documentAddress_address entry.schema id _ ∅
  have hrun : ∀ (reply : Except Error Json) (after : Store),
      Store.backend.reply .delete request store = (reply, after) →
      (reply = .error .notFound ∨ ∃ answer, reply = .ok answer) →
      (indexer.remove entry).runOn Store.backend store = (.ok (remove.report entry), after) := by
    intro reply after hreply hfine
    rw [Indexer.remove, Indexer.documentRequest_eq, hkey]
    rw [Fetch.runOn_bind_of_ok (Fetch.runOn_ofExcept _ _ _)]
    rw [Fetch.runOn_bind_of_ok (Fetch.runOn_attempt _ _ _ _)]
    rw [show Store.backend.reply .delete _ store = (reply, after) from hreply]
    rcases hfine with rfl | ⟨answer, rfl⟩ <;> rfl
  have hreply := Store.reply_backend .delete request store
  rw [Store.reply, Store.delete, haddress] at hreply
  dsimp only at hreply
  split at hreply
  · exact ⟨_, hrun _ _ hreply (.inr ⟨_, rfl⟩), made_drop store hkey .delete request⟩
  · next hstored =>
    have hmade :=
      made_of_absent store hkey (Option.not_isSome_iff_eq_none.1 hstored) .delete request
    -- The backend is told to take a missing document for an answer; either way it is none.
    split at hreply
    · exact ⟨_, hrun _ _ hreply (.inr ⟨_, rfl⟩), hmade⟩
    · exact ⟨_, hrun _ _ hreply (.inl rfl), hmade⟩

/-- An entry at which the batch does not stop is changed and reported. -/
theorem act_runOn {change : Change} {entry : Entry} (h : change.stops entry = false) :
    ∃ after, (change.act indexer entry).runOn Store.backend store =
      (.ok (change.report entry), after) ∧ change.Made [entry] store after := by
  cases change with
  | write =>
    by_cases hempty : entry.projection = ∅
    · exact ⟨store, write_runOn_of_empty indexer store hempty⟩
    · have hkey : entry.key.isSome := by
        simpa [stops, ← Bool.not_eq_true, hempty, Option.isSome_iff_ne_none] using h
      obtain ⟨id, hid⟩ := Option.isSome_iff_exists.1 hkey
      exact write_runOn indexer store hid hempty
  | remove =>
    have hkey : entry.key.isSome := by simpa [stops] using h
    obtain ⟨id, hid⟩ := Option.isSome_iff_exists.1 hkey
    exact remove_runOn indexer store hid

/-! ### Batches -/

/-- The entries that a batch changes: those before the first one at which it stops. -/
def reached (change : Change) (entries : List Entry) : List Entry :=
  entries.takeWhile fun entry ↦ !change.stops entry

theorem reached_eq_self {change : Change} {entries : List Entry}
    (h : entries.find? change.stops = none) : change.reached entries = entries := by
  refine List.takeWhile_eq_self_iff.2 fun entry hentry ↦ ?_
  simpa using List.find?_eq_none.1 h entry hentry

/-- Behind entries at which a batch does not stop it goes on. -/
theorem reached_append_of_none {change : Change} {first : List Entry}
    (h : first.find? change.stops = none) (rest : List Entry) :
    change.reached (first ++ rest) = first ++ change.reached rest := by
  refine List.takeWhile_append_of_pos fun entry hentry ↦ ?_
  simpa using List.find?_eq_none.1 h entry hentry

/-- It reaches no further than to an entry at which it stops. -/
theorem reached_append_cons {change : Change} {before : List Entry} {stop : Entry}
    (hbefore : before.find? change.stops = none) (hstop : change.stops stop = true)
    (rest : List Entry) : change.reached (before ++ stop :: rest) = before := by
  rw [reached_append_of_none hbefore, reached, List.takeWhile_cons_of_neg (by simp [hstop]),
    List.append_nil]

/-- A batch that stops reaches nothing behind. -/
theorem reached_append_of_some {change : Change} {first : List Entry} {entry : Entry}
    (h : first.find? change.stops = some entry) (rest : List Entry) :
    change.reached (first ++ rest) = change.reached first := by
  obtain ⟨hstops, before, behind, rfl, hbefore⟩ := List.find?_eq_some_iff_append.1 h
  have hpass : ∀ other ∈ before, (!change.stops other) = true := hbefore
  rw [reached, reached, List.append_assoc, List.takeWhile_append_of_pos hpass,
    List.takeWhile_append_of_pos hpass, List.cons_append, List.takeWhile_cons_of_neg,
    List.takeWhile_cons_of_neg]
  · simp [hstops]
  · simp [hstops]

/-- The outcome of a batch: what is reported of all entries behind a report, or the missing key of
the first entry at which the batch stops. -/
def outcome (change : Change) (entries : List Entry) (report : Report) : Except Error Report :=
  match entries.find? change.stops with
  | some entry => .error (.configuration (.missingKey entry.schema.table))
  | none => .ok (entries.foldl (fun report entry ↦ report.merge (change.report entry)) report)

/-- A batch does to the entries before the first one at which it stops, in order, what it does to
one at which it does not stop; its outcome says whether there is such an entry. -/
theorem forAll_runOn_does {change : Change} {does : List Entry → Store → Store → Prop}
    (hnil : ∀ store, does [] store store)
    (hcons : ∀ {entry entries before between after}, does [entry] before between →
      does entries between after → does (entry :: entries) before after)
    (hone : ∀ entry store, change.stops entry = false →
      ∃ after, (change.act indexer entry).runOn Store.backend store =
        (.ok (change.report entry), after) ∧ does [entry] store after)
    (entries : List Entry) (report : Report) :
    ∃ after, (Indexer.forAll (change.act indexer) entries report).runOn Store.backend store =
      (change.outcome entries report, after) ∧ does (change.reached entries) store after := by
  -- Each entry adds to the report and changes the store, so both vary in the induction.
  induction entries generalizing store report with
  | nil => exact ⟨store, rfl, hnil store⟩
  | cons entry rest ih =>
    rw [Indexer.forAll, reached, outcome, List.takeWhile_cons, List.find?_cons]
    cases hstops : change.stops entry with
    | true =>
      exact ⟨store, Fetch.runOn_bind_of_error (act_runOn_of_stops indexer store hstops),
        hnil store⟩
    | false =>
      obtain ⟨between, hact, hfirst⟩ := hone entry store hstops
      obtain ⟨after, hrest, hdone⟩ := ih between (report.merge (change.report entry))
      exact ⟨after, (Fetch.runOn_bind_of_ok hact).trans hrest, hcons hfirst hdone⟩

/-- **The batch law.** A batch changes the entries before the first one at which it stops, in
order, and its outcome says whether there is such an entry. -/
theorem runOn_forAll (change : Change) (entries : List Entry) (report : Report) :
    ∃ after, (Indexer.forAll (change.act indexer) entries report).runOn Store.backend store =
      (change.outcome entries report, after) ∧
        change.Made (change.reached entries) store after :=
  forAll_runOn_does indexer store (.nil change) .cons
    (fun _ store hstops ↦ act_runOn indexer store hstops) entries report

/-! ### Documents after a batch -/

theorem entries_apply_remove (entry : Entry) (documents : Dict Json) :
    (remove.apply entry documents).entries =
      documents.entries.filter fun document ↦ entry.key ≠ some document.1 := by
  cases hkey : entry.key with
  | none => simp [apply, hkey]
  | some key =>
    rw [apply_remove hkey]
    refine List.filter_congr fun document _ ↦ ?_
    simp [eq_comm]

/-- Removals leave the documents that belong to none of the entries. -/
theorem entries_applyAll_remove (index : String) (entries : List Entry) (documents : Dict Json) :
    (remove.applyAll index entries documents).entries =
      documents.entries.filter fun document ↦ !entries.any (Entry.isAt index document.1) := by
  induction entries generalizing documents with
  | nil => exact (List.filter_eq_self.2 fun _ _ ↦ rfl).symm
  | cons entry rest ih =>
    have hone : (if entry.schema.indexName = index then remove.apply entry documents
        else documents).entries =
          documents.entries.filter fun document ↦ !entry.isAt index document.1 := by
      split
      · next h => simp [entries_apply_remove, Entry.isAt, h]
      · next h => simp [Entry.isAt, h]
    rw [applyAll_cons, ih, hone, List.filter_filter]
    exact List.filter_congr fun document _ ↦ by rw [List.any_cons, Bool.not_or, Bool.and_comm]

/-- What is found under an id after writes is what the last of them put there, if there is one. -/
theorem get?_applyAll_write (index id : String) (entries : List Entry) (documents : Dict Json) :
    (write.applyAll index entries documents).get? id =
      match Entry.lastWritten? index id entries with
      | some entry => some (.ofObject entry.projection)
      | none => documents.get? id := by
  induction entries generalizing documents with
  | nil => rfl
  | cons entry rest ih =>
    have hone : (if entry.schema.indexName = index then write.apply entry documents
        else documents).get? id =
          if entry.writesTo index id then some (.ofObject entry.projection)
          else documents.get? id := by
      split
      · next h =>
        rw [get?_apply_write]
        refine if_congr ?_ rfl rfl
        rw [Entry.writesTo_iff]
        exact ⟨fun hwrite ↦ ⟨h, hwrite.2, hwrite.1⟩, fun hwrite ↦ ⟨hwrite.2.2, hwrite.2.1⟩⟩
      · next h => rw [if_neg fun hwrite ↦ h (Entry.writesTo_iff.1 hwrite).1]
    rw [applyAll_cons, ih, Entry.lastWritten?_cons, hone]
    -- What the first entry writes shows only if no later one writes to the same document.
    cases Entry.lastWritten? index id rest with
    | some last => rfl
    | none => cases entry.writesTo index id <;> rfl

/-- A removed document is gone, and the others are as before. -/
theorem document?_of_made_remove {entries : List Entry} {store after : Store}
    (h : remove.Made entries store after) (index id : String) :
    after.document? index id =
      if entries.any (Entry.isAt index id) then none else store.document? index id := by
  refine Option.ext fun source ↦ ?_
  rw [Store.document?_eq_get?_collection, h.collection_eq, Dict.get?_eq_some_iff_mem,
    entries_applyAll_remove, List.mem_filter, ← Dict.get?_eq_some_iff_mem,
    ← Store.document?_eq_get?_collection]
  cases entries.any (Entry.isAt index id) <;> simp

/-- The documents listed after removals are those that belong to none of the entries. -/
theorem documentsOf_of_made_remove {entries : List Entry} {store after : Store}
    (h : remove.Made entries store after) (index : String) :
    after.documentsOf index =
      (store.documentsOf index).filter fun found ↦ !entries.any (Entry.isAt index found.id) := by
  rw [Store.documentsOf, h.collection_eq, entries_applyAll_remove, Store.documentsOf,
    List.filter_map]
  rfl

/-- A written document has the contents of the last entry for it, and the others are as before. -/
theorem document?_of_made_write {entries : List Entry} {store after : Store}
    (h : write.Made entries store after) (index id : String) :
    after.document? index id =
      match Entry.lastWritten? index id entries with
      | some entry => some (.ofObject entry.projection)
      | none => store.document? index id := by
  rw [Store.document?_eq_get?_collection, h.collection_eq, get?_applyAll_write,
    Store.document?_eq_get?_collection]

end Change

/-! ### Entries with contents -/

namespace Entry

/-- Has the entry contents to write? -/
def hasContents (entry : Entry) : Bool :=
  !entry.projection.isEmpty

variable {entry : Entry}

theorem hasContents_eq_true_iff : entry.hasContents = true ↔ entry.projection ≠ ∅ := by
  rw [hasContents, Bool.not_eq_true', ← Bool.not_eq_true, ne_eq, Dict.isEmpty_iff]

/-- A write stops at an entry that has contents and no key. -/
theorem stops_write_eq : Change.write.stops entry = (entry.hasContents && entry.key.isNone) :=
  rfl

/-- A write stops at none of the entries if those with contents have a key. -/
theorem find?_stops_write_eq_none_iff {entries : List Entry} :
    entries.find? Change.write.stops = none ↔
      ∀ entry ∈ entries, entry.projection ≠ ∅ → entry.key.isSome = true := by
  rw [List.find?_eq_none]
  refine forall₂_congr fun entry _ ↦ ?_
  rw [stops_write_eq, Bool.and_eq_true, hasContents_eq_true_iff, not_and, Bool.not_eq_true,
    Option.isNone_eq_false_iff]

/-- An entry with contents at which a write does not stop has a key. -/
theorem exists_key (hcontents : entry.hasContents = true) (h : Change.write.stops entry = false) :
    ∃ id, entry.key = some id := by
  rw [stops_write_eq, hcontents, Bool.true_and] at h
  exact Option.ne_none_iff_exists'.1 fun hnone ↦ by simp [hnone] at h

end Entry

/-- What is reported of entries that are written: how many have contents, and how many have none. -/
theorem Change.foldl_report_write (entries : List Entry) (report : Report) :
    entries.foldl (fun report entry ↦ report.merge (write.report entry)) report =
      { indexed := report.indexed + entries.countP Entry.hasContents
        skipped := report.skipped + entries.countP fun entry ↦ entry.projection.isEmpty } := by
  induction entries generalizing report with
  | nil => rfl
  | cons entry rest ih =>
    rw [List.foldl_cons, ih, List.countP_cons, List.countP_cons]
    rw [Change.report, Report.merge, Entry.hasContents]
    cases entry.projection.isEmpty with
    | true => simp [Nat.add_assoc, Nat.add_comm 1]
    | false => simp [Nat.add_assoc, Nat.add_comm 1]

/-- Entries that all have contents and a key are all written. -/
theorem Change.outcome_write {entries : List Entry}
    (h : ∀ entry ∈ entries, entry.projection ≠ ∅ ∧ entry.key.isSome = true) :
    write.outcome entries {} = .ok { indexed := entries.length } := by
  have hcontents : entries.countP Entry.hasContents = entries.length :=
    List.countP_eq_length.2 fun entry hentry ↦ Entry.hasContents_eq_true_iff.2 (h entry hentry).1
  have hempty : (entries.countP fun entry ↦ entry.projection.isEmpty) = 0 :=
    List.countP_eq_zero.2 fun entry hentry hnone ↦ (h entry hentry).1 (Dict.isEmpty_iff.1 hnone)
  rw [outcome, Entry.find?_stops_write_eq_none_iff.2 fun entry hentry _ ↦ (h entry hentry).2,
    foldl_report_write, hcontents, hempty, Nat.zero_add]

end RecordSearch
