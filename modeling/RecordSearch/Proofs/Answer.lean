import RecordSearch.Proofs.Request
import RecordSearch.Query.Search
/-!
# What the store answers

The answers of the store to searches and counts, read back as responses. `Store.documentsOf` lists
the documents of one index in the order of their ids, and everything a request finds is a part of
these lists (`foundIn_eq_filter`). An answer reports all that was found and shows its window
(`totalHits_searchAnswer`, `hits_searchAnswer`, `readCount_countAnswer`).

An index is **idle** if no prepared answer waits for it; the store then answers from its documents
(`search_of_idle`, `count_of_idle`).

`Store.Effect` says which part of the store an operation may change. Whatever else is to stay as it
is under all operations, or under some of them, is read off its cases (`effect_reply`).
-/

namespace RecordSearch

/-! ### Hits -/

/-- A found document as a response shows it. -/
def Found.hit (found : Found) : Hit where
  id := some found.id
  index := some found.index
  source := found.source.fieldsOrNone

/-- A rendered document is read as itself. -/
@[simp]
theorem Hit.read_render (found : Found) : Hit.read found.render = found.hit := by
  simp [Hit.read, Found.render, Found.hit, Json.ofFields, Dict.get?_ofList, Fields.get?,
    Json.scalarText?, Json.string?, Json.fieldsOrNone]

namespace Store

/-! ### Documents -/

/-- The documents of an index under their ids. -/
def collection (store : Store) (index : String) : Dict Json :=
  (store.documents.get? index).getD ∅

theorem document?_eq_get?_collection (store : Store) (index id : String) :
    store.document? index id = (store.collection index).get? id := by
  rw [document?, collection]
  cases store.documents.get? index <;> rfl

/-- The documents of an index in the order of their ids. -/
def documentsOf (store : Store) (index : String) : List Found :=
  (store.collection index).entries.map fun entry ↦ ⟨index, entry.1, entry.2⟩

/-- A document is listed under its index and id exactly if it is stored there. -/
theorem mem_documentsOf {store : Store} {index : String} {found : Found} :
    found ∈ store.documentsOf index ↔
      found.index = index ∧ store.document? index found.id = some found.source := by
  obtain ⟨foundIndex, id, source⟩ := found
  rw [documentsOf, List.mem_map, document?_eq_get?_collection, Dict.get?_eq_some_iff_mem]
  constructor
  · rintro ⟨⟨key, value⟩, hmem, heq⟩
    obtain ⟨rfl, rfl, rfl⟩ := Found.mk.inj heq
    exact ⟨rfl, hmem⟩
  · rintro ⟨rfl, hmem⟩
    exact ⟨(id, source), hmem, rfl⟩

/-- The ids of an index are listed in increasing order. -/
theorem pairwise_id_documentsOf (store : Store) (index : String) :
    (store.documentsOf index).Pairwise fun a b ↦ a.id < b.id := by
  rw [documentsOf, List.pairwise_map]
  exact (store.collection index).sorted

/-- What a request finds in an index are the documents of the index that its filter accepts. -/
theorem foundIn_eq_filter (store : Store) (filter : Option Json) (index : String) :
    store.foundIn filter index =
      (store.documentsOf index).filter fun found ↦
        filter.all (Filter.accepts found.source) := by
  rw [foundIn, documentsOf, collection]
  cases store.documents.get? index with
  | none => rfl
  | some documents =>
    rw [Option.getD_some, List.filter_map]
    rfl

/-! ### Answers -/

/-- No prepared answer waits for the index. -/
def Idle (answers : Dict (List Json)) (index : String) : Prop :=
  (answers.get? index).getD [] = []

instance (answers : Dict (List Json)) (index : String) : Decidable (Idle answers index) :=
  inferInstanceAs (Decidable (_ = _))

/-- The next answer is the first one that waits for the first index of the request. -/
theorem nextAnswer?_eq (answers : Dict (List Json)) (request : Json) :
    nextAnswer? answers request = (targetIndices request).head?.bind fun index ↦
      match (answers.get? index).getD [] with
      | [] => none
      | answer :: rest => some (answer, answers.insert index rest) := by
  rw [nextAnswer?]
  cases targetIndices request with
  | nil => rfl
  | cons index _ => rcases h : answers.get? index with _ | _ | _ <;> simp [h]

theorem nextAnswer?_of_idle {answers : Dict (List Json)} {request : Json} {index : String}
    {rest : List String} (htarget : targetIndices request = index :: rest)
    (h : Idle answers index) : nextAnswer? answers request = none := by
  have hidle : (answers.get? index).getD [] = [] := h
  rw [nextAnswer?_eq, htarget, List.head?_cons, Option.bind_some, hidle]

/-- The store with one more request written down. -/
def noting (store : Store) (op : Operation) (request : Json) : Store :=
  { store with requests := store.requests ++ [(op, request)] }

theorem reply_backend (op : Operation) (request : Json) (store : Store) :
    backend.reply op request store = reply op request (store.noting op request) :=
  rfl

/-- An idle index is searched in its documents. -/
theorem search_of_idle {store : Store} {request : Json} {index : String} {rest : List String}
    (htarget : targetIndices request = index :: rest) (h : Idle store.searchAnswers index) :
    backend.reply .search request store =
      (.ok (store.searchAnswer request), store.noting .search request) := by
  show (store.noting .search request).search request = _
  rw [search, show (store.noting .search request).searchAnswers = store.searchAnswers from rfl,
    nextAnswer?_of_idle htarget h]
  rfl

/-- An idle index is counted in its documents. -/
theorem count_of_idle {store : Store} {request : Json} {index : String} {rest : List String}
    (htarget : targetIndices request = index :: rest) (h : Idle store.countAnswers index) :
    backend.reply .count request store =
      (.ok (store.countAnswer request), store.noting .count request) := by
  show (store.noting .count request).count request = _
  rw [count, show (store.noting .count request).countAnswers = store.countAnswers from rfl,
    nextAnswer?_of_idle htarget h]
  rfl

/-- The documents in the window of a request. -/
def shown (store : Store) (request : Json) : List Found :=
  ((store.found request).drop (windowStart request)).take (windowSize request)

theorem at?_searchAnswer_hits (store : Store) (request : Json) (name : String) :
    (store.searchAnswer request).at? ["hits", name] =
      (Dict.ofList [("total", .ofFields [("value", .ofNat (store.found request).length),
          ("relation", .string "eq")]),
        ("hits", .array ((store.shown request).map Found.render))]).get? name := by
  rw [searchAnswer, shown]
  simp only [Json.ofFields, Json.at?_ofObject_cons, Dict.get?_ofList]
  simp [Fields.get?, Json.at?_ofObject_cons, Dict.get?_ofList, Option.bind_some]

/-- The answer reports the number of documents found. -/
theorem totalHits_searchAnswer (store : Store) (request : Json) :
    totalHits (store.searchAnswer request) = (store.found request).length := by
  have htotal : (store.searchAnswer request).at? ["hits", "total"] =
      some (.ofFields [("value", .ofNat (store.found request).length),
        ("relation", .string "eq")]) := by
    rw [at?_searchAnswer_hits, Dict.get?_ofList]
    rfl
  rw [totalHits, htotal]
  show ((Json.field? (.ofObject _) "value").bind Json.nat?).getD 0 = _
  rw [Json.field?_ofObject, Dict.get?_ofList]
  rfl

/-- The answer lists the documents in the window. -/
theorem listed_searchAnswer (store : Store) (request : Json) :
    (store.searchAnswer request).at? ["hits", "hits"] =
      some (.array ((store.shown request).map Found.render)) := by
  rw [at?_searchAnswer_hits, Dict.get?_ofList]
  rfl

/-- The hits of the answer are the documents in the window. -/
theorem hits_searchAnswer (store : Store) (request : Json) (payload : Option Json) :
    Response.hits ⟨store.searchAnswer request, payload⟩ =
      (store.shown request).map Found.hit := by
  rw [Response.hits, listed_searchAnswer]
  simp only [Option.bind_some, Json.array?, Option.getD_some, List.map_map]
  exact List.map_congr_left fun found _ ↦ Hit.read_render found

/-- A count answer carries the number of documents found. -/
theorem readCount_countAnswer (store : Store) (request : Json) :
    readCount (store.countAnswer request) = .ok (store.found request).length := by
  rw [readCount, countAnswer, Json.field?_single_self]
  rfl

/-! ### Effects -/

/-- The **effect** of an operation, apart from writing its request down: the store stays as it is,
or the one part that the operation is about changes. -/
inductive Effect (store : Store) : Operation → Store → Prop
  | unchanged (op : Operation) : Effect store op store
  | searched (answers : Dict (List Json)) :
      Effect store .search { store with searchAnswers := answers }
  | counted (answers : Dict (List Json)) :
      Effect store .count { store with countAnswers := answers }
  | written (documents : Dict (Dict Json)) :
      Effect store .index { store with documents := documents }
  | deleted (documents : Dict (Dict Json)) :
      Effect store .delete { store with documents := documents }
  | created (names : List String) (body : Json) :
      Effect store .createIndex { store with
        indices := names.foldl (fun indices name ↦ indices.insert name body) store.indices }
  | mapped (names : List String) (body : Json) :
      Effect store .putMapping { store with
        mappings := names.foldl (fun mappings name ↦ mappings.insert name body) store.mappings }

/-- A reply has no other effect. -/
theorem effect_reply (op : Operation) (request : Json) (store : Store) :
    Effect store op (reply op request store).2 := by
  cases op with
  | search =>
    rw [reply, search]
    split
    · exact .searched _
    · exact .unchanged _
  | count =>
    rw [reply, count]
    split
    · exact .counted _
    · exact .unchanged _
  | index =>
    rw [reply, Store.index]
    split
    · exact .unchanged _
    · exact .written _
  | delete =>
    rw [reply, delete]
    split
    · exact .unchanged _
    · split
      · rw [drop]
        split
        · exact .deleted _
        · exact .unchanged _
      · split <;> exact .unchanged _
  | indexExists =>
    rw [reply, indexExists]
    split <;> exact .unchanged _
  | createIndex =>
    rw [reply, createIndex]
    split
    · exact .unchanged _
    · exact .created _ _
  | putMapping => exact .mapped _ _

variable {op : Operation} {before after : Store}

theorem Effect.requests_eq (h : Effect before op after) : after.requests = before.requests := by
  cases h <;> rfl

theorem Effect.failsProbe_eq (h : Effect before op after) :
    after.failsProbe = before.failsProbe := by
  cases h <;> rfl

/-- Documents are changed where one is written or deleted. -/
theorem Effect.documents_eq (h : Effect before op after) (hindex : op ≠ .index)
    (hdelete : op ≠ .delete) : after.documents = before.documents := by
  cases h with
  | written => exact absurd rfl hindex
  | deleted => exact absurd rfl hdelete
  | _ => rfl

end Store

end RecordSearch
