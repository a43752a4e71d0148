import RecordSearch.Exchange
import RecordSearch.Memory.Filter
/-!
# A backend in memory

A `Store` keeps documents by index and id, and the settings and mappings of indices. A search
visits the indices of its request in order and the documents of each in the order of their ids,
keeps those that the request's filter accepts, and cuts the window of the request out of them.
Answers can be queued for an index: they are given first, one to each search (or count) whose
first index it is.

`Store.backend` is the store as a backend; it also writes every request down.
-/

namespace RecordSearch

/-- The indices that a request names. -/
def targetIndices (request : Json) : List String :=
  match request.field? "index" with
  | some (.string name) => [name]
  | some (.array names) => names.filterMap Json.string?
  | _ => []

/-- Does a request take a missing document for an answer? -/
def ignoresMissing (request : Json) : Bool :=
  match request.at? ["client", "ignore"] with
  | some (.number n) => n.nat? = some 404
  | some (.array codes) => codes.any fun code ↦ code.nat? = some 404
  | _ => false

/-- The index and the id of the document that a request is about. -/
def documentAddress (request : Json) : Except Error (String × String) :=
  match targetIndices request with
  | [] => .error (.malformed .noIndex)
  | index :: _ =>
    match (request.field? "id").bind Json.string? with
    | some id => .ok (index, id)
    | none => .error (.malformed (.noField "id"))

/-- A document where it was found. -/
structure Found where
  /-- The index. -/
  index : String
  /-- The id. -/
  id : String
  /-- The contents. -/
  source : Json
deriving DecidableEq

/-- A found document in an answer. -/
def Found.render (found : Found) : Json :=
  .ofFields [("_index", .string found.index), ("_id", .string found.id),
    ("_score", .ofBinary64 (.ofInt 1)), ("_source", found.source)]

/-- The state of the backend in memory. -/
structure Store where
  /-- The documents of each index under their ids. -/
  documents : Dict (Dict Json) := ∅
  /-- The bodies with which indices were created. -/
  indices : Dict Json := ∅
  /-- The mappings of indices. -/
  mappings : Dict Json := ∅
  /-- The answers waiting for searches, by index. -/
  searchAnswers : Dict (List Json) := ∅
  /-- The answers waiting for counts, by index. -/
  countAnswers : Dict (List Json) := ∅
  /-- Does the question whether an index exists fail? -/
  failsProbe : Bool := false
  /-- The requests so far. -/
  requests : List (Operation × Json) := []

namespace Store

/-! ### Contents -/

/-- The document of an id in an index. -/
def document? (store : Store) (index id : String) : Option Json :=
  (store.documents.get? index).bind (·.get? id)

/-- The number of documents of an index. -/
def documentCount (store : Store) (index : String) : Nat :=
  ((store.documents.get? index).map Dict.size).getD 0

/-- The store with a document put in place. -/
def put (store : Store) (index id : String) (source : Json) : Store :=
  { store with
    documents := store.documents.alter index fun found ↦ (found.getD ∅).insert id source }

/-- The store with a document taken away. -/
def drop (store : Store) (index id : String) : Store :=
  match store.documents.get? index with
  | some documents =>
    { store with documents := store.documents.insert index (documents.erase id) }
  | none => store

/-- The store with an answer waiting for a search of an index. -/
def queueSearch (store : Store) (index : String) (answer : Json) : Store :=
  { store with
    searchAnswers := store.searchAnswers.alter index fun queue ↦ queue.getD [] ++ [answer] }

/-- The store with a number waiting for a count of an index. -/
def queueCount (store : Store) (index : String) (count : Nat) : Store :=
  { store with
    countAnswers := store.countAnswers.alter index fun queue ↦
      queue.getD [] ++ [.single "count" (.ofNat count)] }

/-- The documents of an index that a filter accepts, in the order of their ids. -/
def foundIn (store : Store) (filter : Option Json) (index : String) : List Found :=
  match store.documents.get? index with
  | none => []
  | some documents =>
    (documents.entries.filter fun entry ↦
      filter.all fun filter ↦ Filter.accepts entry.2 filter).map fun entry ↦
        ⟨index, entry.1, entry.2⟩

/-- The documents that a request finds. -/
def found (store : Store) (request : Json) : List Found :=
  (targetIndices request).flatMap
    (store.foundIn (request.at? ["body", "query", "bool", "filter"]))

/-! ### Answers -/

/-- Take the next answer that waits for the first index of a request. -/
def nextAnswer? (answers : Dict (List Json)) (request : Json) :
    Option (Json × Dict (List Json)) :=
  match targetIndices request with
  | [] => none
  | index :: _ =>
    match answers.get? index with
    | some (answer :: rest) => some (answer, answers.insert index rest)
    | _ => none

/-- The first hit of a request's window. -/
def windowStart (request : Json) : Nat :=
  ((request.at? ["body", "from"]).bind Json.nat?).getD 0

/-- The length of a request's window; ten unless the request says otherwise. -/
def windowSize (request : Json) : Nat :=
  ((request.at? ["body", "size"]).bind Json.nat?).getD 10

/-- The answer to a search from the documents. -/
def searchAnswer (store : Store) (request : Json) : Json :=
  let found := store.found request
  let window := (found.drop (windowStart request)).take (windowSize request)
  .ofFields [("took", .ofNat 0),
    ("hits", .ofFields [
      ("total", .ofFields [("value", .ofNat found.length), ("relation", .string "eq")]),
      ("hits", .array (window.map Found.render))])]

/-- The answer to a count from the documents. -/
def countAnswer (store : Store) (request : Json) : Json :=
  .single "count" (.ofNat (store.found request).length)

/-- The answer about one document. -/
def documentAnswer (index id result : String) : Json :=
  .ofFields [("_index", .string index), ("_id", .string id), ("result", .string result)]

/-- The body of a request, or an empty object. -/
def bodyOf (request : Json) : Json :=
  (request.field? "body").getD .emptyObject

/-- The answer to a change of an index. -/
def acknowledged : Json :=
  .single "acknowledged" (.bool true)

/-- Answer a search. -/
def search (store : Store) (request : Json) : Except Error Json × Store :=
  match nextAnswer? store.searchAnswers request with
  | some (answer, rest) => (.ok answer, { store with searchAnswers := rest })
  | none => (.ok (store.searchAnswer request), store)

/-- Answer a count. -/
def count (store : Store) (request : Json) : Except Error Json × Store :=
  match nextAnswer? store.countAnswers request with
  | some (answer, rest) => (.ok answer, { store with countAnswers := rest })
  | none => (.ok (store.countAnswer request), store)

/-- Write a document. -/
def index (store : Store) (request : Json) : Except Error Json × Store :=
  match documentAddress request with
  | .error e => (.error e, store)
  | .ok (index, id) =>
    let result := if (store.document? index id).isSome then "updated" else "created"
    (.ok (documentAnswer index id result), store.put index id (bodyOf request))

/-- Delete a document. -/
def delete (store : Store) (request : Json) : Except Error Json × Store :=
  match documentAddress request with
  | .error e => (.error e, store)
  | .ok (index, id) =>
    if (store.document? index id).isSome then
      (.ok (documentAnswer index id "deleted"), store.drop index id)
    else if ignoresMissing request then (.ok (documentAnswer index id "not_found"), store)
    else (.error .notFound, store)

/-- Do all indices of a request exist? -/
def indexExists (store : Store) (request : Json) : Except Error Bool × Store :=
  if store.failsProbe then (.error (.transport "connection refused"), store)
  else (.ok ((targetIndices request).all store.indices.contains), store)

/-- Create the indices of a request, unless one of them exists. -/
def createIndex (store : Store) (request : Json) : Except Error Json × Store :=
  match (targetIndices request).find? store.indices.contains with
  | some existing =>
    (.error (.backend ("400: resource_already_exists_exception: index [" ++ existing ++
      "] already exists")), store)
  | none =>
    (.ok acknowledged, { store with
      indices := (targetIndices request).foldl (fun indices name ↦
        indices.insert name (bodyOf request)) store.indices })

/-- Write the mapping of the indices of a request. -/
def putMapping (store : Store) (request : Json) : Except Error Json × Store :=
  (.ok acknowledged, { store with
    mappings := (targetIndices request).foldl (fun mappings name ↦
      mappings.insert name (bodyOf request)) store.mappings })

/-- The reply to a request, from the state after it was written down. -/
def reply (op : Operation) (request : Json) (store : Store) : Except Error op.Reply × Store :=
  match op with
  | .search => store.search request
  | .count => store.count request
  | .index => store.index request
  | .delete => store.delete request
  | .indexExists => store.indexExists request
  | .createIndex => store.createIndex request
  | .putMapping => store.putMapping request

/-- The store as a backend. -/
def backend : Backend Store where
  reply op request store :=
    reply op request { store with requests := store.requests ++ [(op, request)] }

end Store

end RecordSearch
