import RecordSearch.Http.Route
import RecordSearch.Proofs.Mappings
/-!
# Which document a path names

The path of a document is its index, its type and its id with slashes between them, and none of
these is escaped. A path begins with index and type if neither holds a slash, and the pieces behind
them are the pieces of the id (`Route.splitAt_documentPath`); so a path determines its document, but
has more than three pieces if the id holds a slash. `Change.document_path_iff` says this of whatever
a change sends for an entry.
-/

namespace RecordSearch

namespace Text

/-- Texts with the same pieces are the same text. -/
theorem splitAt_injective (sep : Char) {a b : String} (h : splitAt sep a = splitAt sep b) :
    a = b := by
  rw [← join_splitAt sep a, h, join_splitAt]

theorem splitAt_eq_singleton_iff {sep : Char} {text : String} :
    splitAt sep text = [text] ↔ sep ∉ text.toList := by
  constructor
  · intro h
    obtain ⟨piece, hsegments, rfl⟩ := List.map_eq_singleton_iff.1 h
    rw [String.toList_ofList]
    exact not_mem_of_mem_segments (hsegments ▸ List.mem_singleton_self piece)
  · intro h
    rw [splitAt, segments_of_not_mem h, List.map_singleton, String.ofList_toList]

end Text

/-! ### The path of a document -/

/-- The pieces of a document's path are the index, the type and the pieces of the id. -/
theorem Route.splitAt_documentPath {index docType : String} (hindex : '/' ∉ index.toList)
    (htype : '/' ∉ docType.toList) (id : String) :
    Text.splitAt '/' (Text.join '/' [index, docType, id]) =
      index :: docType :: Text.splitAt '/' id := by
  rw [Text.splitAt, Text.join, String.toList_ofList]
  show (Text.segments '/' (index.toList ++ '/' :: (docType.toList ++ '/' :: id.toList))).map
    String.ofList = _
  rw [Text.segments_append hindex, Text.segments_append htype, List.map_cons, List.map_cons,
    String.ofList_toList, String.ofList_toList, Text.splitAt]

/-- Documents are written with their body and removed without one. -/
theorem Route.ofRequest_of_documentPath {request : Json} {path : String}
    (h : documentPath request = .ok path) :
    ofRequest .index request =
        .ok { method := .put, path, params := queryParams request, body := request.field? "body" } ∧
      ofRequest .delete request =
        .ok { method := .delete, path, params := queryParams request, body := none } := by
  rw [ofRequest, ofRequest, parts, parts, h]
  exact ⟨rfl, rfl⟩

/-- What is put behind a table to name its index holds no slash. -/
theorem Schema.not_mem_indexName {schema : Schema} (h : '/' ∉ schema.table.toList) :
    '/' ∉ schema.indexName.toList := by
  rw [indexName, String.toList_append, List.mem_append, not_or]
  exact ⟨h, by decide⟩

/-- The path of a request to one document. -/
theorem PlainRequest.documentPath_render {request : PlainRequest} {index docType id : String}
    (hparams : ∀ key, Envelope.isProtected key = true → request.envelope.params.get? key = none)
    (htarget : request.envelope.target = .single index)
    (htype : request.envelope.docType = some docType) (hid : request.envelope.id = some id) :
    Route.documentPath request.render = .ok (Text.join '/' [index, docType, id]) := by
  have hfield : ∀ key, Envelope.isProtected key = true → "body" ≠ key →
      request.render.field? key = request.envelope.identity.get? key := fun key hkey hbody ↦
    (field?_render_of_ne hbody).trans
      (Envelope.get?_toObject_of_isProtected hkey (hparams key hkey))
  have hindex : Route.indices request.render = .ok index := by
    rw [Route.indices, hfield "index" rfl (by decide), Envelope.get?_identity_index, htarget]
    rfl
  have htexts : Route.textField request.render "type" = .ok docType ∧
      Route.textField request.render "id" = .ok id := by
    rw [Route.textField, Route.textField, hfield "type" rfl (by decide),
      hfield "id" rfl (by decide), Envelope.get?_identity_type, Envelope.get?_identity_id, htype,
      hid]
    exact ⟨rfl, rfl⟩
  rw [Route.documentPath, hindex, htexts.1, htexts.2]
  rfl

/-! ### What a change sends -/

namespace Change

variable (change : Change) (indexer : Indexer)

/-- The operation by which a change is made. -/
def operation : Change → Operation
  | write => .index
  | remove => .delete

/-- The method of a change over HTTP. -/
def method : Change → Method
  | write => .put
  | remove => .delete

/-- The request that a change sends for the entry of an id. -/
def request (entry : Entry) (id : String) : PlainRequest :=
  match change with
  | write => { envelope := indexer.address entry.schema id, body := entry.projection }
  | remove => { envelope := (indexer.address entry.schema id).setClient "ignore" (.ofNat 404) }

/-- A change asks nothing but its request. -/
theorem act_asksOnly {entry : Entry} {id : String} (hkey : entry.key = some id) :
    (change.act indexer entry).AsksOnly fun op asked ↦
      op = change.operation ∧ asked = (change.request indexer entry id).render := by
  have hdocument : indexer.documentRequest entry =
      .ok { envelope := indexer.address entry.schema id } := by
    rw [Indexer.documentRequest_eq, hkey]
  cases change with
  | write =>
    rw [act, Indexer.write, hdocument]
    split
    · exact trivial
    · exact (Fetch.AsksOnly.ask ⟨rfl, rfl⟩).bind fun _ ↦ trivial
  | remove =>
    rw [act, Indexer.remove, hdocument]
    refine (Fetch.AsksOnly.attempt ⟨rfl, rfl⟩).bind fun reply ↦ ?_
    rcases reply with (_ | _) | _ <;> exact trivial

/-- The route of a change to a document. -/
theorem ofRequest_request (entry : Entry) (id : String) :
    ∃ route, Route.ofRequest change.operation (change.request indexer entry id).render = .ok route ∧
      route.method = change.method ∧
      route.path = Text.join '/' [entry.schema.indexName, entry.schema.typeName, id] := by
  have hpath : Route.documentPath (change.request indexer entry id).render =
      .ok (Text.join '/' [entry.schema.indexName, entry.schema.typeName, id]) := by
    cases change <;>
      exact PlainRequest.documentPath_render
        (fun _ hprotected ↦ indexer.get?_params_address entry.schema id hprotected) rfl rfl rfl
  cases change with
  | write => exact ⟨_, (Route.ofRequest_of_documentPath hpath).1, rfl, rfl⟩
  | remove => exact ⟨_, (Route.ofRequest_of_documentPath hpath).2, rfl, rfl⟩

/-- **Which document a path names.** Let neither the table nor the type of an entry's schema hold a
slash. Whatever a change asks for the entry is one request, which has a route, and the pieces of its
path are index, type and the pieces of the id. So the path is that of no other document; and its
pieces are exactly index, type and id if and only if the id holds no slash. -/
theorem document_path_iff (change : Change) (indexer : Indexer) (entry : Entry) (id : String)
    (hkey : entry.key = some id) (htable : '/' ∉ entry.schema.table.toList)
    (htype : '/' ∉ entry.schema.typeName.toList) :
    let request := (change.request indexer entry id).render
    let index := entry.schema.indexName
    let docType := entry.schema.typeName
    (change.act indexer entry).AsksOnly
        (fun op asked ↦ op = change.operation ∧ asked = request) ∧
      ∃ route, Route.ofRequest change.operation request = .ok route ∧
        route.method = change.method ∧
        Text.splitAt '/' route.path = index :: docType :: Text.splitAt '/' id ∧
        (Text.splitAt '/' route.path = [index, docType, id] ↔ '/' ∉ id.toList) ∧
        ∀ (otherChange : Change) (otherIndexer : Indexer) (other : Entry) (otherId : String)
          (otherRoute : Route), '/' ∉ other.schema.table.toList →
          '/' ∉ other.schema.typeName.toList →
          Route.ofRequest otherChange.operation
            (otherChange.request otherIndexer other otherId).render = .ok otherRoute →
          otherRoute.path = route.path →
            other.schema.indexName = index ∧ other.schema.typeName = docType ∧ otherId = id := by
  intro request index docType
  obtain ⟨route, hroute, hmethod, hpath⟩ := change.ofRequest_request indexer entry id
  have hsplit : Text.splitAt '/' route.path = index :: docType :: Text.splitAt '/' id := by
    rw [hpath]
    exact Route.splitAt_documentPath (Schema.not_mem_indexName htable) htype id
  refine ⟨change.act_asksOnly indexer hkey, route, hroute, hmethod, hsplit, ?_, ?_⟩
  · rw [hsplit, List.cons_inj_right, List.cons_inj_right, Text.splitAt_eq_singleton_iff]
  · intro otherChange otherIndexer other otherId otherRoute htable' htype' hroute' heq
    obtain ⟨found, hfound, -, hpath'⟩ :=
      otherChange.ofRequest_request otherIndexer other otherId
    obtain rfl : otherRoute = found := Except.ok.inj (hroute'.symm.trans hfound)
    rw [← heq, hpath',
      Route.splitAt_documentPath (Schema.not_mem_indexName htable') htype' otherId] at hsplit
    obtain ⟨hindex, hrest⟩ := List.cons.inj hsplit
    obtain ⟨hdocType, hpieces⟩ := List.cons.inj hrest
    exact ⟨hindex, hdocType, Text.splitAt_injective '/' hpieces⟩

/-- A blank and a dot split nothing. -/
theorem document_path_users :
    ∃ entry : Entry, entry.key = some "ada b.c" ∧ entry.projection ≠ ∅ ∧
      ∃ route, Route.ofRequest .index (write.request {} entry "ada b.c").render = .ok route ∧
        Text.splitAt '/' route.path = ["users_index", "users", "ada b.c"] := by
  let entry : Entry := {
    schema := .ofTable "users"
    key := some "ada b.c"
    projection := .single "id" (.string "ada b.c") }
  obtain ⟨-, route, hroute, -, -, hiff, -⟩ :=
    document_path_iff .write {} entry "ada b.c" rfl (by decide) (by decide)
  exact ⟨entry, rfl, by decide, route, hroute, hiff.2 (by decide)⟩

/-- To write the record with the key `1/_create` is to put a fourth piece behind the path of the
record with the key `1`. -/
theorem document_path_splits_key :
    ∃ record : Record, record.toEntry.key = some "1/_create" ∧
      ∃ route, Route.ofRequest .index
          (write.request {} record.toEntry "1/_create").render = .ok route ∧
        route.method = .put ∧
        Text.splitAt '/' route.path = ["users_index", "users", "1", "_create"] := by
  refine ⟨{ schema := .ofTable "users", attributes := .single "id" (.string "1/_create") },
    by decide +kernel, _, rfl, rfl, by decide +kernel⟩

end Change

end RecordSearch
