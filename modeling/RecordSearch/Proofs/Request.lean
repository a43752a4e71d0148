import Mathlib.Data.List.Basic
import RecordSearch.Engine.Indexer
import RecordSearch.Memory.Store
import RecordSearch.Proofs.Filter
/-!
# What the backend reads in a request

Requests are written from envelopes and bodies and read back by look-ups in JSON. The laws here
say that each reading gives what was written: the target indices (`targetIndices_render`), the
window and the filter of a search (`windowStart_render`, `windowSize_render`, `filter_render`), the
address and the body of a document (`documentAddress_render`, `bodyOf_render`).

The one hypothesis is that no parameter has the name of a part of the identity, since parameters
are written over it.
-/

namespace RecordSearch

/-! ### Envelopes -/

namespace Envelope

theorem get?_identity_index (envelope : Envelope) :
    envelope.identity.get? "index" = some envelope.target.render := by
  rw [identity]
  rcases envelope.docType with _ | docType <;> rcases envelope.id with _ | id <;>
    simp [Dict.get?_insert]

theorem get?_identity_type (envelope : Envelope) :
    envelope.identity.get? "type" = envelope.docType.map .string := by
  rw [identity]
  rcases envelope.docType with _ | docType <;> rcases envelope.id with _ | id <;>
    simp [Dict.get?_insert, Dict.get?_single]

theorem get?_identity_id (envelope : Envelope) :
    envelope.identity.get? "id" = envelope.id.map .string := by
  rw [identity]
  rcases envelope.docType with _ | docType <;> rcases envelope.id with _ | id <;>
    simp [Dict.get?_insert, Dict.get?_single]

/-- A protected key that is no parameter is read from the identity. -/
theorem get?_toObject_of_isProtected {envelope : Envelope} {key : String}
    (hkey : isProtected key = true) (hparams : envelope.params.get? key = none) :
    envelope.toObject.get? key = envelope.identity.get? key := by
  have hclient : "client" ≠ key := by
    rintro rfl
    simp [isProtected] at hkey
  rw [toObject]
  split
  · rw [Dict.get?_overlay, hparams, Option.none_or]
  · rw [Dict.get?_insert_of_ne _ _ hclient, Dict.get?_overlay, hparams, Option.none_or]

end Envelope

namespace Target

/-- A rendered target names its indices. -/
theorem targetIndices_of_get?_index {request : Object} {target : Target}
    (h : request.get? "index" = some target.render) :
    targetIndices (.ofObject request) = target.names := by
  rw [targetIndices, Json.field?_ofObject, h]
  cases target with
  | single name => rfl
  | many names =>
    show (names.map Json.string).filterMap Json.string? = names
    rw [List.filterMap_map]
    exact List.filterMap_some

end Target

/-! ### Searches -/

/-- A step into an object is a look-up. -/
theorem Json.at?_ofObject_cons (fields : Object) (name : String) (rest : List String) :
    (Json.ofObject fields).at? (name :: rest) = (fields.get? name).bind fun part ↦ part.at? rest :=
  rfl

namespace SearchRequest

variable (request : SearchRequest)

theorem at?_render_body (rest : List String) :
    request.render.at? ("body" :: rest) = (Json.ofObject request.body).at? rest := by
  rw [render, Json.at?_ofObject_cons, Dict.get?_insert_self, Option.bind_some]

theorem windowStart_render : Store.windowStart request.render = request.offset.getD 0 := by
  rw [Store.windowStart, at?_render_body, Json.at?_ofObject_cons, get?_body_from]
  cases request.offset <;> rfl

theorem windowSize_render : Store.windowSize request.render = request.size.getD 10 := by
  rw [Store.windowSize, at?_render_body, Json.at?_ofObject_cons, get?_body_size]
  cases request.size <;> rfl

/-- The query of a request is a Boolean one. -/
theorem query_render :
    request.render.at? ["body", "query"] =
      request.query.map fun asked ↦ .single "bool" (.ofObject asked) := by
  rw [at?_render_body, Json.at?_ofObject_cons, get?_body_query]
  cases request.query <;> rfl

theorem filter_render :
    request.render.at? ["body", "query", "bool", "filter"] =
      request.query.bind (·.get? "filter") := by
  rw [at?_render_body, Json.at?_ofObject_cons, get?_body_query]
  cases request.query with
  | none => rfl
  | some query =>
    rw [Option.map_some, Option.bind_some, ← Json.ofObject_single, Json.at?_ofObject_cons]
    simp [Json.at?_ofObject_cons]

theorem targetIndices_render (h : request.envelope.params.get? "index" = none) :
    targetIndices request.render = request.envelope.target.names := by
  refine Target.targetIndices_of_get?_index ?_
  rw [Dict.get?_insert_of_ne _ _ (by simp), Envelope.get?_toObject_of_isProtected rfl h,
    Envelope.get?_identity_index]

end SearchRequest

/-! ### Documents -/

namespace PlainRequest

variable {request : PlainRequest}

/-- What is not the body is read from the envelope. -/
theorem field?_render_of_ne {name : String} (h : "body" ≠ name) :
    request.render.field? name = request.envelope.toObject.get? name := by
  unfold render
  dsimp only
  split
  · rfl
  · rw [Json.field?_ofObject, Dict.get?_insert_of_ne _ _ h]

theorem targetIndices_render (h : request.envelope.params.get? "index" = none) :
    targetIndices request.render = request.envelope.target.names := by
  have hindex : request.envelope.toObject.get? "index" = some request.envelope.target.render := by
    rw [Envelope.get?_toObject_of_isProtected rfl h, Envelope.get?_identity_index]
  have hread := Target.targetIndices_of_get?_index hindex
  rw [targetIndices] at hread ⊢
  rwa [field?_render_of_ne (by simp)]

/-- The address of the request to one document. -/
theorem documentAddress_render {index id : String}
    (hparams : ∀ key, Envelope.isProtected key = true → request.envelope.params.get? key = none)
    (htarget : request.envelope.target = .single index) (hid : request.envelope.id = some id) :
    documentAddress request.render = .ok (index, id) := by
  have hindices : targetIndices request.render = [index] := by
    rw [targetIndices_render (hparams "index" rfl), htarget]
    rfl
  have hfield : (request.render.field? "id").bind Json.string? = some id := by
    rw [field?_render_of_ne (by simp), Envelope.get?_toObject_of_isProtected rfl (hparams "id" rfl),
      Envelope.get?_identity_id, hid]
    rfl
  rw [documentAddress]
  simp only [hindices, hfield]

theorem bodyOf_render (h : request.body ≠ ∅) :
    Store.bodyOf request.render = .ofObject request.body := by
  unfold Store.bodyOf render
  dsimp only
  rw [if_neg fun e ↦ h (Dict.isEmpty_iff.1 e), Json.field?_ofObject, Dict.get?_insert_self]
  rfl

end PlainRequest

end RecordSearch
