import RecordSearch.Http.Route
import RecordSearch.Proofs.Identity
/-!
# Which parameters of an envelope are sent

Two lists of keys have to fit together. An envelope refuses parameters with one of the three keys of
its identity, and a route takes for its query parameters what has none of five keys: those of the
identity, `body` and `client`. So a parameter `body` or `client` is accepted and never sent
(`Route.isEnvelopeKey_iff`); in the request it stands where the body or the client options stand,
and they are written over it.

All other parameters are sent. A request over an envelope has them as they are
(`RequestOver.queryParams_eq`), and after a run of calls they are the last values that were accepted
(`Call.get?_params_afterAll`). From both, `params_sent_iff` tells what is sent and for which runs
that is every accepted parameter.
-/

namespace RecordSearch

/-! ### Named values selected by their names -/

theorem Fields.get?_filter_name {α : Type*} (fields : Fields α) (keeps : String → Bool)
    (name : String) :
    Fields.get? (fields.filter fun entry ↦ keeps entry.1) name =
      if keeps name then fields.get? name else none := by
  induction fields with
  | nil => cases keeps name <;> rfl
  | cons entry rest ih =>
    obtain ⟨key, value⟩ := entry
    rw [List.filter_cons, get?_cons]
    by_cases hname : key = name
    · subst hname
      cases hkeeps : keeps key with
      | true => simp only [if_true, get?_cons]
      | false => simpa only [hkeeps, if_false, Bool.false_eq_true] using ih
    · cases keeps key with
      | true => rw [if_pos rfl, get?_cons, if_neg hname, if_neg hname, ih]
      | false => simpa only [if_neg hname, if_false, Bool.false_eq_true] using ih

/-- A name that is found names exactly one entry. -/
theorem Dict.filter_entries_of_get?_eq_some {α : Type*} {dict : Dict α} {name : String} {value : α}
    (h : dict.get? name = some value) :
    dict.entries.filter (fun entry ↦ entry.1 = name) = [(name, value)] := by
  refine Fields.Sorted.ext (List.Pairwise.filter _ dict.sorted) (List.pairwise_singleton _ _)
    fun other ↦ ?_
  rw [Fields.get?_filter_name dict.entries (fun key ↦ key = name), Fields.get?_cons]
  by_cases hother : name = other
  · subst hother
    rw [if_pos (decide_eq_true rfl), if_pos rfl]
    exact h
  · rw [if_neg fun heq ↦ hother (of_decide_eq_true heq).symm, if_neg hother]
    rfl

/-! ### The query parameters of a request -/

namespace Route

/-- Beside the identity, two keys are no query parameters. -/
theorem isEnvelopeKey_iff {key : String} :
    isEnvelopeKey key = true ↔ Envelope.isProtected key = true ∨ key = "body" ∨ key = "client" := by
  simp only [isEnvelopeKey, Envelope.isProtected, List.contains_eq_mem, List.mem_cons,
    List.not_mem_nil, decide_eq_true_eq, Bool.or_eq_true, beq_iff_eq, or_false]
  tauto

/-- Parameters as texts, in order of their names. -/
def texts (params : Object) : List (String × String) :=
  params.entries.map fun entry ↦ (entry.1, paramText entry.2)

theorem texts_strictly_ordered (params : Object) :
    (texts params).Pairwise fun a b ↦ a.1 < b.1 :=
  List.pairwise_map.2 params.sorted

theorem mem_texts_iff {params : Object} {name text : String} :
    (name, text) ∈ texts params ↔
      ∃ value, params.get? name = some value ∧ text = paramText value := by
  rw [texts, List.mem_map]
  constructor
  · rintro ⟨⟨key, value⟩, hmem, heq⟩
    obtain ⟨rfl, rfl⟩ := Prod.mk.inj heq
    exact ⟨value, Dict.get?_eq_some_iff_mem.2 hmem, rfl⟩
  · rintro ⟨value, hvalue, rfl⟩
    exact ⟨(name, value), Dict.get?_eq_some_iff_mem.1 hvalue, rfl⟩

theorem filter_texts_of_get?_eq_some {params : Object} {name : String} {value : Json}
    (h : params.get? name = some value) :
    (texts params).filter (fun param ↦ param.1 = name) = [(name, paramText value)] := by
  rw [texts, List.filter_map]
  exact congrArg _ (Dict.filter_entries_of_get?_eq_some h)

/-- The query parameters of an object are those of its values that have no envelope key. -/
theorem queryParams_ofObject {request params : Object}
    (h : ∀ key, params.get? key = if isEnvelopeKey key then none else request.get? key) :
    queryParams (.ofObject request) = texts params := by
  suffices hentries :
      request.entries.filter (fun field ↦ !isEnvelopeKey field.1) = params.entries by
    rw [texts, ← hentries]
    rfl
  refine Fields.Sorted.ext (List.Pairwise.filter _ request.sorted) params.sorted fun key ↦ ?_
  rw [Fields.get?_filter_name request.entries (fun key ↦ !isEnvelopeKey key)]
  refine Eq.trans ?_ (h key).symm
  cases isEnvelopeKey key <;> rfl

/-- The route of a request has its query parameters, whatever the operation is. -/
theorem params_of_ofRequest_eq_ok {op : Operation} {request : Json} {route : Route}
    (h : ofRequest op request = .ok route) : route.params = queryParams request := by
  rw [ofRequest] at h
  cases hparts : parts op request with
  | error e =>
    rw [hparts] at h
    cases h
  | ok found =>
    rw [hparts] at h
    rw [← Except.ok.inj h]

end Route

namespace Envelope

/-! ### Requests over an envelope -/

/-- A request **over** an envelope: a search request or a plain one that has it. -/
inductive RequestOver (envelope : Envelope) : Json → Prop where
  /-- A search request. -/
  | search (request : SearchRequest) (h : request.envelope = envelope) :
    RequestOver envelope request.render
  /-- A plain request. -/
  | plain (request : PlainRequest) (h : request.envelope = envelope) :
    RequestOver envelope request.render

/-- The parameters of an envelope without those two in whose places a request has its body and its
client options. -/
def sentParams (envelope : Envelope) : Object :=
  (envelope.params.erase "body").erase "client"

theorem get?_sentParams (envelope : Envelope) (key : String) :
    envelope.sentParams.get? key =
      if key = "body" ∨ key = "client" then none else envelope.params.get? key := by
  rw [sentParams, Dict.get?_erase, Dict.get?_erase]
  grind

/-- The identity has no other key than the protected ones. -/
theorem get?_identity_of_not_isProtected (envelope : Envelope) {key : String}
    (h : isProtected key = false) : envelope.identity.get? key = none := by
  simp only [isProtected, Bool.or_eq_false_iff, beq_eq_false_iff_ne] at h
  obtain ⟨⟨hindex, htype⟩, hid⟩ := h
  rw [identity]
  rcases envelope.docType with _ | docType <;> rcases envelope.id with _ | id <;>
    simp [Dict.get?_insert, Dict.get?_single, hindex.symm, htype.symm, hid.symm]

/-- What is neither identity nor client options is read from the parameters. -/
theorem get?_toObject_of_not_isProtected (envelope : Envelope) {key : String}
    (h : isProtected key = false) (hclient : "client" ≠ key) :
    envelope.toObject.get? key = envelope.params.get? key := by
  have hover : (envelope.identity.overlay envelope.params).get? key = envelope.params.get? key := by
    rw [Dict.get?_overlay, get?_identity_of_not_isProtected envelope h, Option.or_none]
  unfold toObject
  dsimp only
  split
  · exact hover
  · rw [Dict.get?_insert_of_ne _ _ hclient, hover]

namespace RequestOver

variable {envelope : Envelope} {request : Json} (h : RequestOver envelope request)
include h

/-- But for its body, a request is the object of its envelope. -/
theorem exists_object :
    ∃ object : Object, request = .ofObject object ∧
      ∀ key, "body" ≠ key → object.get? key = envelope.toObject.get? key := by
  rcases h with ⟨asked, rfl⟩ | ⟨asked, rfl⟩
  · exact ⟨_, rfl, fun key hkey ↦ Dict.get?_insert_of_ne _ _ hkey⟩
  · unfold PlainRequest.render
    dsimp only
    split
    · exact ⟨_, rfl, fun _ _ ↦ rfl⟩
    · exact ⟨_, rfl, fun key hkey ↦ Dict.get?_insert_of_ne _ _ hkey⟩

/-- The query parameters of a request are the parameters that its envelope sends, provided that none
of these stands in the place of a part of the identity. -/
theorem queryParams_eq (hparams : ∀ key, isProtected key = true → envelope.params.get? key = none) :
    Route.queryParams request = Route.texts envelope.sentParams := by
  obtain ⟨object, rfl, hobject⟩ := h.exists_object
  refine Route.queryParams_ofObject fun key ↦ ?_
  rw [get?_sentParams]
  by_cases hplace : key = "body" ∨ key = "client"
  · rw [if_pos hplace, if_pos (Route.isEnvelopeKey_iff.2 (.inr hplace))]
  · rw [if_neg hplace]
    obtain ⟨hbody, hclient⟩ := not_or.1 hplace
    cases hkey : isProtected key with
    | true => rw [hparams key hkey, if_pos (Route.isEnvelopeKey_iff.2 (.inl hkey))]
    | false =>
      have hsent : ¬Route.isEnvelopeKey key = true := fun henvelope ↦ by
        rcases Route.isEnvelopeKey_iff.1 henvelope with hprotected | hplace'
        · exact Bool.false_ne_true (hkey.symm.trans hprotected)
        · exact hplace hplace'
      rw [if_neg hsent, hobject key (Ne.symm hbody),
        get?_toObject_of_not_isProtected envelope hkey (Ne.symm hclient)]

end RequestOver

/-! ### Parameters after calls -/

namespace Call

/-- The value that a call gives to a parameter, if it sets it and is not refused. -/
def given? (name : String) (call : Call) : Option Json :=
  match call with
  | setParam key value => if key = name ∧ call.refusal? = none then some value else none
  | _ => none

/-- The last value that calls give to a parameter, if any does. -/
def lastGiven? (name : String) (calls : List Call) : Option Json :=
  calls.reverse.findSome? (given? name)

theorem lastGiven?_concat (name : String) (calls : List Call) (call : Call) :
    lastGiven? name (calls ++ [call]) = (call.given? name).or (lastGiven? name calls) := by
  rw [lastGiven?, List.reverse_append, List.reverse_singleton, List.singleton_append,
    List.findSome?_cons, lastGiven?]
  cases call.given? name <;> rfl

theorem given?_setParam (name key : String) (value : Json) :
    (setParam key value).given? name =
      if key = name ∧ isProtected key = false then some value else none := by
  rw [given?, refusal?]
  cases isProtected key <;> simp

/-- A parameter is changed only by a call that gives it a value. -/
theorem get?_params_after (envelope : Envelope) (call : Call) (name : String) :
    (call.after envelope).params.get? name =
      (call.given? name).or (envelope.params.get? name) := by
  rcases call with ⟨key, value⟩ | ⟨key, value⟩ | ⟨schema, name'⟩ | indices
  · rw [after_setParam, given?_setParam]
    cases hkey : isProtected key with
    | true => simp
    | false =>
      simp only [if_false, Bool.false_eq_true, and_true, Dict.get?_insert]
      split <;> rfl
  · rfl
  · rw [after_useAlias]
    cases schema.aliasIndex? name' <;> rfl
  · show (envelope.addUnions indices).params.get? name = _
    rw [Envelope.addUnions]
    split <;> rfl

/-- After calls, a parameter has the last value that was accepted, else the one that it had. -/
theorem get?_params_afterAll (envelope : Envelope) (calls : List Call) (name : String) :
    (afterAll envelope calls).params.get? name =
      (lastGiven? name calls).or (envelope.params.get? name) := by
  induction calls using List.reverseRecOn with
  | nil => rfl
  | append_singleton calls call ih =>
    have hlast : afterAll envelope (calls ++ [call]) = call.after (afterAll envelope calls) :=
      List.foldl_concat _ _ _ _
    rw [hlast, get?_params_after, ih, lastGiven?_concat, Option.or_assoc]

end Call

/-! ### What is sent -/

section Sent

variable {schema : Schema} {made : Envelope} (h : made.IsMadeFor schema) {calls : List Call}
  {request : Json} (hrequest : RequestOver (Call.afterAll made calls) request)
include h

/-- An envelope is made without parameters, so that after calls it has those that were accepted. -/
theorem IsMadeFor.get?_params_afterAll (name : String) :
    (Call.afterAll made calls).params.get? name = Call.lastGiven? name calls := by
  rw [Call.get?_params_afterAll, h.fields_eq.1, Dict.get?_empty, Option.or_none]

include hrequest

/-- The parameters sent are the last values accepted, but for those of `body` and `client`. -/
theorem mem_queryParams_iff (name text : String) :
    (name, text) ∈ Route.queryParams request ↔ name ≠ "body" ∧ name ≠ "client" ∧
      ∃ value, Call.lastGiven? name calls = some value ∧ text = Route.paramText value := by
  rw [hrequest.queryParams_eq (h.afterAll calls).1.params, Route.mem_texts_iff, get?_sentParams,
    h.get?_params_afterAll, ← and_assoc, ← not_or]
  by_cases hplace : name = "body" ∨ name = "client"
  · rw [if_pos hplace]
    exact iff_of_false (fun ⟨_, hvalue, _⟩ ↦ Option.some_ne_none _ hvalue.symm)
      fun hall ↦ hall.1 hplace
  · rw [if_neg hplace]
    exact (and_iff_right hplace).symm

/-- A parameter other than `body` and `client` is sent once. -/
theorem filter_queryParams {name : String} {value : Json}
    (hplace : ¬(name = "body" ∨ name = "client"))
    (hvalue : Call.lastGiven? name calls = some value) :
    (Route.queryParams request).filter (fun param ↦ param.1 = name) =
      [(name, Route.paramText value)] := by
  rw [hrequest.queryParams_eq (h.afterAll calls).1.params]
  refine Route.filter_texts_of_get?_eq_some ?_
  rw [get?_sentParams, if_neg hplace, h.get?_params_afterAll, hvalue]

end Sent

/-- **Which parameters are sent.** Let an envelope that was made for a schema be changed by calls,
and let a search or plain request have it. The query parameters of the request, in whatever route it
gets, are the parameters other than `body` and `client`, each once and as the text of the last value
that was accepted, and nothing else. Hence every accepted parameter is sent if and only if neither
`body` nor `client` is one of them. -/
theorem params_sent_iff (schema : Schema) (made : Envelope) (h : made.IsMadeFor schema)
    (calls : List Call) (request : Json)
    (hrequest : RequestOver (Call.afterAll made calls) request) :
    let sent := Route.queryParams request
    sent.Pairwise (fun a b ↦ a.1 < b.1) ∧
    (∀ name text, (name, text) ∈ sent ↔ name ≠ "body" ∧ name ≠ "client" ∧
      ∃ value, Call.lastGiven? name calls = some value ∧ text = Route.paramText value) ∧
    ((∀ name value, Call.lastGiven? name calls = some value →
        sent.filter (fun param ↦ param.1 = name) = [(name, Route.paramText value)]) ↔
      Call.lastGiven? "body" calls = none ∧ Call.lastGiven? "client" calls = none) ∧
    ∀ op route, Route.ofRequest op request = .ok route → route.params = sent := by
  intro sent
  have hmem := mem_queryParams_iff h hrequest
  have hordered : sent.Pairwise fun a b ↦ a.1 < b.1 := by
    show (Route.queryParams request).Pairwise _
    rw [hrequest.queryParams_eq (h.afterAll calls).1.params]
    exact Route.texts_strictly_ordered _
  refine ⟨hordered, hmem, ⟨fun hall ↦ ?_, fun hnone name value hvalue ↦ ?_⟩,
    fun op route ↦ Route.params_of_ofRequest_eq_ok⟩
  · -- A name that is never sent can only have been given no value.
    have hlost : ∀ name, (∀ text, (name, text) ∉ sent) → Call.lastGiven? name calls = none := by
      intro name hnot
      refine Option.eq_none_iff_forall_ne_some.2 fun value hvalue ↦ hnot (Route.paramText value) ?_
      have honce : (name, Route.paramText value) ∈ sent.filter (fun param ↦ param.1 = name) := by
        rw [hall name value hvalue]
        exact List.mem_singleton_self _
      exact List.mem_of_mem_filter honce
    exact ⟨hlost "body" fun text hbody ↦ ((hmem _ _).1 hbody).1 rfl,
      hlost "client" fun text hclient ↦ ((hmem _ _).1 hclient).2.1 rfl⟩
  · refine filter_queryParams h hrequest ?_ hvalue
    rintro (rfl | rfl)
    · exact Option.some_ne_none _ (hvalue.symm.trans hnone.1)
    · exact Option.some_ne_none _ (hvalue.symm.trans hnone.2)

/-- The last value of `refresh` is sent, and so is a list. What is refused or a client option is
not. -/
theorem params_sent_users :
    let calls : List Call :=
      [.setParam "refresh" (.bool true), .setParam "id" (.ofNat 8),
        .setClient "ignore" (.ofNat 404), .setParam "routing" (.ofStrings ["a"]),
        .setParam "refresh" (.string "wait_for")]
    ∃ made, forDocument (.ofTable "users") (some "7") = .ok made ∧
      let sent := Route.queryParams (PlainRequest.render
        { envelope := Call.afterAll made calls, body := .single "id" (.ofNat 7) })
      ("refresh", "wait_for") ∈ sent ∧ ("routing", "[\"a\"]") ∈ sent ∧
        (∀ text, ("id", text) ∉ sent) ∧
        ∀ name value, Call.lastGiven? name calls = some value →
          sent.filter (fun param ↦ param.1 = name) = [(name, Route.paramText value)] := by
  intro calls
  refine ⟨_, rfl, ?_⟩
  intro sent
  obtain ⟨-, hmem, hiff, -⟩ :=
    params_sent_iff (.ofTable "users") _ (@IsMadeFor.forDocument _ (some "7") _ rfl) calls _
      (.plain { envelope := _, body := .single "id" (.ofNat 7) } rfl)
  refine ⟨(hmem _ _).2 ⟨by decide, by decide, .string "wait_for", by decide +kernel, rfl⟩,
    (hmem _ _).2 ⟨by decide, by decide, .ofStrings ["a"], by decide +kernel, by decide +kernel⟩,
    fun text hid ↦ ?_, hiff.2 ⟨by decide +kernel, by decide +kernel⟩⟩
  obtain ⟨-, -, value, hvalue, -⟩ := (hmem _ _).1 hid
  rw [show Call.lastGiven? "id" calls = none by decide +kernel] at hvalue
  cases hvalue

/-- A parameter `client` is accepted and lost: the client options are written over it, and nothing
is sent. -/
theorem client_param_lost :
    let made := forType (.ofTable "users")
    let calls : List Call :=
      [.setParam "client" (.string "x"), .setClient "ignore" (.ofNat 404)]
    let request := PlainRequest.render { envelope := Call.afterAll made calls }
    (∃ changed, (Call.setParam "client" (.string "x")).outcome made = .ok changed) ∧
      Call.lastGiven? "client" calls = some (.string "x") ∧
      Route.queryParams request = [] ∧
      request.field? "client" = some (.single "ignore" (.ofNat 404)) := by
  exact ⟨⟨_, rfl⟩, by decide +kernel, by decide +kernel, by decide +kernel⟩

end Envelope

end RecordSearch
