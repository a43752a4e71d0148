import RecordSearch.Proofs.Batches
/-!
# Mappings reach the index

The backend may fail at any time to say whether an index exists: `Store.probed` is the store whose
probe fails as told, request by request. Whatever it is asked, it loses no index and no mapping
(`Store.Grows`) and writes the request down, so what was sent between two states can be told from
them (`Store.Sent`, `Store.sent_runOn`).

Bringing the mapping of a schema up to date asks about the schema's own index only
(`syncMapping_asksOnly`), and if it succeeds the index exists and has a mapping
(`backs_of_syncMapping`): the index was found, or created where the probe did not find it.
-/

namespace RecordSearch

variable {α β : Type}

/-! ### What is asked -/

/-- Whatever is replied, the exchange asks only what is allowed. -/
def Exchange.AsksOnly (allowed : Operation → Json → Prop) : Exchange α → Prop
  | .done _ => True
  | .ask op request next => allowed op request ∧ ∀ reply, AsksOnly allowed (next reply)

theorem Exchange.AsksOnly.bind {allowed : Operation → Json → Prop} {exchange : Exchange α}
    {next : α → Exchange β} (h : exchange.AsksOnly allowed)
    (hnext : ∀ a, (next a).AsksOnly allowed) : (exchange >>= next).AsksOnly allowed := by
  induction exchange with
  | done a => exact hnext a
  | ask op request rest ih => exact ⟨h.1, fun reply ↦ ih reply (h.2 reply)⟩

/-- Whatever is replied, the fetch asks only what is allowed. -/
def Fetch.AsksOnly (allowed : Operation → Json → Prop) (fetch : Fetch α) : Prop :=
  Exchange.AsksOnly allowed (ExceptT.run fetch)

namespace Fetch

variable {allowed : Operation → Json → Prop}

theorem AsksOnly.ofExcept (result : Except Error α) : (Fetch.ofExcept result).AsksOnly allowed :=
  trivial

theorem AsksOnly.ask {op : Operation} {request : Json} (h : allowed op request) :
    (Fetch.ask op request).AsksOnly allowed :=
  ⟨h, fun _ ↦ trivial⟩

theorem AsksOnly.attempt {op : Operation} {request : Json} (h : allowed op request) :
    (Fetch.attempt op request).AsksOnly allowed :=
  ⟨h, fun _ ↦ trivial⟩

theorem AsksOnly.bind {fetch : Fetch α} {next : α → Fetch β} (h : fetch.AsksOnly allowed)
    (hnext : ∀ a, (next a).AsksOnly allowed) : (fetch >>= next).AsksOnly allowed := by
  rw [AsksOnly, ExceptT.run_bind]
  refine Exchange.AsksOnly.bind h fun outcome ↦ ?_
  cases outcome with
  | ok a => exact hnext a
  | error e => exact trivial

end Fetch

/-- An exchange keeps what the replies to its questions keep. -/
theorem Exchange.AsksOnly.run_keeps {σ : Type} {backend : Backend σ} {keeps : σ → Prop}
    {allowed : Operation → Json → Prop} {exchange : Exchange α} (hasks : exchange.AsksOnly allowed)
    (h : ∀ op request state, allowed op request → keeps state →
      keeps (backend.reply op request state).2)
    {state : σ} (hstate : keeps state) : keeps (exchange.run backend state).2 := by
  induction exchange generalizing state with
  | done a => exact hstate
  | ask op request next ih => exact ih _ (hasks.2 _) (h op request state hasks.1 hstate)

/-- An exchange keeps what every reply keeps. -/
theorem Exchange.run_keeps {σ : Type} {backend : Backend σ} {keeps : σ → Prop}
    (h : ∀ op request state, keeps state → keeps (backend.reply op request state).2)
    (exchange : Exchange α) {state : σ} (hstate : keeps state) :
    keeps (exchange.run backend state).2 := by
  induction exchange generalizing state with
  | done a => exact hstate
  | ask op request next ih => exact ih _ (h op request state hstate)

namespace Store

/-! ### What is sent -/

/-- Between two states only allowed requests were sent. -/
def Sent (allowed : Operation → Json → Prop) (before after : Store) : Prop :=
  ∃ sent, after.requests = before.requests ++ sent ∧ ∀ asked ∈ sent, allowed asked.1 asked.2

variable {allowed : Operation → Json → Prop} {before between after : Store}

theorem Sent.refl (store : Store) : Sent allowed store store :=
  ⟨[], (List.append_nil _).symm, fun _ h ↦ absurd h List.not_mem_nil⟩

theorem Sent.trans (h : Sent allowed before between) (h' : Sent allowed between after) :
    Sent allowed before after := by
  obtain ⟨first, hfirst, hallowed⟩ := h
  obtain ⟨second, hsecond, hallowed'⟩ := h'
  refine ⟨first ++ second, by rw [hsecond, hfirst, List.append_assoc], fun asked hasked ↦ ?_⟩
  rcases List.mem_append.1 hasked with hasked | hasked
  · exact hallowed asked hasked
  · exact hallowed' asked hasked

theorem Sent.mono {weaker : Operation → Json → Prop} (h : Sent allowed before after)
    (hle : ∀ op request, allowed op request → weaker op request) : Sent weaker before after := by
  obtain ⟨sent, hsent, hallowed⟩ := h
  exact ⟨sent, hsent, fun asked hasked ↦ hle _ _ (hallowed asked hasked)⟩

/-! ### What is not lost -/

/-- No index and no mapping of the first state is lost in the second. -/
structure Grows (before after : Store) : Prop where
  /-- The indices are still there. -/
  indices : ∀ index, before.indices.contains index = true → after.indices.contains index = true
  /-- So are the mappings. -/
  mappings : ∀ index, before.mappings.contains index = true → after.mappings.contains index = true

theorem Grows.refl (store : Store) : Grows store store :=
  ⟨fun _ h ↦ h, fun _ h ↦ h⟩

theorem Grows.trans (h : Grows before between) (h' : Grows between after) : Grows before after :=
  ⟨fun index hindex ↦ h'.indices index (h.indices index hindex),
    fun index hindex ↦ h'.mappings index (h.mappings index hindex)⟩

/-- The index of a table exists and has a mapping. -/
structure Backs (store : Store) (table : String) : Prop where
  /-- The index exists. -/
  index : store.indices.contains (table ++ "_index") = true
  /-- It has a mapping. -/
  mapping : store.mappings.contains (table ++ "_index") = true

theorem Backs.of_grows {table : String} (h : before.Backs table) (hgrows : Grows before after) :
    after.Backs table :=
  ⟨hgrows.indices _ h.index, hgrows.mappings _ h.mapping⟩

end Store

/-- After one value is put under several names, a name has a value if it is one of them or had one
before. -/
theorem Dict.contains_foldl_insert {names : List String} {dict : Dict α} {value : α}
    {name : String} :
    (names.foldl (fun dict name ↦ dict.insert name value) dict).contains name = true ↔
      name ∈ names ∨ dict.contains name = true := by
  induction names generalizing dict with
  | nil => simp
  | cons first rest ih =>
    rw [List.foldl_cons, ih, List.mem_cons, contains, get?_insert, contains]
    by_cases h : first = name
    · rw [if_pos h]
      simp [h.symm]
    · rw [if_neg h]
      simp [Ne.symm h]

/-! ### The store with a probe that may fail -/

namespace Store

/-- No effect loses an index or a mapping. -/
theorem Effect.grows {op : Operation} {before after : Store} (h : Effect before op after) :
    Grows before after := by
  cases h with
  | created names body =>
    exact ⟨fun _ hindex ↦ Dict.contains_foldl_insert.2 (.inr hindex), fun _ hindex ↦ hindex⟩
  | mapped names body =>
    exact ⟨fun _ hindex ↦ hindex, fun _ hindex ↦ Dict.contains_foldl_insert.2 (.inr hindex)⟩
  | _ => exact ⟨fun _ hindex ↦ hindex, fun _ hindex ↦ hindex⟩

/-- The store whose probe fails as told, by the number of requests before. -/
def probed (fails : Nat → Bool) : Backend Store where
  reply op request store :=
    backend.reply op request { store with failsProbe := fails store.requests.length }

variable (fails : Nat → Bool) (op : Operation) (request : Json) (store : Store)

/-- Every request is written down. -/
theorem requests_probed :
    ((probed fails).reply op request store).2.requests = store.requests ++ [(op, request)] :=
  (effect_reply op request _).requests_eq

/-- No reply loses an index or a mapping. -/
theorem grows_probed : Grows store ((probed fails).reply op request store).2 := by
  have hgrows := (effect_reply op request
    { store with
      failsProbe := fails store.requests.length
      requests := store.requests ++ [(op, request)] }).grows
  exact ⟨hgrows.indices, hgrows.mappings⟩

variable {fails} {store}

/-- No exchange loses an index or a mapping. -/
theorem grows_run (exchange : Exchange α) : Grows store (exchange.run (probed fails) store).2 :=
  exchange.run_keeps
    (fun op request state hstate ↦ hstate.trans (grows_probed fails op request state)) (.refl store)

/-- No fetch loses an index or a mapping. -/
theorem grows_runOn {fetch : Fetch α} {outcome : Except Error α} {after : Store}
    (h : fetch.runOn (probed fails) store = (outcome, after)) : Grows store after := by
  have hgrows : Grows store (fetch.runOn (probed fails) store).2 := grows_run _
  rwa [h] at hgrows

/-- What an exchange sends is what it may ask. -/
theorem sent_run {allowed : Operation → Json → Prop} {exchange : Exchange α}
    (h : exchange.AsksOnly allowed) : Sent allowed store (exchange.run (probed fails) store).2 := by
  induction exchange generalizing store with
  | done a => exact .refl store
  | ask op request next ih =>
    have hone : Sent allowed store ((probed fails).reply op request store).2 :=
      ⟨[(op, request)], requests_probed fails op request store, fun asked hasked ↦ by
        rw [List.mem_singleton.1 hasked]; exact h.1⟩
    exact hone.trans (ih _ (h.2 _))

/-- What a fetch sends is what it may ask. -/
theorem sent_runOn {allowed : Operation → Json → Prop} {fetch : Fetch α}
    (h : fetch.AsksOnly allowed) {outcome : Except Error α} {after : Store}
    (hrun : fetch.runOn (probed fails) store = (outcome, after)) : Sent allowed store after := by
  have hsent : Sent allowed store (fetch.runOn (probed fails) store).2 := sent_run h
  rwa [hrun] at hsent

/-- The store with a probe that may fail meets the contract, and keeps its documents and prepared
answers. -/
theorem mappingContract_metBy_probed (store : Store) :
    mappingContract.MetBy (probed fails) fun after ↦
      after.documents = store.documents ∧ SameAnswers store after := fun op request state hop h ↦
  mappingContract_metBy store op request { state with failsProbe := fails state.requests.length }
    hop ⟨h.1, h.2.searchAnswers, h.2.countAnswers⟩

/-! ### Successful replies -/

variable {request : Json} {after : Store} {index : String}

/-- An index that the probe finds exists. -/
theorem contains_of_probe (hindex : index ∈ targetIndices request)
    (h : (probed fails).reply .indexExists request store = (.ok true, after)) :
    after.indices.contains index = true := by
  have hnoted : reply .indexExists request (noting
      { store with failsProbe := fails store.requests.length } .indexExists request) =
        (.ok true, after) := h
  rw [reply, indexExists] at hnoted
  split at hnoted
  · cases hnoted
  · obtain ⟨hfound, rfl⟩ := Prod.mk.inj hnoted
    exact List.all_eq_true.1 (Except.ok.inj hfound) index hindex

/-- An index that is created exists. -/
theorem contains_of_creation (hindex : index ∈ targetIndices request) {answer : Json}
    (h : (probed fails).reply .createIndex request store = (.ok answer, after)) :
    after.indices.contains index = true := by
  have hnoted : reply .createIndex request (noting
      { store with failsProbe := fails store.requests.length } .createIndex request) =
        (.ok answer, after) := h
  rw [reply, createIndex] at hnoted
  split at hnoted
  · cases hnoted
  · obtain ⟨-, rfl⟩ := Prod.mk.inj hnoted
    exact Dict.contains_foldl_insert.2 (.inl hindex)

/-- An index to which a mapping is written has a mapping. -/
theorem contains_of_mapping (hindex : index ∈ targetIndices request) {answer : Json}
    (h : (probed fails).reply .putMapping request store = (.ok answer, after)) :
    after.mappings.contains index = true := by
  obtain ⟨-, rfl⟩ := Prod.mk.inj h
  exact Dict.contains_foldl_insert.2 (.inl hindex)

end Store

/-! ### The index of a schema -/

namespace Schema

variable (schema : Schema)

/-- The request is about the index of the schema. -/
def IsAsked (_ : Operation) (request : Json) : Prop :=
  targetIndices request = [schema.indexName]

theorem isAsked_forIndex (op : Operation) (body : Object) :
    schema.IsAsked op (PlainRequest.render { envelope := .forIndex schema, body := body }) :=
  PlainRequest.targetIndices_render rfl

theorem isAsked_of_mappingRequest {request : PlainRequest} (op : Operation)
    (h : schema.mappingRequest = .ok request) : schema.IsAsked op request.render := by
  rw [mappingRequest] at h
  split at h
  · cases h
  · obtain rfl := Except.ok.inj h
    exact PlainRequest.targetIndices_render rfl

theorem indexExists_asksOnly : schema.indexExists.AsksOnly schema.IsAsked :=
  (Fetch.AsksOnly.attempt (schema.isAsked_forIndex _ ∅)).bind fun reply ↦ by
    cases reply <;> exact trivial

theorem createIndex_asksOnly : schema.createIndex.AsksOnly schema.IsAsked := by
  refine (Fetch.AsksOnly.ask ?_).bind fun _ ↦ trivial
  rw [PlainRequest.setKeyIfSaid]
  split <;> exact schema.isAsked_forIndex _ _

theorem updateMapping_asksOnly : schema.updateMapping.AsksOnly schema.IsAsked := by
  rw [updateMapping]
  cases h : schema.mappingRequest with
  | error e => exact trivial
  | ok request =>
    exact ⟨schema.isAsked_of_mappingRequest _ h, fun reply ↦ by cases reply <;> trivial⟩

theorem ensureIndex_asksOnly : schema.ensureIndex.AsksOnly schema.IsAsked := by
  refine schema.indexExists_asksOnly.bind fun found ↦ ?_
  cases found with
  | true => exact trivial
  | false => exact schema.createIndex_asksOnly.bind fun _ ↦
      schema.updateMapping_asksOnly.bind fun _ ↦ trivial

/-- Bringing a mapping up to date asks about the index of the schema only. -/
theorem syncMapping_asksOnly : schema.syncMapping.AsksOnly schema.IsAsked := by
  refine schema.ensureIndex_asksOnly.bind fun created ↦ ?_
  cases created with
  | true => exact trivial
  | false => exact schema.updateMapping_asksOnly

variable {schema} {fails : Nat → Bool} {store after : Store}

/-- An index that is found exists. -/
theorem contains_of_indexExists
    (h : schema.indexExists.runOn (Store.probed fails) store = (.ok true, after)) :
    after.indices.contains schema.indexName = true := by
  obtain ⟨reply, between, hreply, hfound⟩ := Fetch.of_runOn_bind_eq_ok h
  rw [Fetch.runOn_attempt] at hreply
  obtain ⟨hanswer, rfl⟩ := Prod.mk.inj hreply
  cases reply with
  | error e => exact absurd (congrArg Prod.fst hfound) nofun
  | ok found =>
    obtain ⟨rfl, rfl⟩ : found = true ∧ _ = after :=
      ⟨Except.ok.inj (congrArg Prod.fst hfound), congrArg Prod.snd hfound⟩
    exact Store.contains_of_probe (by rw [schema.isAsked_forIndex .indexExists ∅]; simp)
      (Prod.ext (Except.ok.inj hanswer) rfl)

/-- An index that is created exists. -/
theorem contains_of_createIndex
    (h : schema.createIndex.runOn (Store.probed fails) store = (.ok (), after)) :
    after.indices.contains schema.indexName = true := by
  obtain ⟨answer, between, hanswer, hdone⟩ := Fetch.of_runOn_bind_eq_ok h
  obtain ⟨-, rfl⟩ := Prod.mk.inj hdone
  have hasked := schema.createIndex_asksOnly.1
  exact Store.contains_of_creation (by rw [hasked]; simp) hanswer

/-- An index whose mapping is written has one. -/
theorem contains_of_updateMapping
    (h : schema.updateMapping.runOn (Store.probed fails) store = (.ok (), after)) :
    after.mappings.contains schema.indexName = true := by
  obtain ⟨request, between, hrequest, hasked⟩ := Fetch.of_runOn_bind_eq_ok h
  rw [Fetch.runOn_ofExcept] at hrequest
  obtain ⟨hmapping, rfl⟩ := Prod.mk.inj hrequest
  obtain ⟨answer, between, hanswer, hdone⟩ := Fetch.of_runOn_bind_eq_ok hasked
  obtain ⟨-, rfl⟩ := Prod.mk.inj hdone
  exact Store.contains_of_mapping
    (by rw [schema.isAsked_of_mappingRequest .putMapping hmapping]; simp) hanswer

/-- Once an index is ensured it exists; if it was created for that it has a mapping. -/
theorem contains_of_ensureIndex {created : Bool}
    (h : schema.ensureIndex.runOn (Store.probed fails) store = (.ok created, after)) :
    after.indices.contains schema.indexName = true ∧
      (created = true → after.mappings.contains schema.indexName = true) := by
  obtain ⟨found, probed, hprobe, hrest⟩ := Fetch.of_runOn_bind_eq_ok h
  cases found with
  | true =>
    obtain ⟨rfl, rfl⟩ : false = created ∧ probed = after :=
      ⟨Except.ok.inj (congrArg Prod.fst hrest), congrArg Prod.snd hrest⟩
    exact ⟨contains_of_indexExists hprobe, nofun⟩
  | false =>
    obtain ⟨⟨⟩, existing, hcreate, hwrite⟩ := Fetch.of_runOn_bind_eq_ok hrest
    obtain ⟨⟨⟩, mapped, hmapping, hdone⟩ := Fetch.of_runOn_bind_eq_ok hwrite
    obtain ⟨-, rfl⟩ := Prod.mk.inj hdone
    exact ⟨(Store.grows_runOn hmapping).indices _ (contains_of_createIndex hcreate),
      fun _ ↦ contains_of_updateMapping hmapping⟩

/-- **A mapping that is brought up to date is in the index.** However the probe failed, after a
success the index of the schema exists and has a mapping. -/
theorem backs_of_syncMapping
    (h : schema.syncMapping.runOn (Store.probed fails) store = (.ok (), after)) :
    after.Backs schema.table := by
  obtain ⟨created, ensured, hensure, hrest⟩ := Fetch.of_runOn_bind_eq_ok h
  obtain ⟨hindex, hmapping⟩ := contains_of_ensureIndex hensure
  cases created with
  | true =>
    obtain ⟨-, rfl⟩ := Prod.mk.inj hrest
    exact ⟨hindex, hmapping rfl⟩
  | false =>
    exact ⟨(Store.grows_runOn hrest).indices _ hindex, contains_of_updateMapping hrest⟩

end Schema

end RecordSearch
