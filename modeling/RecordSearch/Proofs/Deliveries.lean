import RecordSearch.Proofs.Writing
/-!
# Prepared answers are delivered once and in order

Answers are prepared for the searches and for the counts of an index, and those of either kind wait
in a queue of the index. Answers are prepared, requests come in and documents are put in place in
any order (`Store.Act`). A search or count takes its answer from the queue of the first index that
it names, if one waits there, and nothing else takes an answer (`Store.Act.source?`).

One equation says what an act does to a queue: what it takes from the queue and what waits after it
are what waited before and what it prepares (`Store.delivery_append_waiting`). By induction, what is
delivered from a queue in a run and what still waits there are all that waited and was prepared
(`Store.delivered_append_waiting`). A request that takes no answer is replied to as if none were
prepared, a search or count from the documents, and these depend on the writes alone
(`Store.documents_after`).
-/

namespace RecordSearch

/-- What answers are prepared for. -/
inductive Inquiry where
  | search
  | count
deriving DecidableEq

/-- The operation of an inquiry. -/
def Inquiry.operation : Inquiry → Operation
  | search => .search
  | count => .count

/-- The inquiry that an operation is, if it is one. -/
def Operation.inquiry? : Operation → Option Inquiry
  | search => some .search
  | count => some .count
  | _ => none

theorem Operation.inquiry?_eq_some_iff {op : Operation} {kind : Inquiry} :
    op.inquiry? = some kind ↔ op = kind.operation := by
  cases op <;> cases kind <;> simp [inquiry?, Inquiry.operation]

namespace Store

/-! ### Queues -/

/-- The answers prepared for a kind of inquiry, by index. -/
def prepared (store : Store) : Inquiry → Dict (List Json)
  | .search => store.searchAnswers
  | .count => store.countAnswers

/-- The store with other answers prepared for a kind of inquiry. -/
def withPrepared (store : Store) (kind : Inquiry) (answers : Dict (List Json)) : Store :=
  match kind with
  | .search => { store with searchAnswers := answers }
  | .count => { store with countAnswers := answers }

/-- The store without prepared answers. -/
def unprepared (store : Store) : Store :=
  { store with searchAnswers := ∅, countAnswers := ∅ }

/-- The answers that wait for inquiries of an index, next one first. -/
def waiting (store : Store) (kind : Inquiry) (index : String) : List Json :=
  ((store.prepared kind).get? index).getD []

/-- The reply to an inquiry. -/
def inquiryReply (store : Store) (kind : Inquiry) (request : Json) : Except Error Json :=
  match kind with
  | .search => (backend.reply .search request store).1
  | .count => (backend.reply .count request store).1

/-- The answer to an inquiry from documents. -/
def answerFrom (documents : Dict (Dict Json)) (request : Json) : Inquiry → Json
  | .search => ({ documents } : Store).searchAnswer request
  | .count => ({ documents } : Store).countAnswer request

/-! ### Acts -/

/-- What is done to a store. -/
inductive Act where
  /-- An answer is prepared for searches of an index. -/
  | queueSearch (index : String) (answer : Json)
  /-- A number is prepared for counts of an index. -/
  | queueCount (index : String) (count : Nat)
  /-- A document is put in place. -/
  | put (index id : String) (source : Json)
  /-- A request comes in. -/
  | ask (op : Operation) (request : Json)

namespace Act

/-- The store after an act. -/
def on (store : Store) : Act → Store
  | queueSearch index answer => store.queueSearch index answer
  | queueCount index count => store.queueCount index count
  | put index id source => store.put index id source
  | ask op request => (backend.reply op request store).2

/-- Is the act about documents? -/
def writes : Act → Bool
  | put _ _ _ | ask .index _ | ask .delete _ => true
  | _ => false

/-- The answers that an act prepares for inquiries of an index. -/
def prepares (kind : Inquiry) (index : String) : Act → List Json
  | queueSearch place answer => if kind = .search ∧ place = index then [answer] else []
  | queueCount place count =>
    if kind = .count ∧ place = index then [.single "count" (.ofNat count)] else []
  | put _ _ _ | ask _ _ => []

/-- The queue that an act takes an answer from: an inquiry takes one from the queue of the first
index that it names if an answer waits there. -/
def source? (store : Store) : Act → Option (Inquiry × String)
  | ask op request => do
    let kind ← op.inquiry?
    let index ← (targetIndices request).head?
    if (store.waiting kind index).isEmpty then none else some (kind, index)
  | _ => none

/-- The reply to an inquiry that takes an answer from the queue of an index. -/
def delivery (store : Store) (kind : Inquiry) (index : String) : Act → List (Except Error Json)
  | act@(ask _ request) =>
    if act.source? store = some (kind, index) then [store.inquiryReply kind request] else []
  | _ => []

end Act

/-- The store after acts. -/
def after (store : Store) (acts : List Act) : Store :=
  acts.foldl Act.on store

/-- The replies of a run to the inquiries that take an answer from the queue of an index. -/
def delivered (kind : Inquiry) (index : String) : Store → List Act → List (Except Error Json)
  | _, [] => []
  | store, act :: rest => act.delivery store kind index ++ delivered kind index (act.on store) rest

variable {store other : Store} {kind : Inquiry} {index : String} {request : Json}

/-! ### What waits -/

theorem SameAnswers.waiting_eq (h : SameAnswers store other) (kind : Inquiry) (index : String) :
    other.waiting kind index = store.waiting kind index := by
  cases kind with
  | search => rw [waiting, prepared, h.searchAnswers]; rfl
  | count => rw [waiting, prepared, h.countAnswers]; rfl

theorem waiting_withPrepared (store : Store) (kind asked : Inquiry) (answers : Dict (List Json))
    (index : String) :
    (store.withPrepared kind answers).waiting asked index =
      if asked = kind then (answers.get? index).getD [] else store.waiting asked index := by
  cases kind <;> cases asked <;> rfl

/-- A prepared answer waits behind those that were there. -/
theorem waiting_prepare (store : Store) (kind asked : Inquiry) (place index : String)
    (answer : Json) :
    (store.withPrepared kind ((store.prepared kind).alter place
        fun queue ↦ queue.getD [] ++ [answer])).waiting asked index =
      store.waiting asked index ++ if asked = kind ∧ place = index then [answer] else [] := by
  rw [waiting_withPrepared, Dict.alter, Dict.get?_insert]
  by_cases hkind : asked = kind
  · subst hkind
    by_cases hplace : place = index
    · subst hplace
      simp [waiting]
    · simp [waiting, hplace]
  · simp [hkind]

/-! ### Inquiries -/

/-- An inquiry is answered with the next answer that waits for it, else from the documents. -/
theorem ask_inquiry (store : Store) (kind : Inquiry) (request : Json) :
    (store.inquiryReply kind request, (Act.ask kind.operation request).on store) =
      match nextAnswer? (store.prepared kind) request with
      | some (answer, rest) =>
        (.ok answer, (store.noting kind.operation request).withPrepared kind rest)
      | none => (.ok (answerFrom store.documents request kind),
          store.noting kind.operation request) := by
  cases kind with
  | search =>
    show backend.reply .search request store = _
    rw [reply_backend, reply, search]
    rfl
  | count =>
    show backend.reply .count request store = _
    rw [reply_backend, reply, count]
    rfl

/-- An answer is taken by an inquiry, from the queue of the first index that it names, if one waits
there. -/
theorem source?_ask_eq_some_iff {op : Operation} :
    (Act.ask op request).source? store = some (kind, index) ↔
      op = kind.operation ∧ (targetIndices request).head? = some index ∧
        store.waiting kind index ≠ [] := by
  rw [Act.source?, ← Operation.inquiry?_eq_some_iff]
  constructor
  · intro h
    obtain ⟨asked, hasked, h⟩ := Option.bind_eq_some_iff.1 h
    obtain ⟨first, hfirst, h⟩ := Option.bind_eq_some_iff.1 h
    split at h
    · cases h
    · next hwaiting =>
      obtain ⟨rfl, rfl⟩ := Prod.mk.inj (Option.some.inj h)
      exact ⟨hasked, hfirst, by simpa using hwaiting⟩
  · rintro ⟨hasked, hfirst, hwaiting⟩
    simp [hasked, hfirst, hwaiting]

/-- An inquiry that takes an answer is answered with the first one that waits in the queue, and only
this queue loses it. -/
theorem ask_of_source?_eq_some
    (h : (Act.ask kind.operation request).source? store = some (kind, index)) :
    ∃ answer rest, store.waiting kind index = answer :: rest ∧
      store.inquiryReply kind request = .ok answer ∧
      ∀ asked place, ((Act.ask kind.operation request).on store).waiting asked place =
        if asked = kind ∧ place = index then rest else store.waiting asked place := by
  obtain ⟨-, hfirst, hwaits⟩ := source?_ask_eq_some_iff.1 h
  obtain ⟨answer, rest, hwaiting⟩ := List.exists_cons_of_ne_nil hwaits
  have hask := store.ask_inquiry kind request
  rw [nextAnswer?_eq, hfirst, Option.bind_some, ← waiting, hwaiting] at hask
  obtain ⟨hreply, hafter⟩ := Prod.mk.inj hask
  refine ⟨answer, rest, hwaiting, hreply, fun asked place ↦ ?_⟩
  rw [hafter, waiting_withPrepared, Dict.get?_insert, (sameAnswers_noting ..).waiting_eq]
  by_cases hkind : asked = kind
  · subst hkind
    by_cases hplace : place = index
    · simp [hplace]
    · simp [hplace, Ne.symm hplace, waiting]
  · simp [hkind]

/-- An inquiry that takes no answer is answered from the documents, and nothing but the request is
written down. -/
theorem ask_of_source?_eq_none (h : (Act.ask kind.operation request).source? store = none) :
    store.inquiryReply kind request = .ok (answerFrom store.documents request kind) ∧
      (Act.ask kind.operation request).on store = store.noting kind.operation request := by
  have hnone : nextAnswer? (store.prepared kind) request = none := by
    rw [nextAnswer?_eq, Option.bind_eq_none_iff]
    intro index hfirst
    have hidle : store.waiting kind index = [] := by
      by_contra hwaits
      rw [source?_ask_eq_some_iff.2 ⟨rfl, hfirst, hwaits⟩] at h
      cases h
    rw [← waiting, hidle]
  have hask := store.ask_inquiry kind request
  rw [hnone] at hask
  exact Prod.mk.inj hask

/-- A request that is no inquiry takes no answer. -/
theorem sameAnswers_reply {op : Operation} (hop : op.inquiry? = none) (store : Store)
    (request : Json) : SameAnswers store (backend.reply op request store).2 := by
  refine (sameAnswers_noting store op request).trans ((effect_reply op request _).sameAnswers ?_ ?_)
  · rintro rfl
    cases hop
  · rintro rfl
    cases hop

/-! ### One act -/

/-- An act that takes nothing from a queue adds to it what it prepares. -/
theorem waiting_on_of_source?_ne {act : Act} (h : act.source? store ≠ some (kind, index)) :
    (act.on store).waiting kind index = store.waiting kind index ++ act.prepares kind index := by
  cases act with
  | queueSearch place answer => exact store.waiting_prepare .search kind place index answer
  | queueCount place count => exact store.waiting_prepare .count kind place index _
  | put place id source =>
    rw [Act.on, (sameAnswers_put ..).waiting_eq, Act.prepares, List.append_nil]
  | ask op request =>
    rw [Act.prepares, List.append_nil]
    cases hop : op.inquiry? with
    | none => exact (sameAnswers_reply hop store request).waiting_eq kind index
    | some asked =>
      obtain rfl := Operation.inquiry?_eq_some_iff.1 hop
      cases hsource : (Act.ask asked.operation request).source? store with
      | none => rw [(ask_of_source?_eq_none hsource).2, (sameAnswers_noting ..).waiting_eq]
      | some source =>
        obtain ⟨taken, place⟩ := source
        obtain rfl : asked = taken := by
          have htaken := (source?_ask_eq_some_iff.1 hsource).1
          rwa [← Operation.inquiry?_eq_some_iff, hop, Option.some.injEq] at htaken
        obtain ⟨_, _, -, -, hafter⟩ := ask_of_source?_eq_some hsource
        rw [hafter, if_neg]
        rintro ⟨rfl, rfl⟩
        exact h hsource

/-- What an act takes from a queue and what waits after it are what waited before and what the act
prepares. -/
theorem delivery_append_waiting (store : Store) (act : Act) (kind : Inquiry) (index : String) :
    act.delivery store kind index ++ ((act.on store).waiting kind index).map .ok =
      (store.waiting kind index ++ act.prepares kind index).map .ok := by
  by_cases h : act.source? store = some (kind, index)
  · cases act with
    | ask op request =>
      obtain rfl := (source?_ask_eq_some_iff.1 h).1
      obtain ⟨answer, rest, hwaiting, hreply, hafter⟩ := ask_of_source?_eq_some h
      rw [Act.delivery, if_pos h, hreply, hafter, if_pos ⟨rfl, rfl⟩, hwaiting, Act.prepares,
        List.append_nil]
      rfl
    | _ => cases h
  · have hnone : act.delivery store kind index = [] := by
      cases act with
      | ask op request => exact if_neg h
      | _ => rfl
    rw [hnone, List.nil_append, waiting_on_of_source?_ne h]

/-! ### Runs -/

@[simp]
theorem after_nil (store : Store) : store.after [] = store :=
  rfl

theorem after_cons (store : Store) (act : Act) (acts : List Act) :
    store.after (act :: acts) = (act.on store).after acts :=
  rfl

/-- What is delivered from a queue in a run and what still waits there are what waited at the start
and all that was prepared. -/
theorem delivered_append_waiting (store : Store) (acts : List Act) (kind : Inquiry)
    (index : String) :
    delivered kind index store acts ++ ((store.after acts).waiting kind index).map .ok =
      (store.waiting kind index ++ acts.flatMap (Act.prepares kind index)).map .ok := by
  induction acts generalizing store with
  | nil => simp [delivered]
  | cons act rest ih =>
    rw [delivered, after_cons, List.append_assoc, ih, List.map_append, ← List.append_assoc,
      delivery_append_waiting, ← List.map_append, List.append_assoc, List.flatMap_cons]

/-! ### Documents -/

/-- Only writes change documents. -/
theorem documents_on_of_not_writes {act : Act} (h : act.writes = false) (store : Store) :
    (act.on store).documents = store.documents := by
  cases act with
  | put => cases h
  | queueSearch | queueCount => rfl
  | ask op request =>
    refine (effect_reply op request (store.noting op request)).documents_eq ?_ ?_
    · rintro rfl
      cases h
    · rintro rfl
      cases h

theorem documents_put_congr (h : store.documents = other.documents) (id : String) (source : Json) :
    (store.put index id source).documents = (other.put index id source).documents := by
  rw [put, put, h]

theorem documents_drop_congr (h : store.documents = other.documents) (id : String) :
    (store.drop index id).documents = (other.drop index id).documents := by
  rw [drop, drop, h]
  split
  · rfl
  · exact h

/-- What becomes of the documents is told by the documents. -/
theorem documents_on_congr (act : Act) (h : store.documents = other.documents) :
    (act.on store).documents = (act.on other).documents := by
  cases hwrites : act.writes with
  | false => rw [documents_on_of_not_writes hwrites, documents_on_of_not_writes hwrites, h]
  | true =>
    cases act with
    | queueSearch | queueCount => cases hwrites
    | put index id source => exact documents_put_congr h id source
    | ask op request =>
      have hnoted : (store.noting op request).documents = (other.noting op request).documents := h
      rw [Act.on, Act.on, reply_backend, reply_backend]
      cases op with
      | index =>
        rw [reply, reply, Store.index, Store.index]
        cases documentAddress request with
        | error e => exact h
        | ok address => exact documents_put_congr hnoted address.2 _
      | delete =>
        rw [reply, reply, delete, delete]
        cases documentAddress request with
        | error e => exact h
        | ok address =>
          have hfound : (store.noting .delete request).document? address.1 address.2 =
              (other.noting .delete request).document? address.1 address.2 := by
            rw [document?, hnoted, document?]
          simp only [hfound]
          split
          · exact documents_drop_congr hnoted address.2
          · split <;> exact h
      | _ => cases hwrites

/-- The documents are what the writes of a run make of them. -/
theorem documents_after (acts : List Act) (h : store.documents = other.documents) :
    (store.after acts).documents = (other.after (acts.filter Act.writes)).documents := by
  induction acts generalizing store other with
  | nil => exact h
  | cons act rest ih =>
    rw [after_cons, List.filter_cons]
    cases hwrites : act.writes with
    | true => exact ih (documents_on_congr act h)
    | false => exact ih ((documents_on_of_not_writes hwrites store).trans h)

/-! ### Replies -/

/-- Without prepared answers no request takes one. -/
theorem source?_unprepared (act : Act) (store : Store) : act.source? store.unprepared = none := by
  cases act with
  | ask op request =>
    rw [Option.eq_none_iff_forall_ne_some]
    rintro ⟨kind, index⟩ h
    refine (source?_ask_eq_some_iff.1 h).2.2 ?_
    cases kind <;> rfl
  | _ => rfl

/-- A request that takes no answer is replied to as if none were prepared. -/
theorem reply_of_source?_eq_none {op : Operation}
    (h : (Act.ask op request).source? store = none) :
    (backend.reply op request store).1 = (backend.reply op request store.unprepared).1 := by
  have hinquiry : ∀ kind : Inquiry, op = kind.operation →
      store.inquiryReply kind request = store.unprepared.inquiryReply kind request := by
    rintro kind rfl
    rw [(ask_of_source?_eq_none h).1, (ask_of_source?_eq_none (source?_unprepared _ store)).1]
    rfl
  cases op with
  | search => exact hinquiry .search rfl
  | count => exact hinquiry .count rfl
  | index =>
    rw [reply_backend, reply_backend, reply, reply, Store.index, Store.index]
    cases documentAddress request <;> rfl
  | delete =>
    rw [reply_backend, reply_backend, reply, reply, delete, delete]
    cases documentAddress request with
    | error e => rfl
    | ok address => simp only [apply_ite Prod.fst]; rfl
  | indexExists =>
    rw [reply_backend, reply_backend, reply, reply, indexExists, indexExists]
    simp only [apply_ite Prod.fst]
    rfl
  | createIndex =>
    rw [reply_backend, reply_backend, reply, reply, createIndex, createIndex]
    simp only [noting, unprepared]
    cases (targetIndices request).find? store.indices.contains <;> rfl
  | putMapping => rfl

/-- **Prepared answers are delivered once, in order and to the right call.** Let any acts come one
after the other. For searches and for counts, and for every index: the replies to those that name
the index first while answers wait for it, followed by the answers that still wait, are the answers
that waited at the start followed by those that were prepared. Whatever comes next and takes nothing
from a queue adds to it what it prepares and removes nothing. A request that takes no answer is
replied to as if none were prepared; if it is a search or count, it is answered from the documents,
which are those that the writes alone would leave. -/
theorem prepared_delivered_in_order (store : Store) (acts : List Act) :
    (∀ kind index,
      delivered kind index store acts ++ ((store.after acts).waiting kind index).map .ok =
        (store.waiting kind index ++ acts.flatMap (Act.prepares kind index)).map .ok) ∧
    (∀ (next : Act) kind index, next.source? (store.after acts) ≠ some (kind, index) →
      (next.on (store.after acts)).waiting kind index =
        (store.after acts).waiting kind index ++ next.prepares kind index) ∧
    (∀ op request, (Act.ask op request).source? (store.after acts) = none →
      (backend.reply op request (store.after acts)).1 =
        (backend.reply op request (store.after acts).unprepared).1) ∧
    ∀ kind request, (Act.ask kind.operation request).source? (store.after acts) = none →
      (store.after acts).inquiryReply kind request =
        .ok (answerFrom (store.after (acts.filter Act.writes)).documents request kind) := by
  refine ⟨delivered_append_waiting store acts, fun _ _ _ h ↦ waiting_on_of_source?_ne h,
    fun _ _ h ↦ reply_of_source?_eq_none h, fun kind request h ↦ ?_⟩
  rw [(ask_of_source?_eq_none h).1, documents_after acts rfl]

/-- A search or count request to indices. -/
def asking (names : List String) : Json :=
  .single "index" (.array (names.map .string))

/-- Two answers are prepared for searches of users, one for those of posts and a number for counts
of users; a user is written between the searches. -/
def turns : List Act :=
  [.queueSearch "users" (.string "first"), .queueCount "users" 7,
    .ask .search (asking ["users", "posts"]), .queueSearch "users" (.string "second"),
    .queueSearch "posts" (.string "other"), .put "users" "1" .emptyObject,
    .ask .search (asking ["users"]), .ask .search (asking []), .ask .count (asking ["users"])]

/-- Both searches of users and the count get their answers. The next search of users and posts finds
the written user, and leaves the answer for posts where it is. -/
theorem prepared_delivered_in_order_turns :
    let search := Act.ask .search (asking ["users", "posts"])
    let now := ({} : Store).after turns
    delivered .search "users" {} turns = [.ok (.string "first"), .ok (.string "second")] ∧
    delivered .count "users" {} turns = [.ok (.single "count" (.ofNat 7))] ∧
    search.source? now = none ∧
    (search.on now).waiting .search "posts" = [.string "other"] ∧
    (backend.reply .search (asking ["users", "posts"]) now).1 =
      (backend.reply .search (asking ["users", "posts"]) now.unprepared).1 ∧
    now.inquiryReply .search (asking ["users", "posts"]) =
      .ok (answerFrom (.single "users" (.single "1" .emptyObject))
        (asking ["users", "posts"]) .search) := by
  intro search now
  obtain ⟨hdelivered, hkept, hreply, hanswer⟩ := prepared_delivered_in_order {} turns
  have hsource : search.source? now = none := by decide +kernel
  have hwaiting : ∀ kind, now.waiting kind "users" = [] := by
    rintro (_ | _) <;> decide +kernel
  have hall : ∀ kind, delivered kind "users" {} turns =
      (turns.flatMap (Act.prepares kind "users")).map .ok := fun kind ↦ by
    have hstart : ({} : Store).waiting kind "users" = [] := by cases kind <;> rfl
    have h := hdelivered kind "users"
    rwa [hwaiting, List.map_nil, List.append_nil, hstart, List.nil_append] at h
  have hposts := hkept search .search "posts" (by rw [hsource]; nofun)
  have hdocuments : (({} : Store).after (turns.filter Act.writes)).documents =
      .single "users" (.single "1" .emptyObject) := by decide +kernel
  have hfound := hanswer .search (asking ["users", "posts"]) hsource
  rw [hdocuments] at hfound
  refine ⟨hall .search, hall .count, hsource, ?_, hreply .search _ hsource, hfound⟩
  rw [hposts]
  decide +kernel

end Store

end RecordSearch
