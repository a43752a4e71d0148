import RecordSearch.Proofs.Search
/-!
# The first answer with hits wins

A search and a count both put the compiled requests of a query one after the other until an answer
has hits. `Fetch.tryInOrder` is their common loop, which differs in the number of hits that an
answer is read to have and in the result that is made of it.

`Backend.TriedUpTo` says at which request such a loop ends, for any backend whatsoever: all earlier
replies are answers without hits, and if the last reply is one too, there are no further requests.
`tryInOrder_runOn` is the law of the loop, by induction on the requests, and `firstHit_wins` the law
of searches and counts: which requests are sent, and what comes of them.
-/

namespace RecordSearch

variable {α σ : Type}

/-! ### Requests put in order -/

namespace Backend

variable (backend : Backend σ) (op : Operation)

/-- The state after requests were put one after the other. -/
def stateAfter (requests : List Json) (state : σ) : σ :=
  requests.foldl (fun state request ↦ (backend.reply op request state).2) state

/-- The replies to requests that are put one after the other. -/
def replies : List Json → σ → List (Except Error op.Reply)
  | [], _ => []
  | request :: rest, state =>
    (backend.reply op request state).1 :: replies rest (backend.reply op request state).2

/-- The reply to a request that is put after others. -/
def replyAfter (before : List Json) (last : Json) (state : σ) : Except Error op.Reply :=
  (backend.reply op last (backend.stateAfter op before state)).1

@[simp]
theorem stateAfter_nil (state : σ) : backend.stateAfter op [] state = state :=
  rfl

@[simp]
theorem stateAfter_cons (request : Json) (rest : List Json) (state : σ) :
    backend.stateAfter op (request :: rest) state =
      backend.stateAfter op rest (backend.reply op request state).2 :=
  rfl

@[simp]
theorem replyAfter_nil (last : Json) (state : σ) :
    backend.replyAfter op [] last state = (backend.reply op last state).1 :=
  rfl

/-- Requests in order are **tried up to** one of them, the last one after those before it: all
earlier replies are answers without hits, and if the last reply is such an answer too, no request
is left. -/
structure TriedUpTo (hits : op.Reply → Except Error Nat) (requests : List Json) (state : σ)
    (before : List Json) (last : Json) : Prop where
  /-- The tried requests are the first ones. -/
  isPrefix : before ++ [last] <+: requests
  /-- No earlier answer has hits. -/
  hitless : ∀ reply ∈ backend.replies op before state,
    ∃ answer, reply = .ok answer ∧ hits answer = .ok 0
  /-- If the last answer has no hits, all requests are tried. -/
  exhausted : ∀ answer, backend.replyAfter op before last state = .ok answer →
    hits answer = .ok 0 → before ++ [last] = requests

variable {backend} {op}

/-- The trial ends at the first request if its reply is an error or an answer with hits. -/
theorem TriedUpTo.head {hits : op.Reply → Except Error Nat} {request : Json} {rest : List Json}
    {state : σ}
    (h : ∀ answer, (backend.reply op request state).1 = .ok answer → hits answer ≠ .ok 0) :
    backend.TriedUpTo op hits (request :: rest) state [] request where
  isPrefix := ⟨rest, rfl⟩
  hitless := nofun
  exhausted answer hreply hzero := absurd hzero (h answer hreply)

/-- A request whose answer has no hits is passed over. -/
theorem TriedUpTo.cons {hits : op.Reply → Except Error Nat} {request last : Json}
    {rest before : List Json} {state : σ} {answer : op.Reply}
    (hreply : (backend.reply op request state).1 = .ok answer) (hzero : hits answer = .ok 0)
    (h : backend.TriedUpTo op hits rest (backend.reply op request state).2 before last) :
    backend.TriedUpTo op hits (request :: rest) state (request :: before) last where
  isPrefix := List.cons_prefix_cons.2 ⟨rfl, h.isPrefix⟩
  hitless := by
    intro reply hmem
    rcases List.mem_cons.1 hmem with rfl | hmem
    · exact ⟨answer, hreply, hzero⟩
    · exact h.hitless reply hmem
  exhausted other hother hnone := congrArg (request :: ·) (h.exhausted other hother hnone)

/-! ### Logged backends -/

variable (backend) (op)

theorem stateAfter_logged (requests : List Json) (state : σ) (log : List (Operation × Json)) :
    backend.logged.stateAfter op requests (state, log) =
      (backend.stateAfter op requests state, log ++ requests.map (op, ·)) := by
  induction requests generalizing state log with
  | nil => simp
  | cons request rest ih =>
    rw [stateAfter_cons, stateAfter_cons]
    refine (ih _ _).trans ?_
    rw [List.append_assoc]
    rfl

theorem replies_logged (requests : List Json) (state : σ) (log : List (Operation × Json)) :
    backend.logged.replies op requests (state, log) = backend.replies op requests state := by
  induction requests generalizing state log with
  | nil => rfl
  | cons request rest ih => exact congrArg (_ :: ·) (ih _ _)

theorem replyAfter_logged (before : List Json) (last : Json) (state : σ)
    (log : List (Operation × Json)) :
    backend.logged.replyAfter op before last (state, log) =
      backend.replyAfter op before last state := by
  rw [replyAfter, stateAfter_logged]
  rfl

variable {backend} {op}

/-- Writing the requests down does not change what is tried. -/
theorem TriedUpTo.of_logged {hits : op.Reply → Except Error Nat} {requests before : List Json}
    {last : Json} {state : σ} {log : List (Operation × Json)}
    (h : backend.logged.TriedUpTo op hits requests (state, log) before last) :
    backend.TriedUpTo op hits requests state before last where
  isPrefix := h.isPrefix
  hitless := by simpa only [replies_logged] using h.hitless
  exhausted := by simpa only [replyAfter_logged] using h.exhausted

end Backend

/-! ### The loop -/

namespace Fetch

variable (op : Operation) (hits : op.Reply → Except Error Nat) (result : Json → op.Reply → Nat → α)

/-- Put requests in order up to the first answer with hits. The last argument is the result so
far. -/
def tryInOrder : List Json → α → Fetch α
  | [], last => pure last
  | request :: rest, _ => do
    let answer ← Fetch.ask op request
    let count ← Fetch.ofExcept (hits answer)
    if count > 0 then pure (result request answer count)
    else tryInOrder rest (result request answer count)

variable {op}

/-- What comes of a reply to a request. -/
def resultOf (request : Json) (reply : Except Error op.Reply) : Except Error α :=
  reply.bind fun answer ↦ (hits answer).map (result request answer)

variable {hits} {backend : Backend σ} {state : σ}

/-- A reply that is an error or an answer with hits ends the loop. -/
theorem tryInOrder_runOn_of_ends {request : Json}
    (h : ∀ answer, (backend.reply op request state).1 = .ok answer → hits answer ≠ .ok 0)
    (rest : List Json) (start : α) :
    (tryInOrder op hits result (request :: rest) start).runOn backend state =
      (resultOf hits result request (backend.reply op request state).1,
        (backend.reply op request state).2) := by
  rw [tryInOrder, runOn_bind, runOn_ask]
  rcases hreply : backend.reply op request state with ⟨e | answer, after⟩
  · rfl
  · rw [hreply] at h
    dsimp only
    rw [runOn_bind, runOn_ofExcept, resultOf]
    cases hhits : hits answer with
    | error _ => simp [Except.bind, Except.map, hhits]
    | ok count =>
      have hpos : count > 0 := Nat.pos_of_ne_zero fun hzero ↦ h answer rfl (hzero ▸ hhits)
      simp [Except.bind, Except.map, hhits, hpos]

/-- An answer without hits passes the loop on to the further requests. -/
theorem tryInOrder_runOn_of_zero {request : Json} {answer : op.Reply}
    (hreply : (backend.reply op request state).1 = .ok answer) (hzero : hits answer = .ok 0)
    (rest : List Json) (start : α) :
    (tryInOrder op hits result (request :: rest) start).runOn backend state =
      (tryInOrder op hits result rest (result request answer 0)).runOn backend
        (backend.reply op request state).2 := by
  have hask : (Fetch.ask op request).runOn backend state =
      (.ok answer, (backend.reply op request state).2) := Prod.ext hreply rfl
  rw [tryInOrder, runOn_bind_of_ok hask, runOn_bind_of_ok (runOn_ofExcept _ _ _ |>.trans
    (congrArg (·, _) hzero)), if_neg (Nat.lt_irrefl 0)]

variable (op) (hits) (backend)

/-- **The law of the loop.** Against any backend, requests are tried up to one of them, and what
comes of its reply is the outcome. -/
theorem tryInOrder_runOn {requests : List Json} (hne : requests ≠ []) (start : α) (state : σ) :
    ∃ before last, backend.TriedUpTo op hits requests state before last ∧
      (tryInOrder op hits result requests start).runOn backend state =
        (resultOf hits result last (backend.replyAfter op before last state),
          backend.stateAfter op (before ++ [last]) state) := by
  induction requests generalizing start state with
  | nil => exact absurd rfl hne
  | cons request rest ih =>
    by_cases hpasses : ∃ answer, (backend.reply op request state).1 = .ok answer ∧
        hits answer = .ok 0
    case neg =>
      have hends : ∀ answer, (backend.reply op request state).1 = .ok answer →
          hits answer ≠ .ok 0 := fun answer hreply hzero ↦ hpasses ⟨answer, hreply, hzero⟩
      exact ⟨[], request, .head hends, tryInOrder_runOn_of_ends result hends rest start⟩
    obtain ⟨answer, hreply, hzero⟩ := hpasses
    have hpassed := tryInOrder_runOn_of_zero result hreply hzero rest start
    cases rest with
    | nil =>
      -- No request is left, so the answer counts without hits.
      refine ⟨[], request, ⟨⟨[], rfl⟩, nofun, fun _ _ _ ↦ rfl⟩, hpassed.trans ?_⟩
      rw [Backend.replyAfter_nil, hreply, resultOf]
      simp [tryInOrder, Except.bind, Except.map, hzero]
    | cons second others =>
      obtain ⟨before, last, htried, hrun⟩ := ih (List.cons_ne_nil _ _) (result request answer 0)
        (backend.reply op request state).2
      exact ⟨request :: before, last, .cons hreply hzero htried, hpassed.trans hrun⟩

end Fetch

/-! ### Searches and counts -/

/-- A search has the hits that its answer reports. -/
def searchHits (body : Json) : Except Error Nat :=
  .ok (totalHits body)

/-- The search loop is a trial of the rendered requests. -/
theorem firstWithHits_eq_tryInOrder (requests : List SearchRequest) (last : Response) :
    firstWithHits requests last =
      Fetch.tryInOrder .search searchHits (fun request body _ ↦ ⟨body, some request⟩)
        (requests.map SearchRequest.render) last := by
  induction requests generalizing last with
  | nil => rfl
  | cons request rest ih =>
    rw [firstWithHits, List.map_cons, Fetch.tryInOrder]
    refine congrArg (Fetch.ask .search request.render >>= ·) (funext fun body ↦ ?_)
    dsimp only
    rw [ih]
    rfl

/-- The count loop is a trial of the rendered requests. -/
theorem firstCount_eq_tryInOrder (requests : List SearchRequest) (last : Nat) :
    firstCount requests last =
      Fetch.tryInOrder .count readCount (fun _ _ count ↦ count)
        (requests.map SearchRequest.render) last := by
  induction requests generalizing last with
  | nil => rfl
  | cons request rest ih =>
    rw [firstCount, List.map_cons, Fetch.tryInOrder]
    refine congrArg (Fetch.ask .count request.render >>= ·) (funext fun answer ↦ ?_)
    refine congrArg (Fetch.ofExcept (readCount answer) >>= ·) (funext fun count ↦ ?_)
    rw [ih]

/-- A count answer carries the natural number that it has for a count. -/
theorem readCount_eq_ok_iff (answer : Json) (n : Nat) :
    readCount answer = .ok n ↔ answer.field? "count" = some (.ofNat n) := by
  have hfield : (answer.field? "count").bind Json.nat? = some n ↔
      answer.field? "count" = some (.ofNat n) := by
    cases answer.field? "count" with
    | none => simp
    | some value => rw [Option.bind_some, Json.nat?_eq_some_iff, Option.some.injEq]
  rw [← hfield, readCount]
  cases (answer.field? "count").bind Json.nat? <;> simp

/-- Any other count answer is malformed. -/
theorem readCount_eq_error (answer : Json) (e : Error) (h : readCount answer = .error e) :
    e = .malformed .noCount := by
  rw [readCount] at h
  split at h
  · cases h
  · exact (Except.error.inj h).symm

namespace Query

section Runs

variable {query : Query}

variable (backend : Backend σ) (state : σ)

/-- Against any backend, a search tries its compiled requests; the last reply is its outcome. -/
theorem respond_runOn_tried (hcallback : query.callback = none) {options : Options}
    {requests : List SearchRequest} (hcompile : query.compile options = .ok requests) :
    ∃ before last,
      backend.TriedUpTo .search searchHits (requests.map SearchRequest.render) state before last ∧
      (query.respond options).runOn backend state =
        ((backend.replyAfter .search before last state).map fun body ↦ ⟨body, some last⟩,
          backend.stateAfter .search (before ++ [last]) state) := by
  have hne : requests.map SearchRequest.render ≠ [] :=
    mt List.map_eq_nil_iff.1 (compile_ne_nil hcompile)
  obtain ⟨before, last, htried, hrun⟩ := Fetch.tryInOrder_runOn .search searchHits
    (fun request body _ ↦ ⟨body, some request⟩) backend hne ({} : Response) state
  refine ⟨before, last, htried, ?_⟩
  rw [respond, hcallback, hcompile]
  refine (Fetch.runOn_bind_of_ok (Fetch.runOn_ofExcept _ _ _)).trans ?_
  rw [firstWithHits_eq_tryInOrder, hrun, Fetch.resultOf]
  cases backend.replyAfter .search before last state <;> rfl

/-- Against any backend, a count tries its compiled requests; the number in the last reply is its
outcome. -/
theorem count_runOn_tried {requests : List SearchRequest}
    (hcompile : query.compile .counting = .ok requests) :
    ∃ before last,
      backend.TriedUpTo .count readCount (requests.map SearchRequest.render) state before last ∧
      query.count.runOn backend state =
        ((backend.replyAfter .count before last state).bind readCount,
          backend.stateAfter .count (before ++ [last]) state) := by
  have hne : requests.map SearchRequest.render ≠ [] :=
    mt List.map_eq_nil_iff.1 (compile_ne_nil hcompile)
  obtain ⟨before, last, htried, hrun⟩ := Fetch.tryInOrder_runOn .count readCount
    (fun _ _ count ↦ count) backend hne 0 state
  refine ⟨before, last, htried, ?_⟩
  rw [count, hcompile]
  refine (Fetch.runOn_bind_of_ok (Fetch.runOn_ofExcept _ _ _)).trans ?_
  rw [firstCount_eq_tryInOrder, hrun, Fetch.resultOf]
  cases backend.replyAfter .count before last state with
  | error e => rfl
  | ok answer => cases hcount : readCount answer <;> simp [Except.bind, Except.map, hcount]

/-- What does not compile is not sent. -/
theorem respond_runOn_of_compile_error (hcallback : query.callback = none) {options : Options}
    {e : Error} (hcompile : query.compile options = .error e) :
    (query.respond options).runOn backend state = (.error e, state) := by
  rw [respond, hcallback, hcompile]
  exact Fetch.runOn_bind_of_error (Fetch.runOn_ofExcept _ _ _)

theorem count_runOn_of_compile_error {e : Error} (hcompile : query.compile .counting = .error e) :
    query.count.runOn backend state = (.error e, state) := by
  rw [count, hcompile]
  exact Fetch.runOn_bind_of_error (Fetch.runOn_ofExcept _ _ _)

end Runs

/-- **The first answer with hits wins.** A query without a search by hand that compiles has its
requests tried in order, whatever the backend replies: the search returns the last reply tried with
the request that it answers, the count the number in it, and what was tried is all that is sent. A
query that does not compile sends nothing. A count answer without a natural number is malformed. -/
theorem firstHit_wins (backend : Backend σ) (query : Query) (hcallback : query.callback = none)
    (options : Options) (state : σ) (log : List (Operation × Json)) :
    let response := (query.respond options).runOn backend.logged (state, log)
    let counted := query.count.runOn backend.logged (state, log)
    (∀ e, query.compile options = .error e → response = (.error e, state, log)) ∧
    (∀ requests, query.compile options = .ok requests → ∃ before last,
      backend.TriedUpTo .search searchHits (requests.map SearchRequest.render) state before last ∧
      response =
        ((backend.replyAfter .search before last state).map fun body ↦ ⟨body, some last⟩,
          backend.stateAfter .search (before ++ [last]) state,
          log ++ (before ++ [last]).map (.search, ·))) ∧
    (∀ e, query.compile .counting = .error e → counted = (.error e, state, log)) ∧
    (∀ requests, query.compile .counting = .ok requests → ∃ before last,
      backend.TriedUpTo .count readCount (requests.map SearchRequest.render) state before last ∧
      counted =
        ((backend.replyAfter .count before last state).bind readCount,
          backend.stateAfter .count (before ++ [last]) state,
          log ++ (before ++ [last]).map (.count, ·))) ∧
    (∀ answer n, readCount answer = .ok n ↔ answer.field? "count" = some (.ofNat n)) ∧
    ∀ answer e, readCount answer = .error e → e = .malformed .noCount := by
  intro response counted
  refine ⟨fun e ↦ respond_runOn_of_compile_error backend.logged (state, log) hcallback,
    fun requests hcompile ↦ ?_, fun e ↦ count_runOn_of_compile_error backend.logged (state, log),
    fun requests hcompile ↦ ?_, readCount_eq_ok_iff, readCount_eq_error⟩
  · obtain ⟨before, last, htried, hrun⟩ :=
      respond_runOn_tried backend.logged (state, log) hcallback hcompile
    refine ⟨before, last, htried.of_logged, ?_⟩
    rw [← backend.replyAfter_logged .search before last state log, ← backend.stateAfter_logged]
    exact hrun
  · obtain ⟨before, last, htried, hrun⟩ := count_runOn_tried backend.logged (state, log) hcompile
    refine ⟨before, last, htried.of_logged, ?_⟩
    rw [← backend.replyAfter_logged .count before last state log, ← backend.stateAfter_logged]
    exact hrun

/-- A backend that answers by turns: nothing found first, then two hits and a count that is no
number, and from then on errors. -/
def turnsBackend : Backend Nat where
  reply op _ turn :=
    let total (n : Nat) : Json := .single "hits" (.single "total" (.ofNat n))
    match op, turn with
    | .search, 0 => (.ok (total 0), 1)
    | .search, 1 => (.ok (total 2), 2)
    | .count, 0 => (.ok (.single "count" (.ofNat 0)), 1)
    | .count, 1 => (.ok (.single "count" (.string "2")), 2)
    | _, turn => (.error .notFound, turn + 1)

/-- Posts about a text, by title, by summary or by body. -/
def postsAbout (text : String) : Query :=
  let rule (field : String) : Rule :=
    .callable fun criteria ↦
      .single "must" (.single "match" (.single field (.string (criteria.freeText.getD ""))))
  ((Schema.ofTable "posts").search text).refine
    [.rule (rule "title"), .rule (rule "summary"), .rule (rule "body")]

/-- Of three rules the second one has hits: two requests are sent, and the response is the second
answer with its request. The second count is malformed, and ends the counting. -/
theorem firstHit_wins_postsAbout :
    (postsAbout "lean").callback = none ∧
      (∃ first second, (postsAbout "lean").search.runOn turnsBackend.logged (0, []) =
        (.ok ⟨.single "hits" (.single "total" (.ofNat 2)), some second⟩, 2,
          [(.search, first), (.search, second)])) ∧
      ((postsAbout "lean").count.runOn turnsBackend.logged (0, [])).1 =
        .error (.malformed .noCount) := by
  obtain ⟨requests, hrequests⟩ : ∃ requests, (postsAbout "lean").compile {} = .ok requests :=
    ⟨_, rfl⟩
  obtain ⟨-, hsearch, -⟩ := firstHit_wins turnsBackend (postsAbout "lean") rfl {} 0 []
  obtain ⟨before, last, -, hrun⟩ := hsearch requests hrequests
  have hsent : (((postsAbout "lean").respond {}).runOn turnsBackend.logged (0, [])).2.2.length =
      2 := by
    decide +kernel
  rw [hrun, List.nil_append, List.length_map, List.length_append] at hsent
  obtain ⟨first, rfl⟩ := List.length_eq_one_iff.1 (Nat.succ.inj hsent)
  exact ⟨rfl, ⟨first, last, hrun⟩, rfl⟩

end Query

end RecordSearch
