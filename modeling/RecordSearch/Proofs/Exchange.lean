import RecordSearch.Engine.Caches
/-!
# Running exchanges

What a composed fetch or job does against a backend, part by part: `Fetch.runOn_bind` and
`Job.runOn_bind` say that the first part runs first and that its error ends the whole. Once the
parts are known, a run is computed with them and never by opening the monads.

`Fetch.Always contract final` is a bound on a fetch for **every** backend that meets a contract:
whatever such replies come, the fetch asks only what the contract allows, and its outcome is as
`final` says. The bound composes (`Fetch.Always.bind`), and against one backend it turns into an
invariant of the state (`Fetch.Always.run`). This is how a read that loads relations, whose
requests depend on what was read before, is shown to leave the documents alone.
-/

namespace RecordSearch

variable {α β σ : Type}

/-- A composition succeeds if and only if both parts do. -/
theorem bind_eq_ok_iff {ε : Type} {first : Except ε α} {next : α → Except ε β} {b : β} :
    first >>= next = .ok b ↔ ∃ a, first = .ok a ∧ next a = .ok b := by
  cases first with
  | error e => exact ⟨nofun, fun ⟨_, h, _⟩ ↦ nomatch h⟩
  | ok a => exact ⟨fun h ↦ ⟨a, rfl, h⟩, fun ⟨_, h, hnext⟩ ↦ Except.ok.inj h ▸ hnext⟩

/-! ### Fetches -/

namespace Fetch

variable (backend : Backend σ) (state : σ)

@[simp]
theorem runOn_pure (a : α) : (pure a : Fetch α).runOn backend state = (.ok a, state) :=
  rfl

@[simp]
theorem runOn_ofExcept (result : Except Error α) :
    (ofExcept result).runOn backend state = (result, state) :=
  rfl

theorem runOn_ask (op : Operation) (request : Json) :
    (ask op request).runOn backend state = backend.reply op request state :=
  rfl

theorem runOn_attempt (op : Operation) (request : Json) :
    (attempt op request).runOn backend state =
      (.ok (backend.reply op request state).1, (backend.reply op request state).2) :=
  rfl

/-- A composed fetch runs its second part if the first one succeeds. -/
theorem runOn_bind (fetch : Fetch α) (next : α → Fetch β) :
    (fetch >>= next).runOn backend state =
      match fetch.runOn backend state with
      | (.ok a, after) => (next a).runOn backend after
      | (.error e, after) => (.error e, after) := by
  unfold runOn
  rw [ExceptT.run_bind, Exchange.run_bind]
  rcases Exchange.run backend fetch.run state with ⟨a | e, after⟩ <;> rfl

variable {backend} {state}

/-- The run of a composed fetch whose first part succeeds. -/
theorem runOn_bind_of_ok {fetch : Fetch α} {next : α → Fetch β} {a : α} {after : σ}
    (h : fetch.runOn backend state = (.ok a, after)) :
    (fetch >>= next).runOn backend state = (next a).runOn backend after := by
  rw [runOn_bind, h]

/-- The run of a composed fetch whose first part fails. -/
theorem runOn_bind_of_error {fetch : Fetch α} {next : α → Fetch β} {e : Error} {after : σ}
    (h : fetch.runOn backend state = (.error e, after)) :
    (fetch >>= next).runOn backend state = (.error e, after) := by
  rw [runOn_bind, h]

/-- A composed fetch that succeeds ran both parts with success. -/
theorem of_runOn_bind_eq_ok {fetch : Fetch α} {next : α → Fetch β} {b : β} {after : σ}
    (h : (fetch >>= next).runOn backend state = (.ok b, after)) :
    ∃ a between, fetch.runOn backend state = (.ok a, between) ∧
      (next a).runOn backend between = (.ok b, after) := by
  rw [runOn_bind] at h
  rcases hrun : fetch.runOn backend state with ⟨e | a, between⟩
  · rw [hrun] at h
    exact absurd (congrArg Prod.fst h) nofun
  · rw [hrun] at h
    exact ⟨a, between, rfl, h⟩

end Fetch

/-! ### Jobs -/

namespace Job

variable (backend : Backend σ) (caches : Caches) (state : σ)

@[simp]
theorem runOn_pure (a : α) :
    (pure a : Job α).runOn backend caches state = ((.ok a, caches), state) :=
  rfl

@[simp]
theorem runOn_get : (get : Job Caches).runOn backend caches state = ((.ok caches, caches), state) :=
  rfl

@[simp]
theorem runOn_set (changed : Caches) :
    (set changed : Job PUnit).runOn backend caches state = ((.ok ⟨⟩, changed), state) :=
  rfl

/-- A fetch leaves the memories as they are. -/
theorem runOn_ofFetch (fetch : Fetch α) :
    (ofFetch fetch).runOn backend caches state =
      (((fetch.runOn backend state).1, caches), (fetch.runOn backend state).2) := by
  show Exchange.run backend (ExceptT.run fetch >>= fun result ↦ pure (result, caches)) state = _
  rw [Exchange.run_bind]
  rfl

/-- An attempted fetch does not fail. -/
theorem runOn_attempt (fetch : Fetch α) :
    (attempt fetch).runOn backend caches state =
      ((.ok (fetch.runOn backend state).1, caches), (fetch.runOn backend state).2) := by
  show Exchange.run backend
    (ExceptT.run fetch >>= fun result ↦ pure (Except.ok result, caches)) state = _
  rw [Exchange.run_bind]
  rfl

/-- A composed job runs its second part if the first one succeeds; what the first part remembered
stays remembered if it fails. -/
theorem runOn_bind (job : Job α) (next : α → Job β) :
    (job >>= next).runOn backend caches state =
      match job.runOn backend caches state with
      | ((.ok a, changed), after) => (next a).runOn backend changed after
      | ((.error e, changed), after) => ((.error e, changed), after) := by
  unfold runOn
  rw [ExceptT.run_bind, StateT.run_bind, Exchange.run_bind]
  rcases Exchange.run backend (StateT.run job.run caches) state with ⟨⟨a | e, changed⟩, after⟩ <;>
    rfl

variable {backend} {caches} {state}

/-- The run of a composed job whose first part succeeds. -/
theorem runOn_bind_of_ok {job : Job α} {next : α → Job β} {a : α} {changed : Caches} {after : σ}
    (h : job.runOn backend caches state = ((.ok a, changed), after)) :
    (job >>= next).runOn backend caches state = (next a).runOn backend changed after := by
  rw [runOn_bind, h]

/-- The run of a composed job whose first part fails. -/
theorem runOn_bind_of_error {job : Job α} {next : α → Job β} {e : Error} {changed : Caches}
    {after : σ} (h : job.runOn backend caches state = ((.error e, changed), after)) :
    (job >>= next).runOn backend caches state = ((.error e, changed), after) := by
  rw [runOn_bind, h]

end Job

/-! ### Bounds for every backend -/

/-- What an exchange may ask, and what it may count on in reply. -/
structure Contract where
  /-- The operations that may be asked. -/
  allowed : Operation → Prop
  /-- The replies that may come. -/
  replies : (op : Operation) → Except Error op.Reply → Prop

/-- A backend meets a contract in the states with a property if its replies to what may be asked
are of the expected kind and keep the property. -/
def Contract.MetBy (contract : Contract) (backend : Backend σ) (keeps : σ → Prop) : Prop :=
  ∀ op request state, contract.allowed op → keeps state →
    contract.replies op (backend.reply op request state).1 ∧
      keeps (backend.reply op request state).2

/-- Whatever replies come under the contract, the exchange asks only what it may and its result is
as wanted. -/
def Exchange.Always (contract : Contract) (final : α → Prop) : Exchange α → Prop
  | .done a => final a
  | .ask op _ next =>
    contract.allowed op ∧
      ∀ reply, contract.replies op reply → Exchange.Always contract final (next reply)

namespace Exchange

variable {contract : Contract} {final : α → Prop} {after : β → Prop}

theorem Always.mono {exchange : Exchange α} {weaker : α → Prop}
    (h : exchange.Always contract final) (hle : ∀ a, final a → weaker a) :
    exchange.Always contract weaker := by
  induction exchange with
  | done a => exact hle a h
  | ask op request next ih => exact ⟨h.1, fun reply hreply ↦ ih reply (h.2 reply hreply)⟩

theorem Always.bind {exchange : Exchange α} {next : α → Exchange β}
    (h : exchange.Always contract final) (hnext : ∀ a, final a → (next a).Always contract after) :
    (exchange >>= next).Always contract after := by
  induction exchange with
  | done a => exact hnext a h
  | ask op request rest ih => exact ⟨h.1, fun reply hreply ↦ ih reply (h.2 reply hreply)⟩

/-- Against a backend that meets the contract, the result is as wanted and the state keeps its
property. -/
theorem Always.run {exchange : Exchange α} {backend : Backend σ} {keeps : σ → Prop}
    (h : exchange.Always contract final) (hmet : contract.MetBy backend keeps)
    {state : σ} (hstate : keeps state) :
    final (exchange.run backend state).1 ∧ keeps (exchange.run backend state).2 := by
  induction exchange generalizing state with
  | done a => exact ⟨h, hstate⟩
  | ask op request next ih =>
    obtain ⟨hreply, hafter⟩ := hmet op request state h.1 hstate
    exact ih _ (h.2 _ hreply) hafter

end Exchange

/-- Whatever replies come under the contract, the fetch asks only what it may and its outcome is as
wanted. -/
def Fetch.Always (contract : Contract) (final : Except Error α → Prop) (fetch : Fetch α) : Prop :=
  Exchange.Always contract final (ExceptT.run fetch)

namespace Fetch

variable {contract : Contract} {final : Except Error α → Prop} {after : Except Error β → Prop}

theorem Always.pure {a : α} (h : final (.ok a)) : (pure a : Fetch α).Always contract final :=
  h

theorem Always.throw {e : Error} (h : final (.error e)) :
    (throw e : Fetch α).Always contract final :=
  h

theorem Always.ofExcept {result : Except Error α} (h : final result) :
    (Fetch.ofExcept result).Always contract final :=
  h

theorem Always.ask {op : Operation} (request : Json) (hop : contract.allowed op) :
    (Fetch.ask op request).Always contract (contract.replies op) :=
  ⟨hop, fun _ hreply ↦ hreply⟩

theorem Always.mono {fetch : Fetch α} {weaker : Except Error α → Prop}
    (h : fetch.Always contract final) (hle : ∀ outcome, final outcome → weaker outcome) :
    fetch.Always contract weaker :=
  Exchange.Always.mono h hle

theorem Always.bind {fetch : Fetch α} {next : α → Fetch β} (h : fetch.Always contract final)
    (hnext : ∀ a, final (.ok a) → (next a).Always contract after)
    (herror : ∀ e, final (.error e) → after (.error e)) :
    (fetch >>= next).Always contract after := by
  rw [Fetch.Always, ExceptT.run_bind]
  refine Exchange.Always.bind h fun outcome houtcome ↦ ?_
  cases outcome with
  | ok a => exact hnext a houtcome
  | error e => exact herror e houtcome

/-- Against a backend that meets the contract, the outcome is as wanted and the state keeps its
property. -/
theorem Always.run {fetch : Fetch α} {backend : Backend σ} {keeps : σ → Prop}
    (h : fetch.Always contract final) (hmet : contract.MetBy backend keeps)
    {state : σ} (hstate : keeps state) :
    final (fetch.runOn backend state).1 ∧ keeps (fetch.runOn backend state).2 :=
  Exchange.Always.run h hmet hstate

end Fetch

/-! ### Missing keys -/

/-- Is the error the missing key of a record? -/
def Error.isMissingKey : Error → Bool
  | .configuration (.missingKey _) => true
  | _ => false

/-- The outcome is a result as wanted, or an error other than a missing key. -/
def Settles (final : α → Prop) : Except Error α → Prop
  | .ok a => final a
  | .error e => e.isMissingKey = false

theorem Settles.bind {final : α → Prop} {after : β → Prop} {result : Except Error α}
    {next : α → Except Error β} (h : Settles final result)
    (hnext : ∀ a, final a → Settles after (next a)) : Settles after (result >>= next) := by
  cases result with
  | ok a => exact hnext a h
  | error e => exact h

/-- The outcome is no missing key. -/
abbrev NoMissingKey (outcome : Except Error α) : Prop :=
  Settles (fun _ ↦ True) outcome

namespace Fetch

variable {contract : Contract} {final : α → Prop} {after : β → Prop}

theorem Always.bind_settles {fetch : Fetch α} {next : α → Fetch β}
    (h : fetch.Always contract (Settles final))
    (hnext : ∀ a, final a → (next a).Always contract (Settles after)) :
    (fetch >>= next).Always contract (Settles after) :=
  h.bind hnext fun _ he ↦ he

/-- An attempted question does not fail. -/
theorem Always.attempt {op : Operation} (request : Json) (hop : contract.allowed op) :
    (Fetch.attempt op request).Always contract NoMissingKey :=
  ⟨hop, fun _ _ ↦ trivial⟩

/-- A property that every step of a fold keeps is a property of the result. -/
theorem Always.foldlM {step : β → α → Fetch β} {xs : List α}
    (hstep : ∀ b, ∀ a ∈ xs, after b → (step b a).Always contract (Settles after)) {init : β}
    (hinit : after init) : (xs.foldlM step init).Always contract (Settles after) := by
  induction xs generalizing init with
  | nil => exact .pure hinit
  | cons x rest ih =>
    rw [List.foldlM_cons]
    refine (hstep init x List.mem_cons_self hinit).bind_settles fun b hb ↦ ?_
    exact ih (fun b a ha ↦ hstep b a (List.mem_cons_of_mem x ha)) hb

end Fetch

end RecordSearch
