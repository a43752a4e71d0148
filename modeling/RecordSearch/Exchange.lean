import RecordSearch.Error
import RecordSearch.Json.Basic
/-!
# Exchanges with a backend

An `Exchange` is a computation that asks a backend questions and goes on with the replies. It
fixes nothing about the backend: `Exchange.run` plays it against any `Backend`, and the questions
asked are what `Backend.logged` writes down. `run_bind` says that a composed exchange runs its
parts one after the other.

`Fetch` adds failure; an exchange that fails asks nothing further.
-/

namespace RecordSearch

/-- What a backend can be asked to do. -/
inductive Operation where
  | search
  | count
  | index
  | delete
  | indexExists
  | createIndex
  | putMapping
deriving DecidableEq, Inhabited

namespace Operation

/-- The name of an operation in a log. -/
def name : Operation → String
  | search => "search"
  | count => "count"
  | index => "index"
  | delete => "delete"
  | indexExists => "indices_exists"
  | createIndex => "indices_create"
  | putMapping => "indices_put_mapping"

/-- All operations. -/
def all : List Operation :=
  [search, count, index, delete, indexExists, createIndex, putMapping]

/-- The operation of a name. -/
def ofName? (name : String) : Option Operation :=
  all.find? fun op ↦ op.name = name

/-- What a successful reply carries: a truth value for the existence of an index, else a JSON
value. -/
@[reducible] def Reply : Operation → Type
  | indexExists => Bool
  | _ => Json

end Operation

/-- A computation that puts requests to a backend. -/
inductive Exchange (α : Type) where
  /-- Nothing more to ask. -/
  | done (result : α)
  /-- Ask, and go on with the reply. -/
  | ask (op : Operation) (request : Json) (next : Except Error op.Reply → Exchange α)

namespace Exchange

variable {α β : Type}

/-- Continue an exchange with another one. -/
def bind : Exchange α → (α → Exchange β) → Exchange β
  | done a, f => f a
  | ask op request next, f => ask op request fun reply ↦ bind (next reply) f

instance : Monad Exchange where
  pure := done
  bind := bind

theorem bind_done (x : Exchange α) : x.bind done = x := by
  induction x with
  | done a => rfl
  | ask op request next ih => exact congrArg (ask op request) (funext ih)

theorem bind_assoc {γ : Type} (x : Exchange α) (f : α → Exchange β) (g : β → Exchange γ) :
    (x.bind f).bind g = x.bind fun a ↦ (f a).bind g := by
  induction x with
  | done a => rfl
  | ask op request next ih => exact congrArg (ask op request) (funext ih)

instance : LawfulMonad Exchange :=
  LawfulMonad.mk' Exchange (fun x ↦ bind_done x) (fun _ _ ↦ rfl) fun x f g ↦ bind_assoc x f g

end Exchange

/-! ### Backends -/

/-- A backend with states `σ`: to each request a reply, and the state afterwards. -/
structure Backend (σ : Type) where
  /-- The reply to a request, and the state afterwards. -/
  reply : (op : Operation) → Json → σ → Except Error op.Reply × σ

namespace Backend

variable {σ : Type}

/-- The backend that also writes every request down. -/
def logged (backend : Backend σ) : Backend (σ × List (Operation × Json)) where
  reply op request state :=
    let (answer, after) := backend.reply op request state.1
    (answer, after, state.2 ++ [(op, request)])

end Backend

namespace Exchange

variable {α β σ : Type}

/-- Play an exchange against a backend. -/
def run (backend : Backend σ) : Exchange α → σ → α × σ
  | done a, state => (a, state)
  | ask op request next, state =>
    let (answer, after) := backend.reply op request state
    run backend (next answer) after

theorem run_ask (backend : Backend σ) (op : Operation) (request : Json)
    (next : Except Error op.Reply → Exchange α) (state : σ) :
    (ask op request next).run backend state =
      (next (backend.reply op request state).1).run backend (backend.reply op request state).2 :=
  rfl

/-- The parts of a composed exchange run one after the other. -/
theorem run_bind (backend : Backend σ) (x : Exchange α) (f : α → Exchange β) (state : σ) :
    (x >>= f).run backend state =
      (f (x.run backend state).1).run backend (x.run backend state).2 := by
  induction x generalizing state with
  | done a => rfl
  | ask op request next ih => exact ih _ _

end Exchange

/-! ### Exchanges that can fail -/

/-- An exchange that ends in a result or an error. -/
abbrev Fetch (α : Type) : Type :=
  ExceptT Error Exchange α

namespace Fetch

variable {α σ : Type}

/-- Ask one question; an error in reply is the result. -/
def ask (op : Operation) (request : Json) : Fetch op.Reply :=
  ExceptT.mk (Exchange.ask op request .done)

/-- Ask one question and look at the reply, error or not. -/
def attempt (op : Operation) (request : Json) : Fetch (Except Error op.Reply) :=
  ExceptT.lift (Exchange.ask op request .done)

/-- What is known without asking. -/
def ofExcept (result : Except Error α) : Fetch α :=
  ExceptT.mk (.done result)

/-- Play a fetch against a backend. -/
def runOn (backend : Backend σ) (fetch : Fetch α) (state : σ) : Except Error α × σ :=
  Exchange.run backend (ExceptT.run fetch) state

end Fetch

end RecordSearch
