import Mathlib.Data.List.DropRight
import RecordSearch.Proofs.Request
/-!
# The identity of an envelope is protected

An envelope is made for the index of a schema, for its documents or for one of them, and is then
changed by calls in any order, some of which fail. Of its identity a call reaches the target and
nothing else, and that in two ways: a known alias replaces the target, and further indices are put
behind it (`Call.target_after`). So after a run of calls the target is told by the last known alias
and the indices that were added since, while type and id are those with which the envelope was made
(`IsMadeFor.afterAll`).

The parameters are written over the identity when an envelope becomes a request. What keeps them
from taking its place is that none of them has a protected key, which every call preserves
(`Guards.after`).
-/

namespace RecordSearch

/-- The target of a base index and further indices. -/
def Target.led (base : String) : List String → Target
  | [] => .single base
  | indices => .many (base :: indices)

namespace Target

theorem names_led (base : String) (indices : List String) :
    (led base indices).names = base :: indices := by
  cases indices <;> rfl

/-- A target is rendered as a list exactly if it has further indices. -/
theorem render_led (base : String) (indices : List String) :
    (led base indices).render =
      if indices = [] then .string base else .ofStrings (base :: indices) := by
  cases indices <;> rfl

end Target

namespace Envelope

/-- An envelope as it is made for a schema. -/
inductive IsMadeFor (schema : Schema) : Envelope → Prop where
  /-- The envelope of a request to the index. -/
  | forIndex : IsMadeFor schema (.forIndex schema)
  /-- The envelope of a request to the documents. -/
  | forType : IsMadeFor schema (.forType schema)
  /-- The envelope of a request to one document. -/
  | forDocument {key : Option String} {envelope : Envelope}
      (h : forDocument schema key = .ok envelope) : IsMadeFor schema envelope

/-! ### Calls -/

/-- A call that changes an envelope. -/
inductive Call where
  /-- Set a parameter. -/
  | setParam (key : String) (value : Json)
  /-- Set a client option. -/
  | setClient (key : String) (value : Json)
  /-- Turn to the index that an alias of a schema stands for. -/
  | useAlias (schema : Schema) (name : String)
  /-- Add further indices. -/
  | addUnions (indices : List String)

namespace Call

/-- The outcome of a call. -/
def outcome (envelope : Envelope) : Call → Except Error Envelope
  | setParam key value => envelope.setParam key value
  | setClient key value => .ok (envelope.setClient key value)
  | useAlias schema name => envelope.useAlias schema name
  | addUnions indices => .ok (envelope.addUnions indices)

/-- The envelope after a call; a call that fails leaves the one that there was. -/
def after (call : Call) (envelope : Envelope) : Envelope :=
  match call.outcome envelope with
  | .ok changed => changed
  | .error _ => envelope

/-- The envelope after calls in order, whether they succeed or fail. -/
def afterAll (envelope : Envelope) (calls : List Call) : Envelope :=
  calls.foldl (fun envelope call ↦ call.after envelope) envelope

/-- Why a call is refused, if it is: the parameter that it sets has a protected key, or the alias is
unknown. -/
def refusal? : Call → Option Misuse
  | setParam key _ => if isProtected key then some (.protectedKey key) else none
  | useAlias schema name =>
    match schema.aliasIndex? name with
    | some _ => none
    | none => some (.unknownAlias schema.table name)
  | _ => none

/-- The index to which a call turns the envelope, if it names a known alias. -/
def turnsTo? : Call → Option String
  | useAlias schema name => schema.aliasIndex? name
  | _ => none

/-- The indices that a call adds. -/
def added : Call → List String
  | addUnions indices => indices
  | _ => []

/-- The index of the last known alias that calls turn to, if there is any. -/
def lastTurn? (calls : List Call) : Option String :=
  calls.reverse.findSome? turnsTo?

/-- The calls behind the last one that turns to a known alias. -/
def sinceTurn (calls : List Call) : List Call :=
  calls.rtakeWhile fun call ↦ call.turnsTo?.isNone

theorem lastTurn?_concat (calls : List Call) (call : Call) :
    lastTurn? (calls ++ [call]) = call.turnsTo?.or (lastTurn? calls) := by
  rw [lastTurn?, List.reverse_append, List.reverse_singleton, List.singleton_append,
    List.findSome?_cons, lastTurn?]
  cases call.turnsTo? <;> rfl

theorem sinceTurn_concat (calls : List Call) (call : Call) :
    sinceTurn (calls ++ [call]) = if call.turnsTo?.isNone then sinceTurn calls ++ [call] else [] :=
  List.rtakeWhile_concat _ _ _

/-! ### One call -/

section One

variable (envelope : Envelope)

theorem after_setParam (key : String) (value : Json) :
    (setParam key value).after envelope =
      if isProtected key then envelope
      else { envelope with params := envelope.params.insert key value } := by
  rw [after, outcome, Envelope.setParam]
  by_cases hkey : isProtected key <;> simp only [hkey, if_true, if_false, Bool.false_eq_true]

theorem after_useAlias (schema : Schema) (name : String) :
    (useAlias schema name).after envelope =
      match schema.aliasIndex? name with
      | some index => { envelope with target := .single index }
      | none => envelope := by
  rw [after, outcome, Envelope.useAlias]
  cases schema.aliasIndex? name <;> rfl

/-- A call that is refused fails for that reason, and leaves the envelope that there was. -/
theorem outcome_of_refused {call : Call} {cause : Misuse} (h : call.refusal? = some cause) :
    call.outcome envelope = .error (.configuration cause) ∧ call.after envelope = envelope := by
  suffices hfails : call.outcome envelope = .error (.configuration cause) by
    exact ⟨hfails, by rw [after, hfails]⟩
  rcases call with ⟨key, value⟩ | ⟨key, value⟩ | ⟨schema, name⟩ | indices
  · rw [refusal?] at h
    rw [outcome, Envelope.setParam]
    by_cases hkey : isProtected key
    · rw [if_pos hkey] at h ⊢
      rw [Option.some.inj h]
    · rw [if_neg hkey] at h
      cases h
  · cases h
  · rw [refusal?] at h
    rw [outcome, Envelope.useAlias]
    cases hindex : schema.aliasIndex? name with
    | some index =>
      rw [hindex] at h
      cases h
    | none =>
      rw [hindex] at h
      rw [← Option.some.inj h]
  · cases h

/-- Any other call succeeds. -/
theorem outcome_of_not_refused {call : Call} (h : call.refusal? = none) :
    call.outcome envelope = .ok (call.after envelope) := by
  rcases call with ⟨key, value⟩ | ⟨key, value⟩ | ⟨schema, name⟩ | indices
  · have hkey : ¬isProtected key = true := fun hkey ↦ by
      rw [refusal?, if_pos hkey] at h
      cases h
    rw [after_setParam, outcome, Envelope.setParam, if_neg hkey, if_neg hkey]
  · rfl
  · rw [refusal?] at h
    rw [after_useAlias, outcome, Envelope.useAlias]
    cases hindex : schema.aliasIndex? name with
    | some index => rfl
    | none =>
      rw [hindex] at h
      cases h
  · rfl

/-- A known alias replaces the target, added indices are put behind it, and any other call leaves
it. -/
theorem target_after (call : Call) {base : String} {indices : List String}
    (h : envelope.target = .led base indices) :
    (call.after envelope).target =
      match call.turnsTo? with
      | some index => .led index []
      | none => .led base (indices ++ call.added) := by
  have hkept : envelope.target = .led base (indices ++ []) := by rw [h, List.append_nil]
  rcases call with ⟨key, value⟩ | ⟨key, value⟩ | ⟨schema, name⟩ | more
  · rw [after_setParam]
    by_cases hkey : isProtected key
    · rw [if_pos hkey]
      exact hkept
    · rw [if_neg hkey]
      exact hkept
  · exact hkept
  · rw [after_useAlias, turnsTo?]
    cases schema.aliasIndex? name with
    | some index => rfl
    | none => exact hkept
  · show (envelope.addUnions more).target = .led base (indices ++ more)
    rw [Envelope.addUnions]
    cases more with
    | nil => exact hkept
    | cons first rest =>
      show Target.many (envelope.target.names ++ first :: rest) = _
      rw [h, Target.names_led]
      cases indices <;> rfl

end One

end Call

/-! ### Runs of calls -/

/-- An envelope **guards** the identity of another one: it has the same type and id, and no
parameter in the place of a part of the identity. -/
structure Guards (made envelope : Envelope) : Prop where
  /-- The type is the same. -/
  docType_eq : envelope.docType = made.docType
  /-- The id is the same. -/
  id_eq : envelope.id = made.id
  /-- No parameter has a protected key. -/
  params : ∀ key, isProtected key = true → envelope.params.get? key = none

/-- Every call keeps the guard. -/
theorem Guards.after {made envelope : Envelope} (h : Guards made envelope) (call : Call) :
    Guards made (call.after envelope) := by
  rcases call with ⟨key, value⟩ | ⟨key, value⟩ | ⟨schema, name⟩ | indices
  · rw [Call.after_setParam]
    by_cases hkey : isProtected key
    · rwa [if_pos hkey]
    · rw [if_neg hkey]
      refine ⟨h.docType_eq, h.id_eq, fun other hother ↦ ?_⟩
      have hne : key ≠ other := fun heq ↦ hkey (heq ▸ hother)
      exact (Dict.get?_insert_of_ne _ _ hne).trans (h.params other hother)
  · exact ⟨h.docType_eq, h.id_eq, h.params⟩
  · rw [Call.after_useAlias]
    cases schema.aliasIndex? name with
    | some index => exact ⟨h.docType_eq, h.id_eq, h.params⟩
    | none => exact h
  · show Guards made (envelope.addUnions indices)
    rw [addUnions]
    split
    · exact h
    · exact ⟨h.docType_eq, h.id_eq, h.params⟩

namespace IsMadeFor

variable {schema : Schema} {made : Envelope} (h : made.IsMadeFor schema)
include h

/-- An envelope is made without parameters, and goes to the index of the schema. -/
theorem fields_eq : made.params = ∅ ∧ made.target = .led schema.indexName [] := by
  rcases h with _ | _ | @⟨key, _, hmade⟩
  · exact ⟨rfl, rfl⟩
  · exact ⟨rfl, rfl⟩
  · cases key with
    | none => cases hmade
    | some id =>
      rw [← Except.ok.inj hmade]
      exact ⟨rfl, rfl⟩

/-- After calls, type and id are guarded, and the target is led by the index of the last known alias
and has the indices that were added since. -/
theorem afterAll (calls : List Call) :
    Guards made (Call.afterAll made calls) ∧
      (Call.afterAll made calls).target =
        .led ((Call.lastTurn? calls).getD schema.indexName)
          ((Call.sinceTurn calls).flatMap Call.added) := by
  induction calls using List.reverseRecOn with
  | nil =>
    obtain ⟨hparams, htarget⟩ := h.fields_eq
    refine ⟨⟨rfl, rfl, fun key _ ↦ ?_⟩, htarget⟩
    show made.params.get? key = none
    rw [hparams, Dict.get?_empty]
  | append_singleton calls call ih =>
    obtain ⟨hguards, htarget⟩ := ih
    have hlast : Call.afterAll made (calls ++ [call]) = call.after (Call.afterAll made calls) :=
      List.foldl_concat _ _ _ _
    rw [hlast, Call.target_after _ call htarget, Call.lastTurn?_concat, Call.sinceTurn_concat]
    refine ⟨hguards.after call, ?_⟩
    cases call.turnsTo? with
    | some index => rfl
    | none =>
      show Target.led _ _ = Target.led _ ((Call.sinceTurn calls ++ [call]).flatMap Call.added)
      rw [List.flatMap_append, List.flatMap_singleton]
      rfl

end IsMadeFor

/-- **The identity is protected.** However an envelope that was made for a schema is changed, by
calls that succeed or fail, its request has the type and the id with which it was made. It goes to
the index of the last known alias, or else to that of the schema, and to the indices that were added
since; the target is a list exactly if there are any. A protected parameter and an unknown alias are
refused at any time, which changes nothing; all other calls succeed. -/
theorem identity_protected (schema : Schema) (made : Envelope) (h : made.IsMadeFor schema)
    (calls : List Call) :
    let last := Call.afterAll made calls
    let base := (Call.lastTurn? calls).getD schema.indexName
    let indices := (Call.sinceTurn calls).flatMap Call.added
    last.toObject.get? "type" = made.docType.map .string ∧
    last.toObject.get? "id" = made.id.map .string ∧
    last.target.names = base :: indices ∧
    last.toObject.get? "index" =
      some (if indices = [] then .string base else .ofStrings (base :: indices)) ∧
    (∀ call cause, Call.refusal? call = some cause →
      call.outcome last = .error (.configuration cause) ∧ call.after last = last) ∧
    ∀ call, Call.refusal? call = none → call.outcome last = .ok (call.after last) := by
  intro last base indices
  obtain ⟨hguards, htarget⟩ := h.afterAll calls
  have hkey : ∀ key, isProtected key = true → last.toObject.get? key = last.identity.get? key :=
    fun key hkey ↦ get?_toObject_of_isProtected hkey (hguards.params key hkey)
  refine ⟨?_, ?_, ?_, ?_, fun call cause ↦ Call.outcome_of_refused last,
    fun call ↦ Call.outcome_of_not_refused last⟩
  · rw [hkey "type" rfl, get?_identity_type, hguards.docType_eq]
  · rw [hkey "id" rfl, get?_identity_id, hguards.id_eq]
  · rw [htarget, Target.names_led]
  · rw [hkey "index" rfl, get?_identity_index, htarget, Target.render_led]

/-- Users with an index to write to. -/
def aliasedUsers : Schema :=
  { Schema.ofTable "users" with aliases := .single "write" "users_write" }

/-- The alias lets go of the index added before it; the other two unions are kept, duplicates
included. The calls on `id` and on the alias `read` fail. -/
theorem identity_protected_aliasedUsers :
    ∃ made, forDocument aliasedUsers (some "7") = .ok made ∧
      let last := Call.afterAll made
        [.addUnions ["old_index"], .setParam "id" (.ofNat 8), .useAlias aliasedUsers "write",
          .addUnions ["a_index", "b_index"], .useAlias aliasedUsers "read", .addUnions [],
          .setParam "client" (.string "x"), .setClient "id" (.ofNat 9), .addUnions ["a_index"]]
      last.toObject.get? "type" = some (.string "users") ∧
      last.toObject.get? "id" = some (.string "7") ∧
      last.toObject.get? "index" =
        some (.ofStrings ["users_write", "a_index", "b_index", "a_index"]) ∧
      (Call.setParam "index" .null).outcome last =
        .error (.configuration (.protectedKey "index")) := by
  refine ⟨_, rfl, ?_⟩
  intro last
  obtain ⟨htype, hid, -, hindex, hrefused, -⟩ :=
    identity_protected aliasedUsers _ (@IsMadeFor.forDocument _ (some "7") _ rfl) _
  exact ⟨htype, hid, hindex.trans (by decide +kernel), (hrefused (.setParam "index" .null) _ rfl).1⟩

end Envelope

end RecordSearch
