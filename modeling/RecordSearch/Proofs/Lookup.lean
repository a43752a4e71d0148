import RecordSearch.Engine.Expand
import RecordSearch.Proofs.EveryMatch
import RecordSearch.Proofs.Related
import RecordSearch.Proofs.Totals
/-!
# Which record a look-up by id returns

A look-up asks for the documents whose key contains the id, limited to one. Among texts, containing
is wider than being equal: the key `10` contains the id `1`. So a look-up returns the record of the
first kept document whose key contains the id (`find_runOn`), and the record cache remembers it
under the id. `Schema.FindsExactly` says of an id that this first document is the one of that id. It
holds of all integers, and of a text that is contained in no other key.

Against any backend, `Schema.expand_runOn_of_get` and `Schema.expanded_runOn` say what is asked and
what is remembered. Records that are fetched by `Schema.expand` are remembered under their own keys,
so they are never remembered wrongly. `lookups_exact_iff` puts this together for runs of look-ups.
-/

namespace RecordSearch

/-- Loosely equal values have the same text, floats aside. -/
theorem scalarText?_eq_of_looselyEqual {value wanted : Json}
    (h : looselyEqual (some value) wanted = true) (hfloat : ∀ x, wanted ≠ .ofBinary64 x) :
    value.scalarText? = wanted.scalarText? := by
  rw [looselyEqual, Bool.or_eq_true] at h
  rcases h with hsame | htext
  · exact Json.scalarText?_eq_of_same hsame hfloat
  · rw [sameScalarText] at htext
    split at htext
    · next x y hx hy => rw [hx, hy, beq_iff_eq.1 htext]
    · exact absurd htext Bool.false_ne_true

/-! ### Plain queries with one more condition -/

namespace Query

theorem isPlain_schema_query (schema : Schema) : schema.query.IsPlain := by
  rw [Schema.query]
  split <;> exact ⟨⟨rfl, rfl⟩, rfl, rfl, rfl, rfl, rfl, rfl⟩

namespace IsPlain

variable {query : Query} (h : query.IsPlain) {store : Store}
include h

theorem push (bucket : Bucket) (node : Node) : (query.push bucket node).IsPlain :=
  ⟨⟨h.freeText_eq_none, h.callback_eq_none⟩, h.offset_eq_none, h.limit_eq_none, h.unions_eq_nil,
    h.aliasName_eq_none, h.groups_eq_empty, h.loads_eq_nil⟩

/-- A limited plain query reads the records of the first accepted documents, if these have keys. -/
theorem get_take_runOn (hcast : query.schema.cast = none) (hkeyed : store.KeyedBy query.schema)
    (hidle : Store.Idle store.searchAnswers query.schema.indexName) (count : Nat) :
    ∃ mapped request, (query.take count).get.runOn Store.backend store =
        (.ok mapped, store.noting .search request) ∧
      mapped.toRecords = ((query.accepted store query.schema.indexName).take count).map
        (Found.record · query.schema) := by
  have hfilter : (query.take count).IsFilter := ⟨h.freeText_eq_none, h.callback_eq_none⟩
  have hbase : (query.take count).baseIndex? = .ok query.schema.indexName := h.baseIndex?_eq
  have hloads : (query.take count).loads = [] := h.loads_eq_nil
  have hgroups : (query.take count).criteria.groups.isEmpty = true :=
    Dict.isEmpty_iff.2 h.groups_eq_empty
  have hunions : (query.take count).criteria.unions = [] := h.unions_eq_nil
  have hshown : (query.take count).shown store query.schema.indexName =
      (query.accepted store query.schema.indexName).take count := by
    rw [shown, show (query.take count).criteria.offset = none from h.offset_eq_none]
    rfl
  refine ⟨_, _, get_runOn_eq hfilter hloads hbase hidle, ?_⟩
  rw [toRecords_map_storeResponse, recordsFound, if_pos hgroups, hshown, hunions,
    ← List.filterMap_eq_map]
  refine List.filterMap_congr fun found hfound ↦ ?_
  have hmem := h.mem_documentsOf_of_mem_accepted (List.mem_of_mem_take hfound)
  exact Found.record?_hit_of_keyText hcast (Store.keyedBy_iff.1 hkeyed found hmem)

end IsPlain

end Query

/-! ### The look-up -/

namespace Schema

variable (schema : Schema) (store : Store)

/-- The documents that a look-up of an id comes upon, in the order of their ids: of those that are
not marked as deleted, the ones whose key contains the id, or has its text if one of the two is no
text. -/
def candidates (id : Json) : List Found :=
  (schema.query.accepted store schema.indexName).filter fun found ↦
    containsText (found.source.field? schema.keyName) id

/-- The first document that a look-up of an id comes upon, if there is any, is that of the id. -/
def FindsExactly (id : Json) : Prop :=
  ∀ found, (schema.candidates store id).head? = some found → id.scalarText? = some found.id

/-- What the look-up of exact ids needs of schema and store. -/
structure LooksUp : Prop where
  /-- The schema changes no record. -/
  cast_eq_none : schema.cast = none
  /-- The name of the key is the name of a field. -/
  plain : ∀ c ∈ ['.', '/', '~'], c ∉ schema.keyName.toList
  /-- The documents are stored under the texts of their keys. -/
  keyedBy : store.KeyedBy schema
  /-- No answer waits for a search. -/
  idle : Store.Idle store.searchAnswers schema.indexName

variable {schema} {store} (h : schema.LooksUp store)
include h

theorem LooksUp.keyText?_of_mem_accepted {found : Found}
    (hfound : found ∈ schema.query.accepted store schema.indexName) :
    schema.keyText? found.source = some found.id := by
  have hmem := (Query.isPlain_schema_query schema).mem_documentsOf_of_mem_accepted hfound
  exact Store.keyedBy_iff.1 h.keyedBy found hmem

/-- The query of a look-up accepts the candidates. -/
theorem LooksUp.accepted_eq_candidates (id : Json) :
    (schema.query.push .must (.leaf (.contains schema.keyName id))).accepted store
      schema.indexName = schema.candidates store id := by
  rw [Query.accepted_push_must, candidates]
  refine List.filter_congr fun found hfound ↦ ?_
  obtain ⟨value, hvalue, -⟩ := Option.bind_eq_some_iff.1 (h.keyText?_of_mem_accepted hfound)
  show containsText (documentField found.source schema.keyName) id = _
  rw [documentField_of_plain h.plain hvalue, hvalue]

/-- A limited query with one condition reads the records of the first documents that it accepts. -/
theorem LooksUp.get_take_runOn (node : Node) (count : Nat) :
    ∃ mapped request, ((schema.query.push .must node).take count).get.runOn Store.backend store =
        (.ok mapped, store.noting .search request) ∧
      mapped.toRecords = (((schema.query.push .must node).accepted store schema.indexName).take
        count).map (Found.record · schema) := by
  have hschema : (schema.query.push .must node).schema = schema := by
    rw [Query.schema_push, Schema.schema_query]
  have hplain := (Query.isPlain_schema_query schema).push .must node
  have hrun := @Query.IsPlain.get_take_runOn _ hplain store
  rw [hschema] at hrun
  exact hrun h.cast_eq_none h.keyedBy h.idle count

/-- **The law of a look-up.** It returns the record of the first candidate, and only writes its
request down. -/
theorem LooksUp.find_runOn (id : Json) :
    ∃ request, (schema.find id).runOn Store.backend store =
      (.ok ((schema.candidates store id).head?.map (Found.record · schema)),
        store.noting .search request) := by
  obtain ⟨mapped, request, hrun, hrecords⟩ :=
    h.get_take_runOn (.leaf (.contains schema.keyName id)) 1
  refine ⟨request, (Fetch.runOn_bind_of_ok hrun).trans ?_⟩
  rw [Fetch.runOn_pure, hrecords, h.accepted_eq_candidates, List.head?_map, List.head?_take]
  rfl

/-- The id of a candidate is the text of the id looked up, or contains it. -/
theorem LooksUp.of_mem_candidates {id : Json} (hfloat : ∀ x, id ≠ .ofBinary64 x) {found : Found}
    (hfound : found ∈ schema.candidates store id) :
    id.scalarText? = some found.id ∨
      ∃ text, id = .string text ∧ Text.containsLowered found.id text = true := by
  obtain ⟨haccepted, hcontains⟩ := List.mem_filter.1 hfound
  obtain ⟨value, hvalue, htext⟩ := Option.bind_eq_some_iff.1 (h.keyText?_of_mem_accepted haccepted)
  rw [hvalue] at hcontains
  unfold containsText at hcontains
  split at hcontains
  · next key text heq =>
    obtain rfl := Option.some.inj heq
    rw [← Option.some.inj htext]
    exact .inr ⟨text, rfl, hcontains⟩
  · exact .inl ((scalarText?_eq_of_looselyEqual hcontains hfloat).symm.trans htext)

end Schema

/-! ### Prefetches and remembered look-ups -/

namespace Schema

variable {σ : Type} (schema : Schema)

/-- The records that a prefetch finds; it finds none if it fails or is asked for nothing. -/
def prefetched (backend : Backend σ) (ids : List Json) (state : σ) : List Record :=
  if ids.isEmpty then []
  else
    match ((schema.expandQuery ids).get.runOn backend state).1 with
    | .ok mapped => mapped.toRecords
    | .error _ => []

/-- A prefetch of some ids counts what its query finds and remembers it. -/
theorem expand_runOn_of_get {backend : Backend σ} {ids : List Json} (hids : ids.isEmpty = false)
    {state after : σ} {outcome : Except Error Mapped}
    (hget : (schema.expandQuery ids).get.runOn backend state = (outcome, after)) (caches : Caches) :
    (schema.expand ids).runOn backend caches state =
      ((outcome.map fun mapped ↦ mapped.toRecords.length,
        { caches with
          records := schema.remember (schema.prefetched backend ids state) caches.records }),
        after) := by
  rw [expand, prefetched, hids, if_neg Bool.false_ne_true, if_neg Bool.false_ne_true,
    Job.runOn_bind, Job.runOn_ofFetch, hget]
  cases outcome with
  | error e => rfl
  | ok mapped => rfl

/-- A look-up answers from what is remembered for the text of the id. Only if that is nothing, the
record is looked for, and what is found is remembered. -/
theorem expanded_runOn (backend : Backend σ) {id : Json} {key : String}
    (hkey : id.scalarText? = some key) (caches : Caches) (state : σ) :
    (schema.expanded id).runOn backend caches state =
      match caches.records.get? schema.table key with
      | some known => ((.ok known, caches), state)
      | none =>
        match (schema.find id).runOn backend state with
        | (.ok found, after) =>
          ((.ok found,
            { caches with records := caches.records.insert schema.table key found }), after)
        | (.error e, after) => ((.error e, caches), after) := by
  rw [expanded, hkey]
  dsimp only
  rw [Job.runOn_bind_of_ok (Job.runOn_get _ _ _)]
  cases caches.records.get? schema.table key with
  | some known => rfl
  | none =>
    dsimp only
    rw [Job.runOn_bind, Job.runOn_ofFetch]
    rcases (schema.find id).runOn backend state with ⟨e | found, after⟩
    · rfl
    · rfl

end Schema

/-! ### Exact memories -/

/-- Every remembered record has the id for its key. -/
def RecordCache.IsExact (cache : RecordCache) : Prop :=
  ∀ table id record, cache.get? table id = some (some record) → record.key? = some id

namespace RecordCache

theorem isExact_empty : IsExact {} :=
  fun _ _ _ h ↦ absurd h nofun

theorem IsExact.insert {cache : RecordCache} (h : cache.IsExact) (table : String) {id : String}
    {record : Option Record} (hrecord : ∀ known, record = some known → known.key? = some id) :
    (cache.insert table id record).IsExact := by
  intro other otherId known hknown
  rw [get?_insert] at hknown
  split at hknown
  · next heq =>
    rw [← heq.2]
    exact hrecord known (Option.some.inj hknown)
  · exact h other otherId known hknown

/-- Records are remembered under their own keys. -/
theorem IsExact.remember {cache : RecordCache} (h : cache.IsExact) (schema : Schema)
    (records : List Record) : (schema.remember records cache).IsExact := by
  induction records generalizing cache with
  | nil => exact h
  | cons record rest ih =>
    refine ih ?_
    dsimp only
    cases hkey : record.key? with
    | none => exact h
    | some key =>
      refine h.insert schema.table fun known hknown ↦ ?_
      rw [← Option.some.inj hknown, hkey]

end RecordCache

/-! ### Runs of look-ups -/

/-- One look-up by id. -/
inductive Lookup where
  /-- Look a record up. -/
  | find (id : Json)
  /-- Look a record up, and remember it. -/
  | expanded (id : Json)
  /-- Remember the records of some ids. -/
  | expand (ids : List Json)

namespace Lookup

/-- The id of the record that is returned. -/
def id? : Lookup → Option Json
  | find id => some id
  | expanded id => some id
  | expand _ => none

/-- The look-up among the records of a schema. -/
def job (schema : Schema) : Lookup → Job (Option Record)
  | find id => Job.ofFetch (schema.find id)
  | expanded id => schema.expanded id
  | expand ids => schema.expand ids >>= fun _ ↦ pure none

/-- Make look-ups in order. The result is the log of the look-ups with their outcomes, and what is
remembered afterwards. -/
def runAll (schema : Schema) :
    List Lookup → Caches → Store → List (Lookup × Except Error (Option Record)) × Caches
  | [], caches, _ => ([], caches)
  | lookup :: rest, caches, store =>
    let ((outcome, changed), after) := (lookup.job schema).runOn Store.backend caches store
    let (log, last) := runAll schema rest changed after
    ((lookup, outcome) :: log, last)

/-- The record that a look-up returned, if any, has the id for its key. -/
def IsExact (done : Lookup × Except Error (Option Record)) : Prop :=
  ∀ record, done.2 = .ok (some record) → record.key? = done.1.id?.bind Json.scalarText?

variable {schema : Schema} {store : Store} {caches : Caches}

theorem of_find (h : schema.LooksUp store) {id : Json} (hid : schema.FindsExactly store id)
    {record : Record}
    (hrecord : (schema.candidates store id).head?.map (Found.record · schema) = some record) :
    record.key? = id.scalarText? := by
  obtain ⟨found, hfound, rfl⟩ := Option.map_eq_some_iff.1 hrecord
  have hmem := (List.mem_filter.1 (List.mem_of_mem_head? hfound)).1
  rw [Found.key?_record, h.keyText?_of_mem_accepted hmem, hid found hfound]

/-- Made with the given memory, the look-up returns an exact record if any, and what is remembered
afterwards is exact; the store only writes requests down. -/
def RunsExactly (schema : Schema) (lookup : Lookup) (caches : Caches) (store : Store) : Prop :=
  ∃ outcome changed after,
    (lookup.job schema).runOn Store.backend caches store = ((outcome, changed), after) ∧
      IsExact (lookup, outcome) ∧ changed.records.IsExact ∧ store.Logs after

section Exact

variable (h : schema.LooksUp store) (hcaches : caches.records.IsExact)
include h hcaches

theorem runsExactly_find {id : Json} (hid : schema.FindsExactly store id) :
    RunsExactly schema (find id) caches store := by
  obtain ⟨request, hrun⟩ := h.find_runOn id
  have hjob : (find id).job schema = Job.ofFetch (schema.find id) := rfl
  rw [RunsExactly, hjob, Job.runOn_ofFetch, hrun]
  refine ⟨_, _, _, rfl, fun record hrecord ↦ ?_, hcaches, _, rfl⟩
  exact of_find h hid (Except.ok.inj hrecord)

theorem runsExactly_expanded {id : Json} (hid : schema.FindsExactly store id) :
    RunsExactly schema (expanded id) caches store := by
  have hjob : (expanded id).job schema = schema.expanded id := rfl
  rw [RunsExactly, hjob]
  cases htext : id.scalarText? with
  | none =>
    rw [Schema.expanded, htext]
    exact ⟨_, _, _, rfl, fun _ hrecord ↦ absurd hrecord nofun, hcaches, _, rfl⟩
  | some text =>
    rw [schema.expanded_runOn Store.backend htext]
    cases hknown : caches.records.get? schema.table text with
    | some known =>
      -- What is remembered for the id is exact already.
      refine ⟨_, _, _, rfl, fun record hrecord ↦ ?_, hcaches, _, rfl⟩
      obtain rfl : known = some record := Except.ok.inj hrecord
      exact (hcaches _ _ _ hknown).trans htext.symm
    | none =>
      obtain ⟨request, hrun⟩ := h.find_runOn id
      rw [hrun]
      refine ⟨_, _, _, rfl, fun record hrecord ↦ ?_, ?_, _, rfl⟩
      · exact of_find h hid (Except.ok.inj hrecord)
      · exact hcaches.insert schema.table fun known hfound ↦ (of_find h hid hfound).trans htext

theorem runsExactly_expand (ids : List Json) : RunsExactly schema (expand ids) caches store := by
  obtain ⟨mapped, request, hrun, -⟩ : ∃ mapped request,
      (schema.expandQuery ids).get.runOn Store.backend store =
        (.ok mapped, store.noting .search request) ∧ _ :=
    h.get_take_runOn (.leaf (.terms schema.keyName ids)) ids.length
  have hjob : (expand ids).job schema = schema.expand ids >>= fun _ ↦ pure none := rfl
  rw [RunsExactly, hjob]
  cases hids : ids.isEmpty with
  | true =>
    rw [Schema.expand, hids]
    exact ⟨_, _, _, rfl, fun _ hrecord ↦ absurd hrecord nofun, hcaches, _, rfl⟩
  | false =>
    rw [Job.runOn_bind, schema.expand_runOn_of_get hids hrun]
    exact ⟨_, _, _, rfl, fun _ hrecord ↦ absurd hrecord nofun, hcaches.remember schema _, _, rfl⟩

/-- A look-up with an exact memory runs exactly if it finds exactly. -/
theorem runsExactly (lookup : Lookup) (hid : ∀ id ∈ lookup.id?, schema.FindsExactly store id) :
    RunsExactly schema lookup caches store := by
  cases lookup with
  | find id => exact runsExactly_find h hcaches (hid id rfl)
  | expanded id => exact runsExactly_expanded h hcaches (hid id rfl)
  | expand ids => exact runsExactly_expand h hcaches ids

end Exact

/-- Look-ups that find exactly return exact records, and only such are remembered. -/
theorem runAll_exact (h : schema.LooksUp store) {lookups : List Lookup}
    (hids : ∀ lookup ∈ lookups, ∀ id ∈ lookup.id?, schema.FindsExactly store id)
    (hcaches : caches.records.IsExact) :
    (∀ done ∈ (runAll schema lookups caches store).1, IsExact done) ∧
      (runAll schema lookups caches store).2.records.IsExact := by
  -- The requests written down by one look-up are nothing to the next one.
  induction lookups generalizing caches store with
  | nil => exact ⟨fun _ hdone ↦ absurd hdone List.not_mem_nil, hcaches⟩
  | cons lookup rest ih =>
    obtain ⟨hid, hrest⟩ := List.forall_mem_cons.1 hids
    obtain ⟨outcome, changed, _, hrun, hexact, hchanged, requests, rfl⟩ :=
      runsExactly h hcaches lookup hid
    have hlater : schema.LooksUp { store with requests := requests } :=
      ⟨h.cast_eq_none, h.plain, h.keyedBy, h.idle⟩
    obtain ⟨hlog, hlast⟩ := ih hlater hrest hchanged
    rw [runAll, hrun]
    exact ⟨List.forall_mem_cons.2 ⟨hexact, hlog⟩, hlast⟩

end Lookup

/-- **When look-ups are exact.** From an empty record cache on, every run of look-ups that returns
records of some ids only, and prefetches whatever it likes, returns and remembers records under
their own keys only, exactly if for each of these ids the first document that a look-up comes upon
is that of the id. It is for every integer, and for every text that no kept id contains, letter case
aside, but the text itself. -/
theorem lookups_exact_iff (schema : Schema) (store : Store) (h : schema.LooksUp store)
    (memo : MappingMemo) (ids : List Json) :
    ((∀ lookups : List Lookup, (∀ lookup ∈ lookups, ∀ id ∈ lookup.id?, id ∈ ids) →
      let run := Lookup.runAll schema lookups { memo := memo } store
      (∀ done ∈ run.1, Lookup.IsExact done) ∧ run.2.records.IsExact) ↔
        ∀ id ∈ ids, schema.FindsExactly store id) ∧
    (∀ n, schema.FindsExactly store (.number (.int n))) ∧
    ∀ text, (∀ found ∈ schema.query.accepted store schema.indexName,
      Text.containsLowered found.id text = true → found.id = text) →
        schema.FindsExactly store (.string text) := by
  refine ⟨⟨fun hexact id hid found hfound ↦ ?_, fun hids lookups hlookups ↦ ?_⟩, fun n ↦ ?_,
    fun text htext ↦ ?_⟩
  · have hlookup : ∀ lookup ∈ [Lookup.find id], ∀ other ∈ lookup.id?, other ∈ ids := by
      intro lookup hmem other hother
      rw [List.mem_singleton.1 hmem] at hother
      exact Option.some.inj hother ▸ hid
    obtain ⟨hlog, -⟩ := hexact [.find id] hlookup
    obtain ⟨request, hrun⟩ := h.find_runOn id
    have hjob : (Lookup.find id).job schema = Job.ofFetch (schema.find id) := rfl
    rw [hfound] at hrun
    rw [Lookup.runAll, hjob, Job.runOn_ofFetch, hrun] at hlog
    have hkey := hlog _ List.mem_cons_self (found.record schema) rfl
    have hmem := (List.mem_filter.1 (List.mem_of_mem_head? hfound)).1
    rw [Found.key?_record, h.keyText?_of_mem_accepted hmem] at hkey
    exact hkey.symm
  · refine Lookup.runAll_exact h (fun lookup hlookup id hid ↦ ?_) RecordCache.isExact_empty
    exact hids id (hlookups lookup hlookup id hid)
  · intro found hfound
    have hfloat : ∀ x, Json.number (.int n) ≠ .ofBinary64 x := fun x ↦ by simp [Json.ofBinary64]
    rcases h.of_mem_candidates hfloat (List.mem_of_mem_head? hfound) with hsame | ⟨text, heq, -⟩
    · exact hsame
    · exact absurd heq nofun
  · intro found hfound
    have hmem := List.mem_of_mem_head? hfound
    have hfloat : ∀ x, Json.string text ≠ .ofBinary64 x := fun x ↦ by simp [Json.ofBinary64]
    rcases h.of_mem_candidates hfloat hmem with hsame | ⟨other, heq, hcontains⟩
    · exact hsame
    · obtain rfl := Json.string.inj heq
      rw [htext found (List.mem_filter.1 hmem).1 hcontains]
      rfl

/-- Ids of a table with the defaults can be looked up exactly as soon as its documents are keyed. -/
theorem looksUp_ofTable {table : String} {store : Store} (hkeyed : store.KeyedBy (.ofTable table))
    (hidle : Store.Idle store.searchAnswers (Schema.ofTable table).indexName) :
    (Schema.ofTable table).LooksUp store where
  cast_eq_none := rfl
  plain := by
    show ∀ c ∈ ['.', '/', '~'], c ∉ "id".toList
    simp
  keyedBy := hkeyed
  idle := hidle

/-- Users with two texts and a number for their keys. -/
def keyedUsers : Store :=
  ((({} : Store).put "users_index" "a" (.single "id" (.string "a"))).put "users_index" "ab"
    (.single "id" (.string "ab"))).put "users_index" "7" (.single "id" (.ofNat 7))

/-- The user `a` is found by the text, although the id of another one contains it too, and the user
`7` by the number; what is remembered is exact. -/
theorem lookups_exact_keyedUsers :
    (Schema.ofTable "users").LooksUp keyedUsers ∧
      let run := Lookup.runAll (.ofTable "users")
        [.expanded (.string "a"), .expand [.string "ab"], .find (.ofNat 7)] {} keyedUsers
      (∀ done ∈ run.1, Lookup.IsExact done) ∧ run.2.records.IsExact := by
  have hlooksUp : (Schema.ofTable "users").LooksUp keyedUsers :=
    looksUp_ofTable (Store.keyedBy_iff.2 (by decide +kernel)) rfl
  obtain ⟨hiff, hint, -⟩ := lookups_exact_iff (.ofTable "users") keyedUsers hlooksUp {}
    [.string "a", .ofNat 7]
  refine ⟨hlooksUp, hiff.2 ?_ _ ?_⟩
  · intro id hid
    rcases List.mem_cons.1 hid with rfl | hid
    · have hfirst : ((Schema.ofTable "users").candidates keyedUsers (.string "a")).head?.map
          Found.id = some "a" := by
        decide +kernel
      intro found hfound
      rw [hfound] at hfirst
      exact hfirst.symm
    · rw [List.mem_singleton.1 hid]
      exact hint 7
  · simp [Lookup.id?]

/-- The user `10` is found by the text `1`, and remembered under it. -/
theorem expanded_remembers_other :
    let store := ({} : Store).put "users_index" "10" (.single "id" (.string "10"))
    (Schema.ofTable "users").LooksUp store ∧
      let run := Lookup.runAll (.ofTable "users") [.expanded (.string "1")] {} store
      run.1.map (fun done ↦ (done.1.id?, done.2.toOption.join.bind Record.key?)) =
          [(some (.string "1"), some "10")] ∧
        (run.2.records.get? "users" "1").join.bind Record.key? = some "10" ∧
        ¬(∀ done ∈ run.1, Lookup.IsExact done) ∧ ¬run.2.records.IsExact := by
  intro store
  have hlooksUp : (Schema.ofTable "users").LooksUp store :=
    looksUp_ofTable (Store.keyedBy_iff.2 (by decide +kernel)) rfl
  refine ⟨hlooksUp, ?_⟩
  intro run
  have hreturned : run.1.map (fun done ↦ (done.1.id?, done.2.toOption.join.bind Record.key?)) =
      [(some (.string "1"), some "10")] := by
    decide +kernel
  have hremembered : (run.2.records.get? "users" "1").join.bind Record.key? = some "10" := by
    decide +kernel
  refine ⟨hreturned, hremembered, ?_, ?_⟩
  · intro hexact
    obtain ⟨done, hdone, heq⟩ := List.map_eq_singleton_iff.1 hreturned
    obtain ⟨hid, hkey⟩ := Prod.mk.inj heq
    obtain ⟨record, hrecord, hkey⟩ := Option.bind_eq_some_iff.1 hkey
    have hok : done.2 = .ok (some record) := by
      cases houtcome : done.2 with
      | error e => rw [houtcome] at hrecord; exact absurd hrecord nofun
      | ok found =>
        rw [houtcome] at hrecord
        exact congrArg Except.ok (Option.join_eq_some_iff.1 hrecord |> Option.some.inj)
    have hsame := hexact done (hdone ▸ List.mem_cons_self) record hok
    rw [hid, hkey] at hsame
    exact absurd hsame (by decide)
  · intro hexact
    obtain ⟨record, hrecord, hkey⟩ := Option.bind_eq_some_iff.1 hremembered
    rw [hexact "users" "1" record (Option.join_eq_some_iff.1 hrecord)] at hkey
    exact absurd hkey (by decide)

end RecordSearch
