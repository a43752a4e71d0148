import Mathlib.Data.List.Induction
import RecordSearch.Proofs.Batches
import RecordSearch.Proofs.Lookup
import RecordSearch.Proofs.Memo
/-!
# What is remembered of a record

Three things are written into a record cache by the operations of an engine: what a prefetch finds,
what a look-up finds, and that a look-up finds nothing. A prefetch writes over what is there
(`Schema.get?_remember`), a look-up does not, for it asks only for an id of which nothing is
remembered (`Schema.expanded_runOn`), and all other operations leave the cache alone
(`Job.KeepsRecords`).

So one use of a cache keeps what is remembered for an id unless it replaces it
(`CacheUse.get?_run_of_not_replaces`), and so does a run of uses, by induction.
`Schema.expanded_stable_until_replaced` says what this comes to for the answers.
-/

namespace RecordSearch

variable {α β σ : Type}

/-- What a job leaves behind does not depend on what is done with its result. -/
theorem Job.caches_bind_pure (backend : Backend σ) (job : Job α) (b : β) (caches : Caches)
    (state : σ) :
    ((job >>= fun _ ↦ pure b).runOn backend caches state).1.2 =
      (job.runOn backend caches state).1.2 := by
  rw [runOn_bind]
  rcases job.runOn backend caches state with ⟨⟨e | a, changed⟩, after⟩
  · rfl
  · rfl

/-! ### Prefetches and look-ups -/

namespace Schema

variable (schema : Schema)

/-- After records were remembered, the last one of them with the key is remembered for an id of the
schema's table, and else what was remembered before. -/
theorem get?_remember (records : List Record) (cache : RecordCache) (table key : String) :
    (schema.remember records cache).get? table key =
      ((records.reverse.find? fun record ↦
        schema.table = table ∧ record.key? = some key).map some).or (cache.get? table key) := by
  induction records using List.reverseRecOn with
  | nil => rfl
  | append_singleton records record ih =>
    rw [remember, List.foldl_concat, ← remember, List.reverse_append, List.reverse_singleton,
      List.singleton_append, List.find?_cons]
    cases hkey : record.key? with
    | none => simpa using ih
    | some text =>
      dsimp only
      rw [RecordCache.get?_insert]
      by_cases h : schema.table = table ∧ text = key
      · simp [h]
      · rw [if_neg h, ih]
        simp [h]

/-- A prefetch remembers what it finds. -/
theorem caches_expand (backend : Backend σ) (ids : List Json) (caches : Caches) (state : σ) :
    ((schema.expand ids).runOn backend caches state).1.2 =
      { caches with
        records := schema.remember (schema.prefetched backend ids state) caches.records } := by
  cases hids : ids.isEmpty with
  | true => rw [expand, prefetched, hids]; rfl
  | false => rw [schema.expand_runOn_of_get hids rfl]

section Known

variable {table key : String} {known : Option Record} {caches : Caches}
  (hknown : caches.records.get? table key = some known) (backend : Backend σ) (state : σ)
include hknown

/-- A prefetch writes over what is remembered only if it finds a record with the key. -/
theorem get?_expand {ids : List Json}
    (hkeeps : ¬(schema.table = table ∧
      some key ∈ (schema.prefetched backend ids state).map Record.key?)) :
    ((schema.expand ids).runOn backend caches state).1.2.records.get? table key = some known := by
  have hnone : ((schema.prefetched backend ids state).reverse.find? fun record ↦
      schema.table = table ∧ record.key? = some key) = none := by
    refine List.find?_eq_none.2 fun record hrecord hfound ↦ ?_
    obtain ⟨htable, hkey⟩ := of_decide_eq_true hfound
    exact hkeeps ⟨htable, List.mem_map.2 ⟨record, List.mem_reverse.1 hrecord, hkey⟩⟩
  rw [caches_expand, get?_remember, hnone]
  exact hknown

/-- A look-up does not write over what is remembered. -/
theorem get?_expanded (id : Json) :
    ((schema.expanded id).runOn backend caches state).1.2.records.get? table key = some known := by
  cases htext : id.scalarText? with
  | none =>
    rw [expanded, htext]
    exact hknown
  | some text =>
    rw [schema.expanded_runOn backend htext]
    cases hbefore : caches.records.get? schema.table text with
    | some other => exact hknown
    | none =>
      rcases (schema.find id).runOn backend state with ⟨e | found, after⟩
      · exact hknown
      · show (caches.records.insert schema.table text found).get? table key = _
        rw [RecordCache.get?_insert, if_neg, hknown]
        rintro ⟨rfl, rfl⟩
        exact Option.some_ne_none _ (hknown.symm.trans hbefore)

end Known

end Schema

/-! ### Operations that leave the cache alone -/

/-- Against the backend, the job leaves the remembered records as they are. -/
def Job.KeepsRecords (backend : Backend σ) (job : Job α) : Prop :=
  ∀ caches state, (job.runOn backend caches state).1.2.records = caches.records

namespace Job.KeepsRecords

variable {backend : Backend σ}

theorem pure (a : α) : (Pure.pure a : Job α).KeepsRecords backend :=
  fun _ _ ↦ rfl

theorem throw (e : Error) : (MonadExcept.throw e : Job α).KeepsRecords backend :=
  fun _ _ ↦ rfl

theorem ofFetch (fetch : Fetch α) : (Job.ofFetch fetch).KeepsRecords backend := by
  intro caches state
  rw [runOn_ofFetch]

theorem bind {job : Job α} {next : α → Job β} (h : job.KeepsRecords backend)
    (hnext : ∀ a, (next a).KeepsRecords backend) : (job >>= next).KeepsRecords backend := by
  intro caches state
  have hfirst := h caches state
  rw [runOn_bind]
  rcases hrun : job.runOn backend caches state with ⟨⟨e | a, between⟩, middle⟩
  · rw [hrun] at hfirst
    exact hfirst
  · rw [hrun] at hfirst
    exact (hnext a between middle).trans hfirst

end Job.KeepsRecords

namespace Engine

variable (engine : Engine) (backend : Backend σ)

theorem syncEntry_keepsRecords (entry : Entry) : (syncEntry entry).KeepsRecords backend := by
  intro caches state
  rw [syncEntry_runOn_eq]
  split
  · rfl
  · split <;> rfl

theorem syncAll_keepsRecords (entries : List Entry) : (syncAll entries).KeepsRecords backend := by
  induction entries with
  | nil => exact .pure _
  | cons entry rest ih => exact (syncEntry_keepsRecords backend entry).bind fun _ ↦ ih

theorem update_keepsRecords (entries : List Entry) :
    (engine.update entries).KeepsRecords backend := by
  rw [update]
  split
  · exact (syncAll_keepsRecords backend entries).bind fun _ ↦ .ofFetch _
  · exact .ofFetch _

theorem writeChunks_keepsRecords (source : EntrySource) (ids : Option (List String)) (offset : Nat)
    (report : ResyncReport) :
    (engine.writeChunks source ids offset report).KeepsRecords backend := by
  fun_induction engine.writeChunks source ids offset report with
  | case1 => exact .throw _
  | case2 => exact .pure _
  | case3 offset report entry rest hchunk ih =>
    refine (engine.update_keepsRecords backend _).bind fun written ↦ ?_
    dsimp only
    split
    · exact .pure _
    · exact ih written

theorem resync_keepsRecords (source : EntrySource) (ids : Option String) :
    (engine.resync source ids).KeepsRecords backend := by
  rw [resync]
  split
  · exact .throw _
  · exact engine.writeChunks_keepsRecords backend source _ 0 _

theorem updateMatching_keepsRecords (clock : Nat → String) (query : Query) (attributes : Object) :
    (engine.updateMatching clock query attributes).KeepsRecords backend := by
  rw [updateMatching]
  split
  · exact .pure _
  · exact (Job.KeepsRecords.ofFetch _).bind fun mapped ↦ engine.update_keepsRecords backend _

theorem deleteMatching_keepsRecords (query : Query) :
    (engine.deleteMatching query).KeepsRecords backend := by
  refine (Job.KeepsRecords.ofFetch _).bind fun mapped ↦ ?_
  split
  · exact .pure _
  · exact .ofFetch _

end Engine

/-! ### Uses of a record cache -/

/-- One use of a record cache that several engines share: an operation of an engine, against its own
backend and with its own memo, or a direct write, such as clearing it. -/
inductive CacheUse (σ : Type) where
  /-- An operation of an engine. -/
  | operation (backend : Backend σ) (engine : Engine) (memo : MappingMemo) (task : Task)
  /-- A direct write. -/
  | write (change : RecordCache → RecordCache)

namespace CacheUse

/-- The cache and the state of the backends after a use, whether it succeeds or fails. -/
def run : CacheUse σ → RecordCache → σ → RecordCache × σ
  | operation backend engine memo task, records, state =>
    let ((_, changed), after) :=
      (task.job engine).runOn backend { memo := memo, records := records } state
    (changed.records, after)
  | write change, records, state => (change records, state)

/-- The cache and the state of the backends after a run of uses. -/
def runAll : List (CacheUse σ) → RecordCache → σ → RecordCache × σ
  | [], records, state => (records, state)
  | use :: rest, records, state =>
    runAll rest (use.run records state).1 (use.run records state).2

/-- A use **replaces** what is remembered for an id if it is a prefetch for the table of the id that
finds a record with this key, or a direct write that changes it. -/
def Replaces (table key : String) (records : RecordCache) (state : σ) : CacheUse σ → Prop
  | operation backend _ _ (.expand schema ids) =>
    schema.table = table ∧ some key ∈ (schema.prefetched backend ids state).map Record.key?
  | operation _ _ _ _ => False
  | write change => (change records).get? table key ≠ records.get? table key

/-- No use of the run replaces what is remembered for the id. -/
def NoneReplaces (table key : String) : List (CacheUse σ) → RecordCache → σ → Prop
  | [], _, _ => True
  | use :: rest, records, state =>
    ¬use.Replaces table key records state ∧
      NoneReplaces table key rest (use.run records state).1 (use.run records state).2

variable {table key : String} {known : Option Record} {records : RecordCache}

/-- What is remembered stays remembered in a use that does not replace it. -/
theorem get?_run_of_not_replaces (hknown : records.get? table key = some known) (use : CacheUse σ)
    {state : σ} (hkeeps : ¬use.Replaces table key records state) :
    (use.run records state).1.get? table key = some known := by
  cases use with
  | write change => exact (not_ne_iff.1 hkeeps).trans hknown
  | operation backend engine memo task =>
    have hkept (hjob : (task.job engine).KeepsRecords backend) :
        ((operation backend engine memo task).run records state).1.get? table key = some known :=
      (congrArg (RecordCache.get? · table key) (hjob _ state)).trans hknown
    cases task with
    | update entries =>
      exact hkept ((engine.update_keepsRecords backend entries).bind fun _ ↦ .pure ())
    | delete entries => exact hkept ((Job.KeepsRecords.ofFetch _).bind fun _ ↦ .pure ())
    | updateMatching clock query attributes =>
      exact hkept ((engine.updateMatching_keepsRecords backend clock query attributes).bind
        fun _ ↦ .pure ())
    | deleteMatching query =>
      exact hkept ((engine.deleteMatching_keepsRecords backend query).bind fun _ ↦ .pure ())
    | resync source ids =>
      exact hkept ((engine.resync_keepsRecords backend source ids).bind fun _ ↦ .pure ())
    | ensureIndex schema => exact hkept ((Job.KeepsRecords.ofFetch _).bind fun _ ↦ .pure ())
    | read fetch => exact hkept ((Job.KeepsRecords.ofFetch fetch).bind fun _ ↦ .pure ())
    | expand schema ids =>
      show ((schema.expand ids >>= fun _ ↦ pure ()).runOn backend _ state).1.2.records.get? _ _ = _
      rw [Job.caches_bind_pure]
      exact schema.get?_expand hknown backend state hkeeps
    | expanded schema id =>
      show ((schema.expanded id >>= fun _ ↦ pure ()).runOn backend _ state).1.2.records.get? _ _ = _
      rw [Job.caches_bind_pure]
      exact schema.get?_expanded hknown backend state id

/-- What is remembered stays remembered in a run of uses none of which replaces it. -/
theorem get?_runAll (uses : List (CacheUse σ)) {state : σ}
    (hknown : records.get? table key = some known)
    (hkeeps : NoneReplaces table key uses records state) :
    (runAll uses records state).1.get? table key = some known := by
  induction uses generalizing records state with
  | nil => exact hknown
  | cons use rest ih => exact ih (get?_run_of_not_replaces hknown use hkeeps.1) hkeeps.2

end CacheUse

namespace Schema

variable {schema : Schema} {id : Json} {backend : Backend σ} {caches changed : Caches}
  {state after : σ}

/-- What a look-up returns is remembered for the text of its id. -/
theorem exists_get?_of_expanded {found : Option Record}
    (h : (schema.expanded id).runOn backend caches state = ((.ok found, changed), after)) :
    ∃ key, id.scalarText? = some key ∧
      changed.records.get? schema.table key = some found := by
  cases hkey : id.scalarText? with
  | none =>
    rw [expanded, hkey] at h
    cases h
  | some key =>
    refine ⟨key, rfl, ?_⟩
    rw [schema.expanded_runOn backend hkey] at h
    cases hknown : caches.records.get? schema.table key with
    | some known =>
      rw [hknown] at h
      cases h
      exact hknown
    | none =>
      rw [hknown] at h
      rcases hfind : (schema.find id).runOn backend state with ⟨e | record, last⟩
      · rw [hfind] at h
        cases h
      · rw [hfind] at h
        cases h
        rw [RecordCache.get?_insert, if_pos ⟨rfl, rfl⟩]

/-- A look-up that fails leaves what is remembered as it is. -/
theorem caches_of_expanded_eq_error {e : Error}
    (h : (schema.expanded id).runOn backend caches state = ((.error e, changed), after)) :
    changed = caches := by
  cases hkey : id.scalarText? with
  | none =>
    rw [expanded, hkey] at h
    cases h
    rfl
  | some key =>
    rw [schema.expanded_runOn backend hkey] at h
    cases hknown : caches.records.get? schema.table key with
    | some known =>
      rw [hknown] at h
      cases h
    | none =>
      rw [hknown] at h
      rcases hfind : (schema.find id).runOn backend state with ⟨e' | record, last⟩
      · rw [hfind] at h
        cases h
        rfl
      · rw [hfind] at h
        cases h

/-- **Answers are stable until they are replaced.** Let a look-up of an id have returned a record or
none, and let the cache be used in any way that replaces nothing for the id, by any operations of
engines that share it. A look-up of an id with the same text by a schema of the same table, through
any backend, then returns the same, remembers the same and asks nothing. A look-up that fails leaves
what is remembered as it is. -/
theorem expanded_stable_until_replaced (schema : Schema) (id : Json) (backend : Backend σ)
    (caches changed : Caches) (state after : σ) :
    (∀ found, (schema.expanded id).runOn backend caches state = ((.ok found, changed), after) →
      ∃ key, id.scalarText? = some key ∧
        ∀ uses : List (CacheUse σ),
          CacheUse.NoneReplaces schema.table key uses changed.records after →
          let last := CacheUse.runAll uses changed.records after
          ∀ (other : Schema) (again : Json) (asked : Backend σ) (memo : MappingMemo)
            (log : List (Operation × Json)),
            other.table = schema.table → again.scalarText? = some key →
            (other.expanded again).runOn asked.logged { memo := memo, records := last.1 }
                (last.2, log) =
              ((.ok found, { memo := memo, records := last.1 }), (last.2, log))) ∧
    ∀ e, (schema.expanded id).runOn backend caches state = ((.error e, changed), after) →
      changed = caches := by
  refine ⟨fun found h ↦ ?_, fun e ↦ caches_of_expanded_eq_error⟩
  obtain ⟨key, hkey, hfound⟩ := exists_get?_of_expanded h
  refine ⟨key, hkey, fun uses hkeeps ↦ ?_⟩
  intro last other again asked memo log htable hagain
  have hlast : last.1.get? schema.table key = some found := CacheUse.get?_runAll uses hfound hkeeps
  rw [other.expanded_runOn asked.logged hagain, htable, hlast]

/-- The user `7` is deleted, a user `8` is written, the user `a` is prefetched among the users and
`7` among the posts, and a miss is written for the user `9`. -/
def busyUses : List (CacheUse Store) :=
  let users := Schema.ofTable "users"
  let user (id : String) : Entry :=
    { schema := users, key := some id, projection := .single "id" (.string id) }
  [.operation Store.backend {} {} (.delete [user "7"]),
    .operation Store.backend {} {} (.update [user "8"]),
    .operation Store.backend {} {} (.expand users [.string "a"]),
    .operation Store.backend {} {} (.expand (.ofTable "posts") [.ofNat 7]),
    .write fun cache ↦ cache.insert "users" "9" none]

/-- Once they were looked up by texts, the user `7` is still answered and the user `8` still
missing, looked up by numbers, although the one was deleted and the other written. -/
theorem expanded_stable_keyedUsers :
    ∀ n ∈ [7, 8], let users := Schema.ofTable "users"
      let first := (users.expanded (.string (toString n))).runOn Store.backend {} keyedUsers
      let last := CacheUse.runAll busyUses first.1.2.records first.2
      last.2.document? "users_index" (toString n) ≠
          keyedUsers.document? "users_index" (toString n) ∧
        ∃ found, first.1.1 = .ok found ∧ found.isSome = (n = 7) ∧
          (users.expanded (.ofNat n)).runOn Store.backend.logged { records := last.1 }
            (last.2, []) = ((.ok found, { records := last.1 }), (last.2, [])) := by
  intro n hn users first last
  have hkeeps : CacheUse.NoneReplaces "users" (toString n) busyUses first.1.2.records first.2 := by
    refine ⟨not_false, not_false, mt And.right ?_, mt And.left (by decide), ?_, trivial⟩
    · revert n
      decide +kernel
    · refine not_ne_iff.2 ((RecordCache.get?_insert _ _ _ _ _ _).trans (if_neg ?_))
      revert n
      decide +kernel
  have hchanged : last.2.document? "users_index" (toString n) ≠
      keyedUsers.document? "users_index" (toString n) := by
    clear hkeeps
    revert n
    decide +kernel
  have hoption : first.1.1.toOption.map Option.isSome = some (decide (n = 7)) := by
    clear hkeeps hchanged
    revert n
    decide +kernel
  obtain ⟨found, hfound, hsome⟩ :
      ∃ found, first.1.1 = .ok found ∧ found.isSome = decide (n = 7) := by
    cases houtcome : first.1.1 with
    | error e => rw [houtcome] at hoption; cases hoption
    | ok found => rw [houtcome] at hoption; exact ⟨found, rfl, Option.some.inj hoption⟩
  have hrun : first = ((.ok found, first.1.2), first.2) := by rw [← hfound]
  obtain ⟨key, hkey, hall⟩ := (expanded_stable_until_replaced users (.string (toString n))
    Store.backend {} first.1.2 keyedUsers first.2).1 found hrun
  obtain rfl : toString n = key := Option.some.inj hkey
  refine ⟨hchanged, found, hfound, by simp [hsome], ?_⟩
  exact hall busyUses hkeeps users (.ofNat n) Store.backend {} [] rfl rfl

end Schema

end RecordSearch
