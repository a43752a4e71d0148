import RecordSearch.Proofs.Pages
/-!
# The first record

To read the first record is to read a window of one document. The mapping may drop documents: those
without attributes, and those that the schema's cast makes nothing of (`recordOf?_eq_none_iff`). The
window is narrowed before anything is dropped, so a dropped document hides the records behind it.

Both reads see the same winners (`winners_paged`). The full read returns the records of all
documents in the window and the first record is that of the document in front
(`get_runOn_windowed`, `first_runOn_windowed`). So the two agree exactly if the document in front
is a record or if there is no record at all (`first_agrees_iff`), and always where no document is
dropped (`Pageable.first_agrees`).
-/

namespace RecordSearch

/-- The record of the element in front is the first of all records exactly if there is one or if
there are no records. -/
theorem head?_bind_eq_head?_filterMap_iff {α β : Type} (f : α → Option β) (xs : List α) :
    xs.head?.bind f = (xs.filterMap f).head? ↔
      (∀ x, xs.head? = some x → f x ≠ none) ∨ ∀ x ∈ xs, f x = none := by
  cases xs with
  | nil => simp
  | cons x rest =>
    cases hx : f x with
    | some y => simp [hx]
    | none =>
      rw [List.head?_cons, Option.bind_some, hx, List.filterMap_cons_none hx, eq_comm,
        List.head?_eq_none_iff, List.filterMap_eq_nil_iff, List.forall_mem_cons, and_iff_right hx]
      exact (or_iff_right fun h ↦ h x rfl hx).symm

namespace Query

/-- The query is **windowed** on a store if the store answers it from documents, its result is made
of these documents one by one, and they come from the same winners whatever the window is. -/
structure Windowed (query : Query) (store : Store) : Prop where
  /-- Nothing is searched by hand. -/
  callback_eq_none : query.callback = none
  /-- The result is not grouped. -/
  groups_eq_empty : query.criteria.groups = ∅
  /-- No relation is loaded along. -/
  loads_eq_nil : query.loads = []
  /-- The rules do not look at the window. -/
  ignoresPaging : ∀ rule ∈ query.effectiveRules, rule.IgnoresPaging
  /-- No answer waits for a search. -/
  idle : ∀ index, Store.Idle store.searchAnswers index

variable {query : Query} {store state : Store} {base : String}

theorem take_eq_paged (query : Query) (count : Nat) :
    query.take count = query.paged query.criteria.offset (some count) :=
  rfl

theorem Pageable.windowed (h : query.Pageable store) : query.Windowed store :=
  ⟨h.callback_eq_none, h.groups_eq_empty, h.loads_eq_nil, h.ignoresPaging, h.idle⟩

theorem Windowed.paged (h : query.Windowed store) (offset limit : Option Nat) :
    (query.paged offset limit).Windowed store :=
  ⟨h.callback_eq_none, h.groups_eq_empty, h.loads_eq_nil, h.ignoresPaging, h.idle⟩

/-! ### What a read returns -/

/-- The winners in the window of the query. -/
def windowed (query : Query) (store : Store) (base : String) : List Found :=
  ((query.winners store base).drop (query.criteria.offset.getD 0)).take
    (query.criteria.limit.getD 10)

/-- A document is dropped if it has no attributes or if the cast leaves it none. -/
theorem recordOf?_eq_none_iff (query : Query) (found : Found) :
    let attributes := found.hit.attributes (!query.criteria.unions.isEmpty)
    query.recordOf? found = none ↔ attributes = ∅ ∨
      ∃ cast, query.schema.cast = some cast ∧ ∀ changed, cast attributes = some changed →
        changed = ∅ := by
  intro attributes
  rw [recordOf?, Hit.record?]
  by_cases hempty : attributes = ∅
  · rw [Record.hydrate?_eq_none_iff.2 hempty]
    simp [hempty]
  · rw [Record.hydrate?_of_ne_empty _ hempty, Option.bind_some]
    cases query.schema.cast with
    | none => simp [hempty]
    | some cast => simp [hempty, Option.bind_eq_none_iff]

/-- **A read returns the records of its window**, and only writes its requests down. -/
theorem get_runOn_of_winners (hcallback : query.callback = none)
    (hgroups : query.criteria.groups = ∅) (hloads : query.loads = [])
    (hbase : query.baseIndex? = .ok base) (hidle : Store.Idle store.searchAnswers base)
    (hstate : store.Logs state) :
    ∃ after, query.get.runOn Store.backend state =
        (.ok (.records ((query.windowed store base).filterMap query.recordOf?)), after) ∧
      store.Logs after := by
  obtain ⟨response, after, hrun, hlogs, htotal, hhits⟩ :=
    respond_runOn_winners hcallback {} hbase hidle hstate
  have hmap : response.map query =
      .records ((query.windowed store base).filterMap query.recordOf?) := by
    refine map_eq_filterMap hgroups hhits fun hzero ↦ ?_
    rw [windowed, List.length_eq_zero_iff.1 (htotal.symm.trans hzero), List.drop_nil,
      List.take_nil]
  refine ⟨after, (Fetch.runOn_bind_of_ok hrun).trans ?_, hlogs⟩
  rw [complete_of_loads_eq_nil hloads, hmap]
  rfl

theorem get_runOn_windowed (h : query.Windowed store) (hbase : query.baseIndex? = .ok base)
    (hstate : store.Logs state) :
    ∃ after, query.get.runOn Store.backend state =
      (.ok (.records ((query.windowed store base).filterMap query.recordOf?)), after) := by
  obtain ⟨after, hrun, -⟩ := get_runOn_of_winners h.callback_eq_none h.groups_eq_empty
    h.loads_eq_nil hbase (h.idle base) hstate
  exact ⟨after, hrun⟩

/-- The narrowed window has the document in front, unless the window had none. -/
theorem windowed_paged_one (h : query.Windowed store) (hlimit : query.criteria.limit ≠ some 0) :
    (query.paged query.criteria.offset (some 1)).windowed store base =
      (query.windowed store base).head?.toList := by
  have hpos : query.criteria.limit.getD 10 ≠ 0 := by
    cases hsize : query.criteria.limit with
    | none => decide
    | some size => exact fun hzero ↦ hlimit (hsize.trans (congrArg some hzero))
  obtain ⟨size, hsize⟩ := Nat.exists_eq_succ_of_ne_zero hpos
  rw [windowed, windowed, winners_paged h.ignoresPaging, hsize]
  show ((query.winners store base).drop (query.criteria.offset.getD 0)).take 1 = _
  cases (query.winners store base).drop (query.criteria.offset.getD 0) <;> rfl

/-- **The first record is that of the document in front.** -/
theorem first_runOn_windowed (h : query.Windowed store) (hlimit : query.criteria.limit ≠ some 0)
    (hbase : query.baseIndex? = .ok base) (hstate : store.Logs state) :
    ∃ after, query.first.runOn Store.backend state =
      (.ok ((query.windowed store base).head?.bind query.recordOf?), after) := by
  obtain ⟨after, hrun⟩ :=
    get_runOn_windowed (h.paged query.criteria.offset (some 1)) hbase hstate
  refine ⟨after, (Fetch.runOn_bind_of_ok hrun).trans ?_⟩
  rw [windowed_paged_one h hlimit]
  cases (query.windowed store base).head? with
  | none => rfl
  | some found =>
    show (Except.ok ([found].filterMap query.recordOf?).head?, after) = _
    rw [Option.bind_some]
    cases hrecord : query.recordOf? found <;> simp [hrecord]

/-- A query with an unknown alias asks nothing, and the error is what it returns. -/
theorem get_runOn_of_error (query : Query) {σ : Type} (backend : Backend σ) (state : σ)
    (hcallback : query.callback = none) {error : Error} (hbase : query.baseIndex? = .error error) :
    query.get.runOn backend state = (.error error, state) := by
  have hcompile : query.compile {} = .error error := by rw [compile_eq_map, hbase]; rfl
  exact Fetch.runOn_bind_of_error
    (respond_runOn_of_compile_error backend state hcallback hcompile)

theorem first_runOn_of_error (query : Query) {σ : Type} (backend : Backend σ) (state : σ)
    (hcallback : query.callback = none) {error : Error} (hbase : query.baseIndex? = .error error) :
    query.first.runOn backend state = (.error error, state) := by
  have hget : (query.take 1).get.runOn backend state = (.error error, state) := by
    rw [take_eq_paged]
    exact (query.paged query.criteria.offset (some 1)).get_runOn_of_error backend state hcallback
      hbase
  rw [first, Fetch.runOn_bind_of_error hget]

/-! ### When the first record is the first of all -/

/-- **When the first record is the first of all.** Take a windowed query whose limit, if it has one,
is not zero. Read its result and its first record, each in a state of the store with whatever
requests written down. With an unknown alias both reads fail alike. Otherwise both succeed, the one
with the records of the window and the other with that of the document in front. This is the first
of the records, or none if there are none, if and only if the document in front is not dropped or
all documents in the window are. -/
theorem first_agrees_iff (query : Query) (store : Store) (h : query.Windowed store)
    (hlimit : query.criteria.limit ≠ some 0) (state other : Store) (hstate : store.Logs state)
    (hother : store.Logs other) :
    let all := (query.get.runOn Store.backend state).1
    let first := (query.first.runOn Store.backend other).1
    (∀ error, query.baseIndex? = .error error → all = .error error ∧ first = .error error) ∧
    (∀ base, query.baseIndex? = .ok base →
      let shown := query.windowed store base
      all = .ok (.records (shown.filterMap query.recordOf?)) ∧
      first = .ok (shown.head?.bind query.recordOf?) ∧
      (first = all.map (fun mapped ↦ mapped.toRecords.head?) ↔
        (∀ found, shown.head? = some found → query.recordOf? found ≠ none) ∨
          ∀ found ∈ shown, query.recordOf? found = none)) := by
  intro all first
  refine ⟨fun error hbase ↦ ⟨?_, ?_⟩, fun base hbase ↦ ?_⟩
  · exact congrArg Prod.fst (query.get_runOn_of_error _ state h.callback_eq_none hbase)
  · exact congrArg Prod.fst (query.first_runOn_of_error _ other h.callback_eq_none hbase)
  · intro shown
    obtain ⟨after, hget⟩ := get_runOn_windowed h hbase hstate
    obtain ⟨behind, hfirst⟩ := first_runOn_windowed h hlimit hbase hother
    have hall : all = .ok (.records (shown.filterMap query.recordOf?)) := congrArg Prod.fst hget
    have hone : first = .ok (shown.head?.bind query.recordOf?) := congrArg Prod.fst hfirst
    refine ⟨hall, hone, ?_⟩
    rw [hall, hone, Except.map, Except.ok.injEq]
    exact head?_bind_eq_head?_filterMap_iff _ _

/-- Where every document is a record, the first record is always the first of all. -/
theorem Pageable.first_agrees (h : query.Pageable store) (hlimit : query.criteria.limit ≠ some 0)
    (hbase : query.baseIndex? = .ok base) (hstate : store.Logs state) :
    (query.first.runOn Store.backend state).1 =
      (query.get.runOn Store.backend state).1.map fun mapped ↦ mapped.toRecords.head? := by
  obtain ⟨after, hget⟩ := get_runOn_windowed h.windowed hbase hstate
  obtain ⟨behind, hfirst⟩ := first_runOn_windowed h.windowed hlimit hbase hstate
  rw [hget, hfirst, Except.map, Except.ok.injEq, Mapped.toRecords]
  refine (head?_bind_eq_head?_filterMap_iff _ _).2 (.inl fun found hfront ↦ ?_)
  have hmem : found ∈ query.winners store base :=
    List.mem_of_mem_drop (List.mem_of_mem_take (List.mem_of_head? hfront))
  have hcontents := h.hasContents _ _ _ (query.document?_of_mem_winners store base hmem)
  rw [recordOf?_eq_some h.cast_eq_none hcontents]
  exact Option.some_ne_none _

/-- Users, of whom the hidden ones are dropped. -/
def castUsers : Schema :=
  let cast (attributes : Object) : Option Object :=
    if attributes.get? "hidden" = some (.bool true) then none else some attributes
  { Schema.ofTable "users" with cast := some cast }

/-- Three users, of whom the first and the last are hidden. -/
def hiddenUsers : Store :=
  let user (name : String) (hidden : Bool) : Json :=
    .ofFields [("hidden", .bool hidden), ("name", .string name)]
  ((({} : Store).put "users_index" "1" (user "ann" true)).put "users_index" "2"
    (user "bob" false)).put "users_index" "3" (user "eve" true)

theorem windowed_castUsers : castUsers.query.Windowed hiddenUsers := by
  refine ⟨rfl, rfl, rfl, fun rule hrule ↦ ?_, fun _ ↦ rfl⟩
  obtain rfl := List.mem_singleton.1 hrule
  exact fun _ _ _ ↦ ⟨rfl, rfl⟩

/-- Behind the hidden user that is passed over stands one who is not hidden, so the reads agree,
although the last one is dropped. -/
theorem first_agrees_iff_hiddenUsers :
    let query := castUsers.query.window 1 2
    query.Windowed hiddenUsers ∧ query.criteria.limit ≠ some 0 ∧
      ∃ records, (query.get.runOn Store.backend hiddenUsers).1 = .ok (.records records) ∧
        records.map (·.get? "name") = [some (.string "bob")] ∧
        (query.first.runOn Store.backend hiddenUsers).1 = .ok records.head? := by
  intro query
  have hwindowed : query.Windowed hiddenUsers := windowed_castUsers.paged (some 1) (some 2)
  have hlimit : query.criteria.limit ≠ some 0 := by decide
  have hlogs : hiddenUsers.Logs hiddenUsers := ⟨hiddenUsers.requests, rfl⟩
  obtain ⟨hall, -, hagree⟩ :=
    (first_agrees_iff query hiddenUsers hwindowed hlimit _ _ hlogs hlogs).2 "users_index" rfl
  have hfront : ∀ found, (query.windowed hiddenUsers "users_index").head? = some found →
      query.recordOf? found ≠ none := by
    have hrecord : (((query.windowed hiddenUsers "users_index").head?.bind
      query.recordOf?).isSome) = true := by decide +kernel
    intro found hfound
    rw [hfound, Option.bind_some] at hrecord
    exact Option.isSome_iff_ne_none.1 hrecord
  have hfirst := hagree.2 (.inl hfront)
  rw [hall, Except.map, Mapped.toRecords] at hfirst
  refine ⟨hwindowed, hlimit, _, hall, ?_, hfirst⟩
  decide +kernel

/-- The user in front is hidden: there is a record behind it, but no first one. -/
theorem first_misses_record :
    ∃ records, (castUsers.query.get.runOn Store.backend hiddenUsers).1 = .ok (.records records) ∧
      records.map (·.get? "name") = [some (.string "bob")] ∧
      (castUsers.query.first.runOn Store.backend hiddenUsers).1 = .ok none := by
  have hlogs : hiddenUsers.Logs hiddenUsers := ⟨hiddenUsers.requests, rfl⟩
  have hbase : castUsers.query.baseIndex? = .ok "users_index" := rfl
  obtain ⟨after, hget⟩ := get_runOn_windowed windowed_castUsers hbase hlogs
  obtain ⟨behind, hfirst⟩ := first_runOn_windowed windowed_castUsers (by decide) hbase hlogs
  have hnone : (castUsers.query.windowed hiddenUsers "users_index").head?.bind
      castUsers.query.recordOf? = none :=
    Option.isNone_iff_eq_none.1 (by decide +kernel)
  rw [hnone] at hfirst
  refine ⟨_, congrArg Prod.fst hget, ?_, congrArg Prod.fst hfirst⟩
  decide +kernel

end Query

end RecordSearch
