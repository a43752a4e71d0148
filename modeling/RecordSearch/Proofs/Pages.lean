import Mathlib.Order.Bounds.Basic
import RecordSearch.Proofs.Winning
import RecordSearch.Proofs.Writing
import RecordSearch.Query.Read
/-!
# Pages

A page shows a window of what a query finds, and says how many pages there are. What its numbers
mean is arithmetic: the last page is the least one that reaches to the end (`Page.isLeast_last`),
and there is more behind a page exactly if it does not reach to the end (`Page.hasMore_iff`).

What the window shows is a part of the winners, in whatever window the query was before
(`paginate_runOn`). Windows of one length that follow each other make up a list
(`flatMap_pages`), so the pages up to the last one show every winner once: `paginate_partitions`.
-/

namespace RecordSearch

variable {α β γ σ : Type}

/-! ### Windows of a list -/

/-- The first windows of a list make up a part in front. -/
theorem flatMap_pages (xs : List α) (length count : Nat) :
    (List.range' 1 count).flatMap (fun page ↦ (xs.drop ((page - 1) * length)).take length) =
      xs.take (count * length) := by
  induction count with
  | zero => simp
  | succ count ih =>
    rw [List.range'_1_concat, List.flatMap_append, ih, List.flatMap_singleton,
      Nat.add_sub_cancel_left, Nat.succ_mul, List.take_add]

/-! ### The numbers of a page -/

namespace Page

variable {page : Page}

/-- The last page is the first one that reaches to the end of the results. -/
theorem isLeast_last (h : 0 < page.perPage) :
    IsLeast {m | 1 ≤ m ∧ page.total ≤ m * page.perPage} page.last := by
  have hceil : ∀ m, (page.total + page.perPage - 1) / page.perPage ≤ m ↔
      page.total ≤ m * page.perPage := by
    intro m
    rw [Nat.div_le_iff_le_mul_add_pred h, Nat.mul_comm page.perPage m]
    omega
  rw [last, if_neg h.ne']
  exact ⟨⟨le_max_right _ _, (hceil _).1 (le_max_left _ _)⟩,
    fun m hm ↦ max_le ((hceil m).2 hm.2) hm.1⟩

/-- There is more behind a page exactly if it does not reach to the end of the results. -/
theorem hasMore_iff (h : 0 < page.perPage) (hcurrent : 1 ≤ page.current) :
    page.hasMore = true ↔ page.current * page.perPage < page.total := by
  obtain ⟨⟨-, hreaches⟩, hleast⟩ := isLeast_last h
  rw [hasMore, decide_eq_true_iff]
  constructor
  · intro hlt
    by_contra hend
    exact Nat.not_le.2 hlt (hleast ⟨hcurrent, Nat.not_lt.1 hend⟩)
  · intro hlt
    by_contra hend
    have hle := Nat.mul_le_mul_right page.perPage (Nat.not_lt.1 hend)
    exact Nat.not_le.2 hlt (hreaches.trans hle)

end Page

/-! ### Fetches one after the other -/

/-- Fetches that succeed in all states with a property, and keep it, succeed one after the other;
what is seen of each result is seen of the list. -/
theorem Fetch.runOn_mapM {backend : Backend σ} {fetch : α → Fetch β} {keeps : σ → Prop}
    {seen : β → γ} {expected : α → γ} {xs : List α}
    (h : ∀ a ∈ xs, ∀ state, keeps state → ∃ b after,
      (fetch a).runOn backend state = (.ok b, after) ∧ keeps after ∧ seen b = expected a)
    {state : σ} (hstate : keeps state) :
    ∃ bs after, (xs.mapM fetch).runOn backend state = (.ok bs, after) ∧ keeps after ∧
      bs.map seen = xs.map expected := by
  induction xs generalizing state with
  | nil => exact ⟨[], state, rfl, hstate, rfl⟩
  | cons a rest ih =>
    obtain ⟨ha, hrest⟩ := List.forall_mem_cons.1 h
    obtain ⟨b, between, hrun, hbetween, hseen⟩ := ha state hstate
    obtain ⟨bs, after, hruns, hafter, hseens⟩ := ih hrest hbetween
    refine ⟨b :: bs, after, ?_, hafter, List.cons_eq_cons.2 ⟨hseen, hseens⟩⟩
    rw [List.mapM_cons, Fetch.runOn_bind_of_ok hrun, Fetch.runOn_bind_of_ok hruns]
    rfl

/-! ### Pages of a store -/

/-- Every document of the store is an object with fields. -/
def Store.HasContents (store : Store) : Prop :=
  ∀ index id source, store.document? index id = some source →
    ∃ fields, fields ≠ [] ∧ source = .object fields

theorem Store.hasContents_empty : Store.HasContents {} :=
  fun _ _ _ h ↦ absurd h nofun

/-- An object with fields may be put. -/
theorem Store.HasContents.put {store : Store} (h : store.HasContents) (index id : String)
    {fields : List (String × Json)} (hne : fields ≠ []) :
    (store.put index id (.object fields)).HasContents := by
  intro other otherId source hstored
  rw [document?_eq_get?_collection, collection_put] at hstored
  split at hstored
  · rw [Dict.get?_insert] at hstored
    split at hstored
    · exact ⟨fields, hne, (Option.some.inj hstored).symm⟩
    · rw [← document?_eq_get?_collection] at hstored
      exact h _ _ _ hstored
  · rw [← document?_eq_get?_collection] at hstored
    exact h _ _ _ hstored

namespace Query

/-- The query is **pageable** on a store if the store answers it from documents with contents, and
each document that it finds is one record of its result. -/
structure Pageable (query : Query) (store : Store) : Prop where
  /-- Nothing is searched by hand. -/
  callback_eq_none : query.callback = none
  /-- The result is not grouped. -/
  groups_eq_empty : query.criteria.groups = ∅
  /-- No relation is loaded along. -/
  loads_eq_nil : query.loads = []
  /-- The rules do not look at the window. -/
  ignoresPaging : ∀ rule ∈ query.effectiveRules, rule.IgnoresPaging
  /-- The schema changes no record. -/
  cast_eq_none : query.schema.cast = none
  /-- The documents have contents. -/
  hasContents : store.HasContents
  /-- No answer waits for a search. -/
  idle : ∀ index, Store.Idle store.searchAnswers index

/-- The record of a document, with its index if the query searches several. -/
def recordOf (query : Query) (found : Found) : Record where
  schema := query.schema
  attributes := found.hit.attributes (!query.criteria.unions.isEmpty)

/-- The record that a document is read as, if it is not dropped. -/
def recordOf? (query : Query) (found : Found) : Option Record :=
  found.hit.record? query.schema (!query.criteria.unions.isEmpty)

variable {query : Query} {store state : Store} {base : String}

/-- A document with contents is read as its record. -/
theorem recordOf?_eq_some (hcast : query.schema.cast = none) {found : Found}
    (h : ∃ fields, fields ≠ [] ∧ found.source = .object fields) :
    query.recordOf? found = some (query.recordOf found) := by
  obtain ⟨fields, hfields, hsource⟩ := h
  obtain ⟨entry, rest, rfl⟩ := List.exists_cons_of_ne_nil hfields
  have hne : found.hit.attributes (!query.criteria.unions.isEmpty) ≠ ∅ := by
    unfold Hit.attributes
    split
    · exact Dict.insert_ne_empty _ _ _
    · rw [Found.hit, hsource]
      exact Dict.insert_ne_empty _ _ _
  rw [recordOf?, Hit.record?, Record.hydrate?_of_ne_empty _ hne, Option.bind_some, hcast]
  rfl

/-- A response that is not grouped is mapped to the records of the documents that it shows. -/
theorem map_eq_filterMap (hgroups : query.criteria.groups = ∅) {response : Response}
    {shown : List Found} (hhits : response.hits = shown.map Found.hit)
    (htotal : response.total = 0 → shown = []) :
    response.map query = .records (shown.filterMap query.recordOf?) := by
  have hfirst : query.criteria.groups.first? = none := by rw [hgroups]; rfl
  rw [Response.map, hfirst]
  split
  · next hnone => rw [htotal hnone]; rfl
  · rw [hhits, List.filterMap_map]
    rfl

/-- A response that shows documents with contents is mapped to their records. -/
theorem map_eq_records (h : query.Pageable store) {response : Response} {shown : List Found}
    (hhits : response.hits = shown.map Found.hit) (htotal : response.total = 0 → shown = [])
    (hshown : ∀ found ∈ shown, store.document? found.index found.id = some found.source) :
    response.map query = .records (shown.map query.recordOf) := by
  have hread : shown.filterMap query.recordOf? = shown.filterMap (some ∘ query.recordOf) :=
    List.filterMap_congr fun found hfound ↦
      recordOf?_eq_some h.cast_eq_none (h.hasContents _ _ _ (hshown found hfound))
  rw [map_eq_filterMap h.groups_eq_empty hhits htotal, hread, List.filterMap_eq_map]

/-- **A page shows its window of the winners.** The window that the query had before does not
matter. -/
theorem paginate_runOn (h : query.Pageable store) (hbase : query.baseIndex? = .ok base)
    {perPage page : Nat} (hpos : 0 < perPage) (hpage : 1 ≤ page)
    (hfits : (page - 1) * perPage < offsetLimit) (offset limit : Option Nat)
    (hstate : store.Logs state) :
    ∃ after, ((query.paged offset limit).paginate (some perPage) page).runOn Store.backend state =
        (.ok {
          items := .records ((((query.winners store base).map query.recordOf).drop
            ((page - 1) * perPage)).take perPage)
          total := (query.winners store base).length
          perPage := perPage
          current := page }, after) ∧ store.Logs after := by
  let window := query.paged (some ((page - 1) * perPage)) (some perPage)
  have hcallback : window.callback = none := h.callback_eq_none
  have hloads : window.loads = [] := h.loads_eq_nil
  have hwinners : window.winners store base = query.winners store base :=
    winners_paged h.ignoresPaging _ _ store base
  obtain ⟨response, after, hrun, hlogs, htotal, hhits⟩ :=
    respond_runOn_winners hcallback {} hbase (h.idle base) hstate
  rw [hwinners] at htotal hhits
  have hmap : response.map window = .records ((((query.winners store base).drop
      ((page - 1) * perPage)).take perPage).map query.recordOf) := by
    have hwindow : window.Pageable store :=
      ⟨hcallback, h.groups_eq_empty, hloads, h.ignoresPaging, h.cast_eq_none, h.hasContents,
        h.idle⟩
    refine map_eq_records hwindow hhits (fun hzero ↦ ?_) fun found hfound ↦ ?_
    · rw [List.length_eq_zero_iff.1 (htotal.symm.trans hzero), List.drop_nil, List.take_nil]
    · exact query.document?_of_mem_winners store base
        (List.mem_of_mem_drop (List.mem_of_mem_take hfound))
  refine ⟨after, ?_, hlogs⟩
  have hlength : ((some perPage).filter fun n ↦ n > 0).getD query.schema.perPage = perPage := by
    rw [Option.filter_some, if_pos (decide_eq_true hpos), Option.getD_some]
  rw [paginate, show (query.paged offset limit).schema = query.schema from rfl]
  dsimp only
  rw [hlength, max_eq_left hpage, if_pos hfits]
  refine (Fetch.runOn_bind_of_ok hrun).trans ?_
  rw [show ((query.paged offset limit).window ((page - 1) * perPage) perPage) = window from rfl,
    complete_of_loads_eq_nil hloads, hmap, htotal, List.map_take,
    List.map_drop]
  rfl

/-- A page whose offset does not fit is an error, and nothing is asked. -/
theorem paginate_runOn_of_limit_le (query : Query) (backend : Backend σ) (state : σ)
    {perPage page : Nat} (hpos : 0 < perPage) (hpage : 1 ≤ page)
    (hlimit : offsetLimit ≤ (page - 1) * perPage) :
    (query.paginate (some perPage) page).runOn backend state =
      (.error (.configuration (.pageOutOfRange page perPage)), state) := by
  have hlength : ((some perPage).filter fun n ↦ n > 0).getD query.schema.perPage = perPage := by
    rw [Option.filter_some, if_pos (decide_eq_true hpos), Option.getD_some]
  rw [paginate]
  dsimp only
  rw [hlength, max_eq_left hpage, if_neg (Nat.not_lt.2 hlimit)]
  rfl

/-- The pages up to one that reaches to the end of the winners, read one after the other, show all
winners. -/
theorem paginate_range_runOn (h : query.Pageable store) (hbase : query.baseIndex? = .ok base)
    {perPage last : Nat} (hpos : 0 < perPage)
    (hreaches : (query.winners store base).length ≤ last * perPage)
    (hfits : (last - 1) * perPage < offsetLimit) (offset limit : Nat → Option Nat)
    (hstate : store.Logs state) :
    ∃ pages after, ((List.range' 1 last).mapM fun page ↦
        (query.paged (offset page) (limit page)).paginate (some perPage) page).runOn Store.backend
          state = (.ok pages, after) ∧
      pages.flatMap (fun shown ↦ shown.items.toRecords) =
        (query.winners store base).map query.recordOf := by
  have hpages : ∀ page ∈ List.range' 1 last, ∀ state, store.Logs state → ∃ shown after,
      ((query.paged (offset page) (limit page)).paginate (some perPage) page).runOn
        Store.backend state = (.ok shown, after) ∧ store.Logs after ∧
        shown.items.toRecords = (((query.winners store base).map query.recordOf).drop
          ((page - 1) * perPage)).take perPage := by
    intro page hmem state hstate
    obtain ⟨hpage, hle⟩ := List.mem_range'_1.1 hmem
    have hpageFits : (page - 1) * perPage < offsetLimit :=
      (Nat.mul_le_mul_right perPage (by omega)).trans_lt hfits
    obtain ⟨after, hok, hlogs⟩ := paginate_runOn h hbase hpos hpage hpageFits _ _ hstate
    exact ⟨_, after, hok, hlogs, rfl⟩
  obtain ⟨pages, after, hok, -, hshown⟩ := Fetch.runOn_mapM hpages hstate
  refine ⟨pages, after, hok, ?_⟩
  rw [List.flatMap_def, hshown, ← List.flatMap_def, flatMap_pages, List.take_of_length_le]
  rwa [List.length_map]

/-- **Pages partition the result.** For a pageable query that compiles, let the records be those of
the documents found by the first compiled request that finds any. The last page is the least one
that reaches to their end. A page whose offset fits reports how many records there are and which
page is the last, whether there is more behind it, and shows its part of the records, in whatever
window the query was before; behind the last page it shows none. Where the offset does not fit, the
page is an error and nothing is asked. The pages up to the last one, if that one's offset fits, make
up the records: read one after the other, each from a query in a window of its own, they show every
record once and in order. -/
theorem paginate_partitions (query : Query) (store : Store) (h : query.Pageable store)
    (requests : List SearchRequest) (hcompile : query.compile {} = .ok requests) (perPage : Nat)
    (hpos : 0 < perPage) :
    let records :=
      (firstNonempty (requests.map fun request ↦ store.found request.render)).map query.recordOf
    ∃ last, IsLeast {m | 1 ≤ m ∧ records.length ≤ m * perPage} last ∧
      (∀ offset limit page state, 1 ≤ page → store.Logs state →
        let run := ((query.paged offset limit).paginate (some perPage) page).runOn Store.backend
          state
        ((page - 1) * perPage < offsetLimit → ∃ shown after, run = (.ok shown, after) ∧
          store.Logs after ∧ shown.total = records.length ∧ shown.last = last ∧
          (shown.hasMore = true ↔ page * perPage < records.length) ∧
          shown.items = .records ((records.drop ((page - 1) * perPage)).take perPage) ∧
          (last < page → shown.items = .records [])) ∧
        (offsetLimit ≤ (page - 1) * perPage →
          run = (.error (.configuration (.pageOutOfRange page perPage)), state))) ∧
      ((last - 1) * perPage < offsetLimit → ∀ (offset limit : Nat → Option Nat) (state : Store),
        store.Logs state → ∃ pages after,
          ((List.range' 1 last).mapM fun page ↦
              (query.paged (offset page) (limit page)).paginate (some perPage) page).runOn
            Store.backend state = (.ok pages, after) ∧
          pages.flatMap (fun shown ↦ shown.items.toRecords) = records) := by
  intro records
  obtain ⟨base, hbase⟩ : ∃ base, query.baseIndex? = .ok base := by
    rw [compile_eq_map] at hcompile
    cases hbase : query.baseIndex? with
    | ok base => exact ⟨base, rfl⟩
    | error e => rw [hbase] at hcompile; exact absurd hcompile nofun
  have hrecords : (query.winners store base).map query.recordOf = records := by
    rw [winners_of_compile hcompile hbase]
  have htotal : (query.winners store base).length = records.length := by
    rw [← hrecords, List.length_map]
  -- The number of the last page is read from a page, and all pages report the same.
  let first : Page := { items := .records [], total := records.length, perPage, current := 1 }
  have hlast : IsLeast {m | 1 ≤ m ∧ first.total ≤ m * first.perPage} first.last :=
    Page.isLeast_last hpos
  refine ⟨first.last, hlast, fun offset limit page state hpage hstate ↦
    ⟨fun hfits ↦ ?_, paginate_runOn_of_limit_le _ _ state hpos hpage⟩,
    fun hlastFits offset limit state hstate ↦ ?_⟩
  · obtain ⟨after, hok, hlogs⟩ :=
      paginate_runOn h hbase hpos hpage hfits offset limit hstate
    rw [hrecords, htotal] at hok
    refine ⟨_, after, hok, hlogs, rfl, rfl, Page.hasMore_iff hpos hpage, rfl, fun hbehind ↦ ?_⟩
    have hend : records.length ≤ (page - 1) * perPage :=
      hlast.1.2.trans (Nat.mul_le_mul_right perPage (Nat.le_sub_one_of_lt hbehind))
    rw [List.drop_eq_nil_of_le hend, List.take_nil]
  · rw [← hrecords]
    exact paginate_range_runOn h hbase hpos (htotal.trans_le hlast.1.2) hlastFits offset limit
      hstate

/-- Two users and an admin have the name: of pages for two there are two, which show the users and
then the admin, each tagged with the index. -/
theorem paginate_partitions_peopleCalled :
    let store := (peopleStore.put "users_index" "3" (.single "name" (.string "ann"))).put
      "admins_index" "2" (.single "name" (.string "ann"))
    (peopleCalled "ann").Pageable store ∧
      (∃ requests, (peopleCalled "ann").compile {} = .ok requests) ∧
      ∃ pages after, ([1, 2].mapM ((peopleCalled "ann").paginate (some 2))).runOn Store.backend
        store = (.ok pages, after) ∧
        (pages.flatMap fun page ↦ page.items.toRecords).map (·.get? "_index") =
          [some (.string "users_index"), some (.string "users_index"),
            some (.string "admins_index")] := by
  intro store
  have hpageable : (peopleCalled "ann").Pageable store := by
    refine ⟨rfl, rfl, rfl, ?_, rfl, ?_, fun _ ↦ rfl⟩
    · intro rule hrule
      rcases List.mem_cons.1 hrule with rfl | hrule
      · exact fun _ _ _ ↦ rfl
      · obtain rfl := List.mem_singleton.1 hrule
        exact fun _ _ _ ↦ rfl
    · exact ((((Store.hasContents_empty.put _ _ (by decide)).put _ _ (by decide)).put _ _
        (by decide)).put _ _ (by decide)).put _ _ (by decide)
  obtain ⟨requests, hcompile⟩ : ∃ requests, (peopleCalled "ann").compile {} = .ok requests :=
    ⟨_, rfl⟩
  obtain ⟨last, hlast, -, hpages⟩ :=
    paginate_partitions (peopleCalled "ann") store hpageable requests hcompile 2 (by decide)
  have hwinners : (peopleCalled "ann").winners store "users_index" =
      firstNonempty (requests.map fun request ↦ store.found request.render) :=
    winners_of_compile hcompile rfl
  rw [← hwinners] at hlast hpages
  have hlength : (((peopleCalled "ann").winners store "users_index").map
      (peopleCalled "ann").recordOf).length = 3 := by
    decide +kernel
  rw [hlength] at hlast
  obtain rfl : last = 2 :=
    hlast.unique ⟨⟨by decide, by decide⟩, fun m hm ↦ by have := hm.2; omega⟩
  obtain ⟨pages, after, hrun, hshown⟩ :=
    hpages (by decide) (fun _ ↦ none) (fun _ ↦ some 1) store ⟨store.requests, rfl⟩
  refine ⟨hpageable, ⟨requests, hcompile⟩, pages, after, hrun, ?_⟩
  rw [hshown]
  decide +kernel

end Query

end RecordSearch
