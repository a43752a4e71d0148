import Mathlib.Algebra.GroupWithZero.Nat
import Mathlib.Data.List.Nodup
import Mathlib.Data.List.Perm.Subperm
import RecordSearch.Proofs.LoadPaths
import RecordSearch.Text.Split
/-!
# What it costs to load relations along

A read that loads relations as they are sends one search for itself and at most one for each name,
whatever it is answered: `Exchange.SearchesAtMost` bounds the searches of an exchange for every
backend, and the bound adds up over composed exchanges. The names of a read are shared out among the
reads of related records, each of them to at most one (`Load.sum_length_share_le`), so the bounds of
those add up to the number of names.

A name whose parent is not loaded is handed on to a place where nothing loads it, so it may as well
be left out (`Query.LoadsPlain.get_without_orphan`).
-/

namespace RecordSearch

variable {α β σ : Type}

/-! ### Bounds on searches -/

/-- Whatever is replied, the exchange asks nothing but searches, and at most so many. -/
def Exchange.SearchesAtMost : Exchange α → Nat → Prop
  | .done _, _ => True
  | .ask _ _ _, 0 => False
  | .ask op _ next, n + 1 => op = .search ∧ ∀ reply, (next reply).SearchesAtMost n

namespace Exchange

theorem SearchesAtMost.mono {exchange : Exchange α} {m n : Nat} (h : exchange.SearchesAtMost m)
    (hle : m ≤ n) : exchange.SearchesAtMost n := by
  induction exchange generalizing m n with
  | done a => trivial
  | ask op request next ih =>
    cases m with
    | zero => exact h.elim
    | succ m =>
      obtain ⟨n, rfl⟩ : ∃ k, n = k + 1 := ⟨n - 1, by omega⟩
      exact ⟨h.1, fun reply ↦ ih reply (h.2 reply) (by omega)⟩

theorem SearchesAtMost.bind {exchange : Exchange α} {next : α → Exchange β} {m n : Nat}
    (h : exchange.SearchesAtMost m) (hnext : ∀ a, (next a).SearchesAtMost n) :
    (exchange >>= next).SearchesAtMost (m + n) := by
  induction exchange generalizing m with
  | done a => exact (hnext a).mono (by omega)
  | ask op request rest ih =>
    cases m with
    | zero => exact h.elim
    | succ m =>
      rw [show m + 1 + n = m + n + 1 by omega]
      exact ⟨h.1, fun reply ↦ ih reply (h.2 reply)⟩

/-- What is sent to a backend keeps the bound. -/
theorem SearchesAtMost.run_logged {exchange : Exchange α} {n : Nat} (h : exchange.SearchesAtMost n)
    (backend : Backend σ) (state : σ) (log : List (Operation × Json)) :
    ∃ sent, (exchange.run backend.logged (state, log)).2.2 = log ++ sent ∧
      sent.length ≤ n ∧ ∀ asked ∈ sent, asked.1 = .search := by
  induction exchange generalizing state log n with
  | done a => exact ⟨[], (List.append_nil _).symm, Nat.zero_le n, nofun⟩
  | ask op request next ih =>
    cases n with
    | zero => exact h.elim
    | succ n =>
      obtain ⟨sent, hsent, hlength, hsearch⟩ := ih (backend.reply op request state).1 (h.2 _)
        (backend.reply op request state).2 (log ++ [(op, request)])
      refine ⟨(op, request) :: sent, ?_, ?_, ?_⟩
      · rw [run_ask]
        exact hsent.trans (List.append_assoc _ _ _)
      · rw [List.length_cons]
        omega
      · exact List.forall_mem_cons.2 ⟨h.1, hsearch⟩

end Exchange

/-- Whatever is replied, the fetch asks nothing but searches, and at most so many. -/
def Fetch.SearchesAtMost (fetch : Fetch α) (n : Nat) : Prop :=
  Exchange.SearchesAtMost (ExceptT.run fetch) n

namespace Fetch

theorem SearchesAtMost.mono {fetch : Fetch α} {m n : Nat} (h : fetch.SearchesAtMost m)
    (hle : m ≤ n) : fetch.SearchesAtMost n :=
  Exchange.SearchesAtMost.mono h hle

theorem SearchesAtMost.pure (a : α) (n : Nat) : (pure a : Fetch α).SearchesAtMost n :=
  trivial

theorem SearchesAtMost.bind {fetch : Fetch α} {next : α → Fetch β} {m n : Nat}
    (h : fetch.SearchesAtMost m) (hnext : ∀ a, (next a).SearchesAtMost n) :
    (fetch >>= next).SearchesAtMost (m + n) := by
  rw [SearchesAtMost, ExceptT.run_bind]
  refine Exchange.SearchesAtMost.bind h fun outcome ↦ ?_
  cases outcome with
  | ok a => exact hnext a
  | error e => exact trivial

/-- The bounds of the steps of a fold add up. -/
theorem SearchesAtMost.foldlM {step : β → α → Fetch β} {cost : α → Nat} {xs : List α}
    (hstep : ∀ b, ∀ a ∈ xs, (step b a).SearchesAtMost (cost a)) (init : β) :
    (xs.foldlM step init).SearchesAtMost (xs.map cost).sum := by
  induction xs generalizing init with
  | nil => exact .pure init _
  | cons x rest ih =>
    rw [List.foldlM_cons, List.map_cons, List.sum_cons]
    refine (hstep init x List.mem_cons_self).bind fun b ↦ ?_
    exact ih (fun b a ha ↦ hstep b a (List.mem_cons_of_mem x ha)) b

end Fetch

theorem firstWithHits_searchesAtMost (requests : List SearchRequest) (last : Response) :
    (firstWithHits requests last).SearchesAtMost requests.length := by
  induction requests generalizing last with
  | nil => trivial
  | cons request rest ih =>
    rw [firstWithHits, List.length_cons, Nat.add_comm]
    refine Fetch.SearchesAtMost.bind (m := 1) ⟨rfl, fun _ ↦ trivial⟩ fun body ↦ ?_
    dsimp only
    split
    · exact .pure _ _
    · exact ih _

/-- A filter sends one request at most. -/
theorem Query.IsFilter.search_searchesAtMost {query : Query} (h : query.IsFilter) :
    query.search.SearchesAtMost 1 := by
  rw [search, respond, h.callback_eq_none, compile_eq_map_request h.freeText_eq_none]
  cases query.baseIndex? with
  | error e => trivial
  | ok base => exact firstWithHits_searchesAtMost [query.request {} base] {}

/-! ### Names that are shared out -/

namespace Load

/-- The share of a name: itself and the names that continue it. -/
def share (names : List String) (name : String) : List String :=
  name :: (below name names).map (name ++ "." ++ ·)

theorem nodup_below {names : List String} (h : names.Nodup) (parent : String) :
    (below parent names).Nodup :=
  h.filterMap fun _ _ _ hfirst hsecond ↦
    (rest?_eq_some_iff.1 hfirst).symm.trans (rest?_eq_some_iff.1 hsecond)

theorem append_dot_injective (name : String) : Function.Injective (name ++ "." ++ ·) :=
  fun first second h ↦ String.toList_inj.1 (by simpa using congrArg String.toList h)

/-- The names of a share all begin with its name. -/
theorem head?_segments_of_mem_share {names : List String} {name member : String}
    (hname : '.' ∉ name.toList) (h : member ∈ share names name) :
    (Text.segments '.' member.toList).head? = some name.toList := by
  rcases List.mem_cons.1 h with rfl | hmember
  · rw [Text.segments_of_not_mem hname, List.head?_cons]
  · obtain ⟨rest, -, rfl⟩ := List.mem_map.1 hmember
    have hlist : (name ++ "." ++ rest).toList = name.toList ++ '.' :: rest.toList := by simp
    rw [hlist, Text.segments_append hname, List.head?_cons]

theorem nodup_share {names : List String} (h : names.Nodup) {name : String}
    (hname : '.' ∉ name.toList) : (share names name).Nodup := by
  refine List.nodup_cons.2 ⟨fun hmem ↦ ?_, (nodup_below h name).map (append_dot_injective name)⟩
  obtain ⟨rest, -, hrest⟩ := List.mem_map.1 hmem
  refine hname ?_
  rw [← hrest]
  simp

/-- **No name is shared out twice.** The shares of the names that are loaded directly have no name
in common, and are names of the list. -/
theorem sum_length_share_le {names : List String} (h : names.Nodup) :
    ((direct names).map fun name ↦ 1 + (below name names).length).sum ≤ names.length := by
  have hdisjoint : ((direct names).flatMap (share names)).Nodup := by
    refine List.nodup_flatMap.2 ⟨fun name hname ↦ nodup_share h (mem_direct.1 hname).2, ?_⟩
    refine (h.filter _).imp_of_mem fun {first second} hfirst hsecond hne member hmem hmem' ↦ ?_
    have hhead := head?_segments_of_mem_share (mem_direct.1 hfirst).2 hmem
    rw [head?_segments_of_mem_share (mem_direct.1 hsecond).2 hmem'] at hhead
    exact hne (String.toList_inj.1 (Option.some.inj hhead.symm))
  have hsubset : (direct names).flatMap (share names) ⊆ names := by
    intro member hmember
    obtain ⟨name, hname, hshare⟩ := List.mem_flatMap.1 hmember
    rcases List.mem_cons.1 hshare with rfl | hbelow
    · exact (mem_direct.1 hname).1
    · obtain ⟨rest, hrest, rfl⟩ := List.mem_map.1 hbelow
      exact mem_below.1 hrest
  calc ((direct names).map fun name ↦ 1 + (below name names).length).sum
      = ((direct names).flatMap (share names)).length := by
        rw [List.length_flatMap]
        simp [share, Nat.add_comm]
    _ ≤ names.length := (hdisjoint.subperm hsubset).length_le

end Load

/-! ### The bound of a read -/

/-- To fetch the related records of keys costs what the read of them costs. -/
theorem Relation.fetchLoading_searchesAtMost {relation : Relation} {names : List String}
    {keys : List Json} {n : Nat} (h : (relation.loadingQuery names keys).get.SearchesAtMost n) :
    (relation.fetchLoading names keys).SearchesAtMost n := by
  rw [fetchLoading]
  split
  · exact .pure [] n
  · exact h.bind fun mapped ↦ .pure mapped.toRecords 0

namespace Query.LoadsPlain

variable {query : Query} {names : List String}

/-- **A read searches once for itself and at most once for each name**, whatever it is answered. -/
theorem searchesAtMost_get (h : query.LoadsPlain names) (hnodup : names.Nodup) :
    query.get.SearchesAtMost (1 + names.length) := by
  refine h.induction (motive := fun query names ↦
    names.Nodup → query.get.SearchesAtMost (1 + names.length))
    (fun query names h ih hnodup ↦ ?_) hnodup
  rw [h.get_eq]
  refine h.search_searchesAtMost.bind fun response ↦ ?_
  -- A name that is loaded directly costs one search, and one for each name that continues it.
  have hone : ∀ records, ∀ name ∈ Load.direct names,
      (query.schema.loadOne names records name).SearchesAtMost
        (1 + (Load.below name names).length) := by
    intro records name _
    rw [Schema.loadOne]
    cases hrelation : query.schema.relation? name with
    | none => trivial
    | some relation =>
      exact (Relation.fetchLoading_searchesAtMost
        (ih name relation hrelation _ _ (Load.nodup_below hnodup name))).bind fun _ ↦ .pure _ 0
  have hall : ∀ found, ((Load.direct names).foldlM (query.schema.loadOne names) found >>=
      fun loaded ↦ pure (Mapped.records loaded)).SearchesAtMost names.length := fun found ↦
    ((Fetch.SearchesAtMost.foldlM hone found).bind fun _ ↦ .pure _ 0).mono
      (Load.sum_length_share_le hnodup)
  rcases response.map query with (_ | ⟨first, rest⟩) | buckets
  · exact .pure _ _
  · exact hall _
  · exact .pure _ _

end Query.LoadsPlain

/-! ### Names without a parent -/

namespace Load

/-- What continues a parent behind a further dot continues it, or the rest of what does. -/
theorem eq_or_of_append_dot_eq {name parent rest segment : String}
    (hsegment : '.' ∉ segment.toList) (h : name ++ "." ++ rest = parent ++ "." ++ segment) :
    (parent = name ∧ rest = segment) ∨
      ∃ inner, parent = name ++ "." ++ inner ∧ rest = inner ++ "." ++ segment := by
  have hlist : name.toList ++ '.' :: rest.toList = parent.toList ++ '.' :: segment.toList := by
    simpa using congrArg String.toList h
  rcases List.append_eq_append_iff.1 hlist with ⟨more, hparent, hrest⟩ | ⟨more, hname, hrest⟩
  · cases more with
    | nil =>
      rw [List.append_nil] at hparent
      exact .inl ⟨String.toList_inj.1 hparent, String.toList_inj.1 (List.cons.inj hrest).2⟩
    | cons dot inner =>
      obtain ⟨rfl, hinner⟩ := List.cons.inj hrest
      refine .inr ⟨String.ofList inner, String.toList_inj.1 ?_, String.toList_inj.1 ?_⟩
      · simpa using hparent
      · simpa using hinner
  · cases more with
    | nil =>
      rw [List.append_nil] at hname
      exact .inl ⟨String.toList_inj.1 hname.symm, String.toList_inj.1 (List.cons.inj hrest).2.symm⟩
    | cons dot inner =>
      refine absurd ?_ hsegment
      rw [(List.cons.inj hrest).2]
      simp

theorem direct_filter_ne {name : String} (hname : '.' ∈ name.toList) (names : List String) :
    direct (names.filter (· ≠ name)) = direct names := by
  rw [direct, List.filter_filter, direct]
  refine List.filter_congr fun other _ ↦ ?_
  by_cases hother : other = name
  · simp [hother, hname]
  · simp [hother]

theorem below_filter_ne (parent name : String) (names : List String) :
    below parent (names.filter (· ≠ name)) =
      (below parent names).filter fun rest ↦ parent ++ "." ++ rest ≠ name := by
  rw [below, below, List.filterMap_filter, List.filter_filterMap]
  refine List.filterMap_congr fun other _ ↦ ?_
  cases hrest : rest? parent other with
  | none => simp
  | some rest => rw [Option.filter_some, rest?_eq_some_iff.1 hrest]

end Load

namespace Query.LoadsPlain

/-- **A name whose parent is not loaded makes no difference.** -/
theorem get_without_orphan {query : Query} {names : List String} (h : query.LoadsPlain names)
    {parent segment : String} (hsegment : '.' ∉ segment.toList) (hparent : parent ∉ names) :
    query.get = (query.loading (names.filter (· ≠ parent ++ "." ++ segment))).get := by
  refine h.induction (motive := fun query names ↦ ∀ parent, parent ∉ names →
    query.get = (query.loading (names.filter (· ≠ parent ++ "." ++ segment))).get)
    (fun query names h ih parent hparent ↦ ?_) parent hparent
  rw [h.get_eq, (h.toIsFilter.loadsPlain_loading _).get_eq]
  refine bind_congr fun response ↦ query.schema.loadAll_congr
    (Load.direct_filter_ne (by simp) names) (fun records name hname ↦ ?_) _
  rw [Schema.loadOne, Schema.loadOne]
  cases hrelation : query.schema.relation? name with
  | none => rfl
  | some relation =>
    suffices hget : ∀ keys, (relation.loadingQuery (Load.below name names) keys).get =
        (relation.loadingQuery
          (Load.below name (names.filter (· ≠ parent ++ "." ++ segment))) keys).get by
      simp only [Relation.fetchLoading, hget]
    intro keys
    rw [Load.below_filter_ne]
    by_cases hunder : ∃ rest, name ++ "." ++ rest = parent ++ "." ++ segment
    · obtain ⟨rest, hrest⟩ := hunder
      -- The name is handed on to a query that does not load its parent either.
      rcases Load.eq_or_of_append_dot_eq hsegment hrest with ⟨rfl, -⟩ | ⟨inner, rfl, rfl⟩
      · exact absurd (Load.mem_direct.1 hname).1 hparent
      · have hinner : inner ∉ Load.below name names := fun hmem ↦ hparent (Load.mem_below.1 hmem)
        rw [ih name relation hrelation _ keys inner hinner, ← hrest]
        simp only [ne_eq, (Load.append_dot_injective name).eq_iff]
        rfl
    · have hkept : ∀ rest ∈ Load.below name names,
          decide (name ++ "." ++ rest ≠ parent ++ "." ++ segment) = true :=
        fun rest _ ↦ decide_eq_true fun heq ↦ hunder ⟨rest, heq⟩
      rw [List.filter_eq_self.2 hkept]

end Query.LoadsPlain

/-- **The cost of loading is bounded by the names.** A filter that loads different names as they are
sends one search for itself and at most one for each name, however many records it finds and
whatever the backend replies. A name of which the part in front of the last dot is not loaded makes
no difference at all. -/
theorem Query.load_cost_bounded {query : Query} {names : List String} (h : query.LoadsPlain names)
    (hnodup : names.Nodup) (backend : Backend σ) (state : σ) (log : List (Operation × Json)) :
    (∃ sent, (query.get.runOn backend.logged (state, log)).2.2 = log ++ sent ∧
      sent.length ≤ 1 + names.length ∧ ∀ asked ∈ sent, asked.1 = .search) ∧
    ∀ parent segment, '.' ∉ segment.toList → parent ∉ names →
      query.get = (query.loading (names.filter (· ≠ parent ++ "." ++ segment))).get :=
  ⟨(h.searchesAtMost_get hnodup).run_logged backend state log,
    fun _ _ hsegment hparent ↦ h.get_without_orphan hsegment hparent⟩

/-- Users, posts, comments and postscripts are searched for, each once. Of the owners of tags
nothing is asked, because no tags are loaded. -/
theorem Query.load_cost_bounded_blog :
    let names := ["posts.tags.owner", "posts.comments", "postscript", "posts"]
    let query := blogUsers.query.loading names
    let sent := (query.get.runOn Store.backend.logged (blogStore, [])).2.2
    sent.length = 4 ∧ sent.length ≤ 5 ∧ (∀ asked ∈ sent, asked.1 = .search) ∧
      query.get = (blogUsers.query.loading ["posts.comments", "postscript", "posts"]).get := by
  intro names query sent
  have hloads : query.LoadsPlain names := ⟨⟨rfl, rfl⟩, rfl⟩
  obtain ⟨⟨found, hfound, hlength, hsearch⟩, horphan⟩ :=
    load_cost_bounded hloads (by decide) Store.backend blogStore []
  have hsent : sent = found := hfound
  rw [hsent]
  refine ⟨?_, hlength, hsearch, ?_⟩
  · rw [← hsent]
    decide +kernel
  · exact (horphan "posts.tags" "owner" (by decide) (by decide)).trans rfl

end RecordSearch
