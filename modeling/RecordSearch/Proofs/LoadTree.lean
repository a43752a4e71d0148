import RecordSearch.Proofs.Related
import RecordSearch.Text.Split
/-!
# Names load exactly the tree that they tell

Dotted names tell a tree of relations: a record that is reached along a path of relations is to
carry those whose names continue the path by one part (`Record.Carries`). A read loads exactly this
tree, for every backend, by induction on what it reads: the names of its direct relations are
attached one after the other, and what is handed to the query for one of them tells the tree behind
it (`Record.carries_of_relations`).

The order of the names does not matter to a backend whose answers depend on the request alone
(`Backend.AnswersByRequest`). Its fetches have outcomes that the state does not enter
(`Fetch.outcome`), and to attach two relations to records is the same in either order
(`Schema.loadOne_comm`).
-/

namespace RecordSearch

variable {α β σ : Type}

/-! ### What is reached from a record -/

/-- The attached records. -/
def Related.records : Related Record → List Record
  | .one record => record.toList
  | .many records => records

/-- What matches a record is one of the related records. -/
theorem Relation.mem_of_mem_matching {relation : Relation} {record child : Record}
    {related : List Record} (h : child ∈ (relation.matching record related).records) :
    child ∈ related := by
  have hpaired : child ∈ relation.paired record related := by
    cases hcardinality : relation.cardinality with
    | one =>
      rw [relation.matching_of_one hcardinality] at h
      exact List.mem_of_mem_head? (Option.mem_toList.1 h)
    | many => rwa [relation.matching_of_many hcardinality] at h
  exact (List.mem_filter.1 hpaired).1

namespace Record

/-- A record **reaches** those that are attached to it under the first name of a path, and what
these reach along the rest. -/
inductive Reaches : Record → List String → Record → Prop where
  /-- A record reaches itself. -/
  | refl (record : Record) : Reaches record [] record
  /-- A step to an attached record. -/
  | step {record child last : Record} {name : String} {related : Related Record}
      {path : List String} (hrelated : record.relation? name = some related)
      (hchild : child ∈ related.records) (hlast : Reaches child path last) :
      Reaches record (name :: path) last

/-- A record **carries** the tree that names tell: each record that is reached along a path carries
relations under exactly the parts by which the names continue the path. -/
def Carries (record : Record) (names : List String) : Prop :=
  ∀ path last, record.Reaches path last → ∀ name,
    (last.relation? name).isSome = true ↔
      '.' ∉ name.toList ∧ Text.join '.' (path ++ [name]) ∈ names

theorem join_singleton (name : String) : Text.join '.' [name] = name :=
  String.ofList_toList

theorem join_cons_append (name : String) (path : List String) (last : String) :
    Text.join '.' (name :: (path ++ [last])) = name ++ "." ++ Text.join '.' (path ++ [last]) := by
  rw [← String.toList_inj, Text.join, List.map_cons, Text.joined_cons_of_ne_nil _ _ (by simp)]
  simp [Text.join]

/-- A record carries a tree if it has the relations of single names, and what is attached to it
carries the trees behind these. -/
theorem carries_of_relations {record : Record} {names : List String}
    (hnames : ∀ name, (record.relation? name).isSome = true ↔ name ∈ Load.direct names)
    (hbelow : ∀ name related, record.relation? name = some related →
      ∀ child ∈ related.records, child.Carries (Load.below name names)) : record.Carries names := by
  rintro path last (_ | @⟨_, child, _, first, related, path, hrelated, hchild, hlast⟩) name
  · rw [hnames, Load.mem_direct, List.nil_append, join_singleton, and_comm]
  · rw [hbelow first related hrelated child hchild path last hlast name, Load.mem_below,
      List.cons_append, join_cons_append]

end Record

/-! ### The tree that a read loads -/

/-- What every step of a fold makes of the things done so far is true of all of them at its end. -/
theorem Fetch.of_foldlM_runOn_eq_ok (done : List α → β → Prop) {backend : Backend σ}
    {step : β → α → Fetch β} {xs : List α}
    (hstep : ∀ before a b next state after, done before b →
      (step b a).runOn backend state = (.ok next, after) → done (before ++ [a]) next)
    {init last : β} {state after : σ} (hinit : done [] init)
    (h : (xs.foldlM step init).runOn backend state = (.ok last, after)) : done xs last := by
  suffices hbehind : ∀ before, done before init → done (before ++ xs) last from hbehind [] hinit
  clear hinit
  induction xs generalizing init state with
  | nil =>
    intro before hbefore
    obtain ⟨rfl, -⟩ : init = last ∧ state = after := by simpa using h
    rwa [List.append_nil]
  | cons a rest ih =>
    intro before hbefore
    rw [List.foldlM_cons] at h
    obtain ⟨next, between, hone, hrest⟩ := Fetch.of_runOn_bind_eq_ok h
    rw [← List.singleton_append, ← List.append_assoc]
    exact ih hrest _ (hstep before a init next state between hbefore hone)

/-- What is fetched is nothing, or what the read of the related records returns. -/
theorem Relation.of_fetchLoading_runOn_eq_ok {relation : Relation} {names : List String}
    {keys : List Json} {related : List Record} {backend : Backend σ} {state after : σ}
    (h : (relation.fetchLoading names keys).runOn backend state = (.ok related, after)) :
    related = [] ∨ ∃ mapped,
      (relation.loadingQuery names keys).get.runOn backend state = (.ok mapped, after) ∧
        mapped.toRecords = related := by
  rw [fetchLoading] at h
  split at h
  · exact .inl (Except.ok.inj (congrArg Prod.fst h)).symm
  · obtain ⟨mapped, between, hget, hrecords⟩ := Fetch.of_runOn_bind_eq_ok h
    obtain ⟨hrelated, rfl⟩ := Prod.mk.inj hrecords
    exact .inr ⟨mapped, hget, Except.ok.inj hrelated⟩

/-- To load one name is to fetch the related records of all keys and to attach what matches. -/
theorem Schema.of_loadOne_runOn_eq_ok {schema : Schema} {names : List String} {name : String}
    {records loaded : List Record} {backend : Backend σ} {state after : σ}
    (h : (schema.loadOne names records name).runOn backend state = (.ok loaded, after)) :
    ∃ relation related, schema.relation? name = some relation ∧
      (relation.fetchLoading (Load.below name names)
        (distinctValues records relation.foreignKey)).runOn backend state = (.ok related, after) ∧
      loaded = records.map fun record ↦ record.attach name (relation.matching record related) := by
  rw [loadOne] at h
  cases hrelation : schema.relation? name with
  | none =>
    rw [hrelation] at h
    cases congrArg Prod.fst h
  | some relation =>
    rw [hrelation] at h
    obtain ⟨related, between, hfetch, hattach⟩ := Fetch.of_runOn_bind_eq_ok h
    obtain ⟨hloaded, rfl⟩ := Prod.mk.inj hattach
    exact ⟨relation, related, rfl, hfetch, (Except.ok.inj hloaded).symm⟩

theorem Record.relation?_attach (record : Record) (name other : String)
    (related : Related Record) :
    (record.attach name related).relation? other =
      if name = other then some related else record.relation? other :=
  Fields.get?_insert _ _ _ _

/-- The record carries the relations of the names that are done, and what is attached to it carries
the trees behind these. -/
structure Record.CarriesSoFar (names done : List String) (record : Record) : Prop where
  /-- The relations are those of the names that are done. -/
  isSome_iff : ∀ name, (record.relation? name).isSome = true ↔ name ∈ done
  /-- The attached records carry what is behind. -/
  below : ∀ name related, record.relation? name = some related →
    ∀ child ∈ related.records, child.Carries (Load.below name names)

/-- One more name is done when records that carry the tree behind it are attached. -/
theorem Record.CarriesSoFar.attach {names done : List String} {record : Record}
    (h : record.CarriesSoFar names done) (name : String) {related : Related Record}
    (hrelated : ∀ child ∈ related.records, child.Carries (Load.below name names)) :
    (record.attach name related).CarriesSoFar names (done ++ [name]) := by
  refine ⟨fun other ↦ ?_, fun other found hfound ↦ ?_⟩
  · rw [relation?_attach, List.mem_append, List.mem_singleton, ← h.isSome_iff]
    by_cases heq : name = other
    · simp [heq]
    · simp [heq, Ne.symm heq]
  · rw [relation?_attach] at hfound
    by_cases heq : name = other
    · rw [if_pos heq] at hfound
      rw [← Option.some.inj hfound, ← heq]
      exact hrelated
    · rw [if_neg heq] at hfound
      exact h.below other found hfound

/-- The records of a response have no relations. -/
theorem Response.relations_of_mem_map {response : Response} {query : Query} {record : Record}
    (h : record ∈ (response.map query).toRecords) : record.relations = [] := by
  rw [map] at h
  split at h
  · cases h
  · split at h
    · cases h
    · obtain ⟨hit, -, hrecord⟩ := List.mem_filterMap.1 h
      rw [← (Hit.record?_eq_some hrecord).2]
      rfl

namespace Query.LoadsPlain

/-- **Names load the tree that they tell**, whatever the backend replies. -/
theorem carries_of_get {query : Query} {names : List String} (h : query.LoadsPlain names)
    {backend : Backend σ} {state after : σ} {mapped : Mapped}
    (hget : query.get.runOn backend state = (.ok mapped, after)) :
    ∀ record ∈ mapped.toRecords, record.Carries names := by
  refine h.induction (motive := fun query names ↦ ∀ state after mapped,
    query.get.runOn backend state = (.ok mapped, after) →
      ∀ record ∈ mapped.toRecords, record.Carries names)
    (fun query names h ih state after mapped hget ↦ ?_) state after mapped hget
  rw [h.get_eq] at hget
  obtain ⟨response, between, -, hload⟩ := Fetch.of_runOn_bind_eq_ok hget
  have hbare : ∀ record ∈ (response.map query).toRecords, record.CarriesSoFar names [] := by
    intro record hrecord
    have hnone : ∀ name, record.relation? name = none := fun name ↦ by
      rw [Record.relation?, Response.relations_of_mem_map hrecord, Fields.get?_nil]
    exact ⟨fun name ↦ by simp [hnone], fun name related hrelated ↦ by simp [hnone] at hrelated⟩
  generalize response.map query = found at hload hbare
  rcases found with (_ | ⟨first, rest⟩) | buckets
  · obtain rfl : Mapped.records [] = mapped := Except.ok.inj (congrArg Prod.fst hload)
    exact fun _ hrecord ↦ absurd hrecord List.not_mem_nil
  · obtain ⟨loaded, last, hfold, hloaded⟩ := Fetch.of_runOn_bind_eq_ok hload
    obtain rfl : Mapped.records loaded = mapped := Except.ok.inj (congrArg Prod.fst hloaded)
    -- Name by name, all records carry what is loaded so far.
    have hdone : ∀ record ∈ loaded, record.CarriesSoFar names (Load.direct names) := by
      refine Fetch.of_foldlM_runOn_eq_ok
        (fun done records ↦ ∀ record ∈ records, record.CarriesSoFar names done)
        (fun done name records next state after hrecords hone ↦ ?_) hbare hfold
      obtain ⟨relation, related, hrelation, hfetch, rfl⟩ := Schema.of_loadOne_runOn_eq_ok hone
      have hrelated : ∀ child ∈ related, child.Carries (Load.below name names) := by
        rcases Relation.of_fetchLoading_runOn_eq_ok hfetch with rfl | ⟨mapped, hmapped, rfl⟩
        · exact fun _ hchild ↦ absurd hchild List.not_mem_nil
        · exact ih name relation hrelation _ _ _ _ mapped hmapped
      intro record hrecord
      obtain ⟨bare, hbare, rfl⟩ := List.mem_map.1 hrecord
      exact (hrecords bare hbare).attach name fun child hchild ↦
        hrelated child (Relation.mem_of_mem_matching hchild)
    exact fun record hrecord ↦
      Record.carries_of_relations (hdone record hrecord).isSome_iff (hdone record hrecord).below
  · obtain rfl : Mapped.buckets buckets = mapped := Except.ok.inj (congrArg Prod.fst hload)
    exact fun _ hrecord ↦ absurd hrecord List.not_mem_nil

end Query.LoadsPlain

/-! ### The order of names -/

/-- What is attached does not enter the values of an attribute. -/
theorem distinctValues_attach (records : List Record) (attached name : String)
    (related : Record → Related Record) :
    distinctValues (records.map fun record ↦ record.attach attached (related record)) name =
      distinctValues records name :=
  distinctValues_map records fun _ ↦ rfl

theorem Record.attach_comm (record : Record) {first second : String} (h : first ≠ second)
    (a b : Related Record) :
    (record.attach first a).attach second b = (record.attach second b).attach first a :=
  congrArg (Record.mk record.schema record.attributes) (Fields.insert_comm record.relations h a b)

/-- The answers of a backend depend on the request alone. -/
def Backend.AnswersByRequest (backend : Backend σ) : Prop :=
  ∀ op request state other, (backend.reply op request state).1 = (backend.reply op request other).1

/-- The outcome of a fetch from a state. -/
def Fetch.outcome (backend : Backend σ) (state : σ) (fetch : Fetch α) : Except Error α :=
  (fetch.runOn backend state).1

section ByRequest

variable {backend : Backend σ} (hanswers : backend.AnswersByRequest) (state : σ)
include hanswers

/-- Then the state does not enter the result of an exchange. -/
theorem Exchange.run_fst_eq (exchange : Exchange α) (other : σ) :
    (exchange.run backend state).1 = (exchange.run backend other).1 := by
  induction exchange generalizing state other with
  | done a => rfl
  | ask op request next ih =>
    rw [run_ask, run_ask, hanswers op request state other]
    exact ih _ _ _

theorem Fetch.outcome_bind (fetch : Fetch α) (next : α → Fetch β) :
    (fetch >>= next).outcome backend state =
      fetch.outcome backend state >>= fun a ↦ (next a).outcome backend state := by
  rw [outcome, runOn_bind, outcome]
  rcases fetch.runOn backend state with ⟨e | a, after⟩
  · rfl
  · exact Exchange.run_fst_eq hanswers after _ state

theorem Fetch.outcome_bind_eq_ok_iff {fetch : Fetch α} {next : α → Fetch β} {b : β} :
    (fetch >>= next).outcome backend state = .ok b ↔
      ∃ a, fetch.outcome backend state = .ok a ∧ (next a).outcome backend state = .ok b := by
  rw [outcome_bind hanswers, bind_eq_ok_iff]

theorem Fetch.outcome_foldlM (step : β → α → Fetch β) (xs : List α) (init : β) :
    (xs.foldlM step init).outcome backend state =
      xs.foldlM (fun b a ↦ (step b a).outcome backend state) init := by
  induction xs generalizing init with
  | nil => rfl
  | cons a rest ih =>
    rw [List.foldlM_cons, outcome_bind hanswers, List.foldlM_cons]
    exact congrArg _ (funext ih)

/-- To load one name succeeds if the fetch of the related records does. -/
theorem Schema.outcome_loadOne_eq_ok_iff {schema : Schema} {names : List String} {name : String}
    {records loaded : List Record} :
    (schema.loadOne names records name).outcome backend state = .ok loaded ↔
      ∃ relation related, schema.relation? name = some relation ∧
        (relation.fetchLoading (Load.below name names)
          (distinctValues records relation.foreignKey)).outcome backend state = .ok related ∧
        loaded = records.map fun record ↦
          record.attach name (relation.matching record related) := by
  constructor
  · intro h
    obtain ⟨relation, related, hrelation, hfetch, hloaded⟩ :=
      of_loadOne_runOn_eq_ok (Prod.ext h rfl)
    exact ⟨relation, related, hrelation, congrArg Prod.fst hfetch, hloaded⟩
  · rintro ⟨relation, related, hrelation, hfetch, rfl⟩
    rw [loadOne, hrelation]
    dsimp only
    rw [Fetch.outcome_bind hanswers, hfetch]
    rfl

/-- Two names load the same in either order. -/
theorem Schema.loadOne_comm {schema : Schema} {names : List String} {first second : String}
    {records between loaded : List Record}
    (hfirst : (schema.loadOne names records first).outcome backend state = .ok between)
    (hsecond : (schema.loadOne names between second).outcome backend state = .ok loaded) :
    ∃ other, (schema.loadOne names records second).outcome backend state = .ok other ∧
      (schema.loadOne names other first).outcome backend state = .ok loaded := by
  by_cases heq : first = second
  · subst heq
    exact ⟨between, hfirst, hsecond⟩
  · rw [outcome_loadOne_eq_ok_iff hanswers] at hfirst hsecond
    obtain ⟨relation, related, hrelation, hfetch, rfl⟩ := hfirst
    obtain ⟨relation', related', hrelation', hfetch', rfl⟩ := hsecond
    -- What is attached for one name leaves the keys of the other one, and what matches them.
    rw [distinctValues_attach] at hfetch'
    refine ⟨_, (outcome_loadOne_eq_ok_iff hanswers state).2
      ⟨relation', related', hrelation', hfetch', rfl⟩, ?_⟩
    refine (outcome_loadOne_eq_ok_iff hanswers state).2 ⟨relation, related, hrelation, ?_, ?_⟩
    · rwa [distinctValues_attach]
    · rw [List.map_map, List.map_map]
      exact List.map_congr_left fun record _ ↦ record.attach_comm heq _ _

end ByRequest

section Folds

variable {ε : Type} {step : β → α → Except ε β} {xs ys : List α} {init last : β}

theorem foldlM_cons_eq_ok_iff {a : α} :
    (a :: xs).foldlM step init = .ok last ↔
      ∃ next, step init a = .ok next ∧ xs.foldlM step next = .ok last := by
  rw [List.foldlM_cons, bind_eq_ok_iff]

/-- A fold that succeeds does so with all steps that do what its steps do. -/
theorem foldlM_eq_ok_of_imp {other : β → α → Except ε β}
    (h : ∀ b a c, step b a = .ok c → other b a = .ok c) (hfold : xs.foldlM step init = .ok last) :
    xs.foldlM other init = .ok last := by
  induction xs generalizing init with
  | nil => exact hfold
  | cons a rest ih =>
    obtain ⟨next, hone, hrest⟩ := foldlM_cons_eq_ok_iff.1 hfold
    exact foldlM_cons_eq_ok_iff.2 ⟨next, h init a next hone, ih hrest⟩

/-- A fold that succeeds does so in any order, if two steps can be exchanged. -/
theorem foldlM_eq_ok_of_perm
    (hcomm : ∀ {b first second c d}, step b first = .ok c → step c second = .ok d →
      ∃ other, step b second = .ok other ∧ step other first = .ok d)
    (h : xs.Perm ys) (hfold : xs.foldlM step init = .ok last) :
    ys.foldlM step init = .ok last := by
  induction h generalizing init with
  | nil => exact hfold
  | cons a _ ih =>
    obtain ⟨next, hone, hrest⟩ := foldlM_cons_eq_ok_iff.1 hfold
    exact foldlM_cons_eq_ok_iff.2 ⟨next, hone, ih hrest⟩
  | swap second first rest =>
    obtain ⟨between, hfirst, hbehind⟩ := foldlM_cons_eq_ok_iff.1 hfold
    obtain ⟨next, hsecond, hrest⟩ := foldlM_cons_eq_ok_iff.1 hbehind
    obtain ⟨other, hsecond', hfirst'⟩ := hcomm hfirst hsecond
    exact foldlM_cons_eq_ok_iff.2 ⟨other, hsecond', foldlM_cons_eq_ok_iff.2 ⟨next, hfirst', hrest⟩⟩
  | trans _ _ ih ih' => exact ih' (ih hfold)

end Folds

section ByRequest

variable {backend : Backend σ} (hanswers : backend.AnswersByRequest) (state : σ)
  {names others : List String}
include hanswers

/-- To fetch related records succeeds with all names with which the read of them does. -/
theorem Relation.outcome_fetchLoading_of_get {relation : Relation} {keys : List Json}
    (h : ∀ mapped, (relation.loadingQuery names keys).get.outcome backend state = .ok mapped →
      (relation.loadingQuery others keys).get.outcome backend state = .ok mapped)
    {related : List Record}
    (hfetch : (relation.fetchLoading names keys).outcome backend state = .ok related) :
    (relation.fetchLoading others keys).outcome backend state = .ok related := by
  rw [fetchLoading] at hfetch ⊢
  split at hfetch
  · next hempty => rwa [if_pos hempty]
  · next hempty =>
    obtain ⟨mapped, hget, hrelated⟩ := (Fetch.outcome_bind_eq_ok_iff hanswers state).1 hfetch
    rw [if_neg hempty]
    exact (Fetch.outcome_bind_eq_ok_iff hanswers state).2 ⟨mapped, h mapped hget, hrelated⟩

/-- To load names succeeds in any order, if every name loads the same. -/
theorem Schema.outcome_loadAll_of_perm {schema : Schema} (hperm : names.Perm others)
    (hone : ∀ records name loaded,
      (schema.loadOne names records name).outcome backend state = .ok loaded →
        (schema.loadOne others records name).outcome backend state = .ok loaded)
    {found mapped : Mapped} (h : (schema.loadAll names found).outcome backend state = .ok mapped) :
    (schema.loadAll others found).outcome backend state = .ok mapped := by
  rcases found with (_ | ⟨first, rest⟩) | buckets
  · exact h
  · rw [loadAll, Fetch.outcome_bind_eq_ok_iff hanswers] at h ⊢
    obtain ⟨loaded, hloaded, hmapped⟩ := h
    refine ⟨loaded, ?_, hmapped⟩
    rw [Fetch.outcome_foldlM hanswers] at hloaded ⊢
    exact foldlM_eq_ok_of_perm (loadOne_comm hanswers state) (hperm.filter _)
      (foldlM_eq_ok_of_imp hone hloaded)
  · exact h

/-- The result of a read does not depend on the order of its names. -/
theorem Query.LoadsPlain.outcome_get_of_perm {query : Query} (h : query.LoadsPlain names)
    (hperm : names.Perm others) {mapped : Mapped}
    (hget : query.get.outcome backend state = .ok mapped) :
    (query.loading others).get.outcome backend state = .ok mapped := by
  refine h.induction (motive := fun query names ↦ ∀ others mapped, names.Perm others →
    query.get.outcome backend state = .ok mapped →
      (query.loading others).get.outcome backend state = .ok mapped)
    (fun query names h ih others mapped hperm hget ↦ ?_) others mapped hperm hget
  rw [h.get_eq, Fetch.outcome_bind_eq_ok_iff hanswers] at hget
  rw [(h.toIsFilter.loadsPlain_loading others).get_eq, Fetch.outcome_bind_eq_ok_iff hanswers]
  obtain ⟨response, hsearch, hload⟩ := hget
  refine ⟨response, hsearch, Schema.outcome_loadAll_of_perm hanswers state hperm
    (fun records name loaded hone ↦ ?_) hload⟩
  rw [Schema.outcome_loadOne_eq_ok_iff hanswers] at hone ⊢
  obtain ⟨relation, related, hrelation, hfetch, hloaded⟩ := hone
  -- What is handed to the query for the name is permuted along.
  exact ⟨relation, related, hrelation, Relation.outcome_fetchLoading_of_get hanswers state
    (fun mapped ↦ ih name relation hrelation _ _ _ mapped (hperm.filterMap _)) hfetch, hloaded⟩

end ByRequest

/-- **Names load exactly the tree that they tell.** If a read that loads names as they are succeeds,
then every record that it returns carries the tree of these names, whatever the backend replied; and
from a backend whose answers depend on the request alone, every order of the names and every state
gives the same result. -/
theorem Query.loads_exact_tree {query : Query} {names : List String} (h : query.LoadsPlain names)
    (backend : Backend σ) (state : σ) {mapped : Mapped}
    (hget : (query.get.runOn backend state).1 = .ok mapped) :
    (∀ record ∈ mapped.toRecords, record.Carries names) ∧
      (backend.AnswersByRequest → ∀ others, names.Perm others → ∀ other,
        ((query.loading others).get.runOn backend other).1 = .ok mapped) := by
  refine ⟨h.carries_of_get (Prod.ext hget rfl), fun hanswers others hperm other ↦ ?_⟩
  exact (Exchange.run_fst_eq hanswers other _ state).trans
    (h.outcome_get_of_perm hanswers state hperm hget)

/-- The backend that answers from a store and leaves it as it is. -/
def Store.frozen (store : Store) : Backend Unit where
  reply op request _ := ((reply op request store).1, ())

/-- Names are listed with children in front of their parents, and a name is the beginning of another
one without being its parent. -/
theorem Query.loads_exact_tree_blog :
    let names := ["posts.comments.author", "postscript", "posts.comments", "posts"]
    let others := ["posts", "posts.comments", "postscript", "posts.comments.author"]
    ∃ mapped, ((blogUsers.query.loading names).get.runOn blogStore.frozen ()).1 = .ok mapped ∧
      mapped.size = 2 ∧ (∀ record ∈ mapped.toRecords, record.Carries names) ∧
      ((blogUsers.query.loading others).get.runOn blogStore.frozen ()).1 = .ok mapped := by
  intro names others
  have hsize : ((blogUsers.query.loading names).get.runOn blogStore.frozen ()).1.toOption.map
      Mapped.size = some 2 := by decide +kernel
  cases hget : ((blogUsers.query.loading names).get.runOn blogStore.frozen ()).1 with
  | error e =>
    rw [hget] at hsize
    cases hsize
  | ok mapped =>
    rw [hget] at hsize
    have hloads : (blogUsers.query.loading names).LoadsPlain names := ⟨⟨rfl, rfl⟩, rfl⟩
    obtain ⟨hcarries, horder⟩ := loads_exact_tree hloads blogStore.frozen () hget
    have hperm : names.Perm others := by decide
    exact ⟨mapped, rfl, Option.some.inj hsize, hcarries, horder (fun _ _ _ _ ↦ rfl) others hperm ()⟩

end RecordSearch
