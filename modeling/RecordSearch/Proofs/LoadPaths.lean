import Mathlib.Data.List.Basic
import RecordSearch.Proofs.Search
import RecordSearch.Query.Related
/-!
# Loading paths of relations along

A read that loads relations as they are is told by the names of its loads: a name without a dot is
loaded by the read itself, and of a longer one the rest behind the first dot is handed to the query
for its first part (`Load.below`). `Query.LoadsPlain.get_eq` says what such a read does, one
relation after the other, and `Query.LoadsPlain.induction` is the induction on what it reads: to
show something of a read, it may be assumed of the reads of related records, whatever they load in
turn.
-/

namespace RecordSearch

/-! ### Names of loads -/

namespace Load

/-- The load of a name as it is. -/
def plain (name : String) : Load :=
  ⟨name, none⟩

theorem behind?_eq_some_iff {start text rest : List Char} :
    behind? start text = some rest ↔ start ++ rest = text := by
  induction start generalizing text with
  | nil => rw [behind?, Option.some_inj, List.nil_append, eq_comm]
  | cons c start ih =>
    cases text with
    | nil => simp [behind?]
    | cons d text =>
      rw [behind?, List.cons_append, List.cons_eq_cons]
      split
      · next heq => simp only [ih, heq, true_and]
      · next hne => simp [hne]

/-- The rest of a name behind a parent and a dot. -/
def rest? (parent name : String) : Option String :=
  (behind? (parent.toList ++ ['.']) name.toList).map String.ofList

theorem rest?_eq_some_iff {parent name rest : String} :
    rest? parent name = some rest ↔ parent ++ "." ++ rest = name := by
  simp only [rest?, Option.map_eq_some_iff, behind?_eq_some_iff]
  constructor
  · rintro ⟨text, htext, rfl⟩
    rw [← String.toList_inj, ← htext]
    simp
  · rintro rfl
    exact ⟨rest.toList, by simp, String.ofList_toList⟩

/-- What a query for a parent is handed of names: the rests of those that continue it. -/
def below (parent : String) (names : List String) : List String :=
  names.filterMap (rest? parent)

theorem mem_below {parent rest : String} {names : List String} :
    rest ∈ below parent names ↔ parent ++ "." ++ rest ∈ names := by
  simp [below, List.mem_filterMap, rest?_eq_some_iff]

/-- No name continues itself. -/
theorem below_singleton_self (name : String) : below name [name] = [] := by
  refine List.eq_nil_iff_forall_not_mem.2 fun rest hrest ↦ ?_
  have hlength := congrArg String.length (List.mem_singleton.1 (mem_below.1 hrest))
  rw [String.length_append, String.length_append] at hlength
  have hdot : ".".length = 1 := rfl
  omega

theorem filterMap_under?_plain (parent : String) (names : List String) :
    (names.map plain).filterMap (·.under? parent) = (below parent names).map plain := by
  rw [List.filterMap_map, below, List.map_filterMap]
  refine List.filterMap_congr fun name _ ↦ ?_
  rw [rest?, Option.map_map]
  rfl

/-- The names without a dot. -/
def direct (names : List String) : List String :=
  names.filter fun name ↦ !name.toList.contains '.'

theorem mem_direct {name : String} {names : List String} :
    name ∈ direct names ↔ name ∈ names ∧ '.' ∉ name.toList := by
  rw [direct, List.mem_filter, Bool.not_eq_true', ← Bool.not_eq_true, List.contains_iff_mem]

theorem direct_singleton {name : String} (h : '.' ∉ name.toList) : direct [name] = [name] := by
  simp [direct, h]

theorem filter_not_isNested_plain (names : List String) :
    ((names.map plain).filter fun load ↦ !load.isNested) = (direct names).map plain :=
  List.filter_map

end Load

/-! ### Reads of related records -/

/-- The query that loads names as they are, and nothing else. -/
def Query.loading (query : Query) (names : List String) : Query :=
  { query with loads := names.map Load.plain }

namespace Relation

variable (relation : Relation)

/-- The number of related records that are fetched for some keys. -/
def fetchLimit (keys : List Json) : Nat :=
  match relation.cardinality with
  | .one => keys.length
  | .many => relation.maxRelated

/-- The query for the related records of some keys, if nothing else is asked of them. -/
def keyQuery (keys : List Json) : Query where
  schema := relation.related
  criteria.conditions.must :=
    (if relation.related.softDelete then [.leaf (softDeleteClause 0)] else []) ++
      [.leaf (.terms relation.ownerKey keys)]
  criteria.limit := some (relation.fetchLimit keys)

/-- The query for the related records of some keys that loads names along. -/
def loadingQuery (names : List String) (keys : List Json) : Query :=
  (relation.keyQuery keys).loading names

theorem query_plain (name : String) (names : List String) (keys : List Json) :
    relation.query (.plain name) (names.map Load.plain) keys =
      relation.loadingQuery (Load.below name names) keys := by
  have hload : ∀ (query : Query) (nested : List String),
      query.refine ((nested.map Load.plain).map Load.toStep) =
        { query with loads := query.loads ++ nested.map Load.plain } := by
    intro query nested
    induction nested generalizing query with
    | nil => rw [List.map_nil, List.append_nil]; rfl
    | cons first rest ih =>
      rw [List.map_cons, List.map_cons, Query.refine_cons, ih]
      simp [Load.toStep, Load.plain, Step.apply]
  rw [query, loadingQuery, keyQuery, Query.loading]
  dsimp only
  rw [show (Load.plain name).name = name from rfl, Load.filterMap_under?_plain, hload, Schema.query]
  split <;> rfl

/-- Fetch the related records of some keys and load names along; for no keys nothing is asked. -/
def fetchLoading (names : List String) (keys : List Json) : Fetch (List Record) :=
  if keys.isEmpty then pure [] else do
    let mapped ← (relation.loadingQuery names keys).get
    pure mapped.toRecords

end Relation

namespace Schema

variable (schema : Schema)

/-- Attach to records what a relation of the schema loads for them. -/
def loadOne (names : List String) (records : List Record) (name : String) : Fetch (List Record) :=
  match schema.relation? name with
  | none => throw (.configuration (.unknownRelation schema.table name))
  | some relation => do
    let related ← relation.fetchLoading (Load.below name names)
      (distinctValues records relation.foreignKey)
    pure (records.map fun record ↦ record.attach name (relation.matching record related))

/-- Attach to the records of a result, if there are any, what the names load for them. -/
def loadAll (names : List String) : Mapped → Fetch Mapped
  | .buckets buckets => pure (.buckets buckets)
  | .records [] => pure (.records [])
  | .records (first :: rest) => do
    let loaded ← (Load.direct names).foldlM (schema.loadOne names) (first :: rest)
    pure (.records loaded)

/-- Names load the same if they are directly the same and each of these loads the same. -/
theorem loadAll_congr {names others : List String}
    (hdirect : Load.direct others = Load.direct names)
    (hone : ∀ records, ∀ name ∈ Load.direct names,
      schema.loadOne names records name = schema.loadOne others records name) (mapped : Mapped) :
    schema.loadAll names mapped = schema.loadAll others mapped := by
  rcases mapped with (_ | ⟨first, rest⟩) | buckets
  · rfl
  · rw [loadAll, loadAll, hdirect, List.foldlM_eq_foldl, List.foldlM_eq_foldl]
    rw [List.foldl_ext _ _ _ fun loaded name hname ↦ bind_congr fun records ↦
      hone records name hname]
  · rfl

end Schema

namespace Query

/-- The query is a filter that **loads** names as they are. -/
structure LoadsPlain (query : Query) (names : List String) : Prop extends query.IsFilter where
  /-- The names are loaded, and no query for related records is refined. -/
  loads_eq : query.loads = names.map Load.plain

theorem IsFilter.loadsPlain_loading {query : Query} (h : query.IsFilter) (names : List String) :
    (query.loading names).LoadsPlain names :=
  ⟨⟨h.freeText_eq_none, h.callback_eq_none⟩, rfl⟩

end Query

theorem Relation.loadsPlain_loadingQuery (relation : Relation) (names : List String)
    (keys : List Json) : (relation.loadingQuery names keys).LoadsPlain names :=
  Query.IsFilter.loadsPlain_loading ⟨rfl, rfl⟩ names

namespace Query.LoadsPlain

variable {query : Query} {names : List String} (h : query.LoadsPlain names)
include h

theorem complete_eq (response : Response) :
    query.complete response = query.schema.loadAll names (response.map query) := by
  rw [complete]
  split
  · next hmap => rw [hmap]; rfl
  · next hmap => rw [hmap]; rfl
  · next found hne hmap =>
    rw [hmap]
    cases found with
    | nil => exact absurd rfl hne
    | cons first rest =>
      dsimp only
      rw [h.loads_eq, Load.filter_not_isNested_plain, List.foldlM_map, Schema.loadAll]
      -- The fold is the same, step by step.
      refine congrArg (· >>= fun loaded ↦ pure (Mapped.records loaded)) ?_
      refine congrArg (fun step ↦ List.foldlM step (first :: rest) (Load.direct names))
        (funext fun records ↦ funext fun name ↦ ?_)
      rw [Schema.loadOne]
      split
      · next hnone =>
        rw [show query.schema.relation? name = none from hnone]
        rfl
      · next relation hrelation =>
        rw [show query.schema.relation? name = some relation from hrelation]
        dsimp only
        rw [relation.query_plain, Relation.fetchLoading, get]
        split <;> simp only [pure_bind, bind_assoc] <;> rfl

/-- **What a read does that loads names as they are.** It searches, and attaches to the records that
it finds what the names load for them. -/
theorem get_eq : query.get = query.search >>= fun response ↦
    query.schema.loadAll names (response.map query) := by
  rw [get]
  exact congrArg _ (funext h.complete_eq)

end Query.LoadsPlain

/-- **Induction on what is read.** What holds of a read if it holds of all reads of related records
holds of every read that loads names as they are. -/
theorem Query.LoadsPlain.induction {motive : Query → List String → Prop}
    (ih : ∀ query names, query.LoadsPlain names →
      (∀ name relation, query.schema.relation? name = some relation → ∀ nested keys,
        motive (relation.loadingQuery nested keys) nested) → motive query names)
    {query : Query} {names : List String} (h : query.LoadsPlain names) : motive query names :=
  ih query names h fun _ relation _ nested keys ↦
    Query.LoadsPlain.induction ih (relation.loadsPlain_loadingQuery nested keys)
termination_by sizeOf query.schema
decreasing_by exact Schema.sizeOf_related_lt ‹_›

/-! ### A blog -/

/-- Users with posts and a postscript; posts have comments, and these have an author. -/
def blogUsers : Schema :=
  let comments := (Schema.ofTable "comments").withRelation "author"
    { related := .ofTable "users", foreignKey := "user_id", ownerKey := "id", cardinality := .one }
  let posts := (Schema.ofTable "posts").withRelation "comments"
    { related := comments, foreignKey := "id", ownerKey := "post_id", cardinality := .many }
  (Schema.ofTable "users").withRelation "posts"
      { related := posts, foreignKey := "id", ownerKey := "user_id", cardinality := .many }
    |>.withRelation "postscript"
      { related := .ofTable "postscripts", foreignKey := "id", ownerKey := "user_id",
        cardinality := .one }

/-- Two users. One of them has two posts, and both have commented one of these. -/
def blogStore : Store :=
  let store : Store := {}
  store.put "users_index" "1" (.ofFields [("id", .ofNat 1)])
    |>.put "users_index" "2" (.ofFields [("id", .ofNat 2)])
    |>.put "posts_index" "10" (.ofFields [("id", .ofNat 10), ("user_id", .ofNat 1)])
    |>.put "posts_index" "11" (.ofFields [("id", .ofNat 11), ("user_id", .ofNat 1)])
    |>.put "comments_index" "20"
      (.ofFields [("id", .ofNat 20), ("post_id", .ofNat 10), ("user_id", .ofNat 1)])
    |>.put "comments_index" "21"
      (.ofFields [("id", .ofNat 21), ("post_id", .ofNat 10), ("user_id", .ofNat 2)])

end RecordSearch
