import RecordSearch.Proofs.WriteBack
/-!
# Whether a deletion or an update by query reaches every match

A deletion or an update by query handles the records of one search. A search without a window of
its own shows the first ten documents that it matches, so no more than ten records are handled:
after the deletion of `n` matched documents `n - 10` are left, and an update leaves the documents
behind the first ten as they are. `bulk_reaches_matched_iff` says this exactly.

The documents are those of one index, in the order of their ids, each stored under its key, and
neither the window nor the reading of hits gets in the way (`Query.IsPlain`).
-/

namespace RecordSearch

/-- Without those whose ids are among the first ones, a list by increasing ids is what is behind
them. -/
theorem filter_not_any_take {documents : List Found}
    (h : documents.Pairwise fun a b ↦ a.id < b.id) (count : Nat) :
    (documents.filter fun found ↦
      !(documents.take count).any fun shown ↦ decide (shown.id = found.id)) =
      documents.drop count := by
  have hparts := List.take_append_drop count documents
  generalize documents.take count = first at hparts ⊢
  generalize documents.drop count = rest at hparts ⊢
  subst hparts
  obtain ⟨-, -, hlt⟩ := List.pairwise_append.1 h
  have hfirst : (first.filter fun found ↦
      !first.any fun shown ↦ decide (shown.id = found.id)) = [] := by
    refine List.filter_eq_nil_iff.2 fun found hfound ↦ ?_
    simp only [Bool.not_eq_true', Bool.not_eq_false]
    exact List.any_eq_true.2 ⟨found, hfound, decide_eq_true rfl⟩
  -- Ids behind the first ones are greater, so they are none of them.
  have hrest : (rest.filter fun found ↦
      !first.any fun shown ↦ decide (shown.id = found.id)) = rest := by
    refine List.filter_eq_self.2 fun found hfound ↦ ?_
    rw [Bool.not_eq_true', List.any_eq_false]
    intro shown hshown hsame
    have hid := hlt shown hshown found hfound
    rw [of_decide_eq_true hsame] at hid
    exact String.lt_irrefl _ hid
  rw [List.filter_append, hfirst, hrest, List.nil_append]

/-- Where ids increase, documents of one id are at one place. -/
theorem eq_of_id_of_getElem? {documents : List Found}
    (h : documents.Pairwise fun a b ↦ a.id < b.id) {i j : Nat} {a b : Found}
    (ha : documents[i]? = some a) (hb : documents[j]? = some b) (hid : a.id = b.id) : i = j := by
  have hnodup : (documents.map Found.id).Nodup :=
    List.pairwise_map.2 (h.imp fun hlt ↦ String.ne_of_lt hlt)
  refine (List.getElem?_inj ?_ hnodup).1 ?_
  · rw [List.length_map]
    exact (List.getElem?_eq_some_iff.1 ha).1
  · rw [List.getElem?_map, List.getElem?_map, ha, hb, Option.map_some, Option.map_some, hid]

/-! ### Plain queries -/

namespace Query

/-- The query says which documents it wants, and nothing about window, indices, groups or
relations. -/
structure IsPlain (query : Query) : Prop extends IsFilter query where
  /-- No document is passed over. -/
  offset_eq_none : query.criteria.offset = none
  /-- There is no greatest number of documents. -/
  limit_eq_none : query.criteria.limit = none
  /-- No further index is searched. -/
  unions_eq_nil : query.criteria.unions = []
  /-- No alias is searched in place of the schema's index. -/
  aliasName_eq_none : query.criteria.aliasName = none
  /-- Nothing is grouped. -/
  groups_eq_empty : query.criteria.groups = ∅
  /-- No relation is loaded along. -/
  loads_eq_nil : query.loads = []

namespace IsPlain

variable {query : Query} (h : query.IsPlain)
include h

theorem handFree : query.HandFree :=
  ⟨h.callback_eq_none, fun _ hload ↦ absurd (h.loads_eq_nil ▸ hload) List.not_mem_nil⟩

theorem baseIndex?_eq : query.baseIndex? = .ok query.schema.indexName := by
  rw [baseIndex?, h.aliasName_eq_none]

theorem accepted_eq (store : Store) (base : String) :
    query.accepted store base =
      (store.documentsOf base).filter fun found ↦ query.criteria.conditions.hold found.source := by
  rw [accepted, h.unions_eq_nil, List.flatMap_singleton]

/-- A plain query shows the first ten documents that it accepts. -/
theorem shown_eq (store : Store) (base : String) :
    query.shown store base = (query.accepted store base).take 10 := by
  rw [shown, h.offset_eq_none, h.limit_eq_none]
  rfl

theorem length_shown (store : Store) (base : String) :
    (query.shown store base).length = min 10 (query.accepted store base).length := by
  rw [h.shown_eq, List.length_take]

/-- The accepted documents are listed by increasing ids. -/
theorem pairwise_id_accepted (store : Store) (base : String) :
    (query.accepted store base).Pairwise fun a b ↦ a.id < b.id := by
  rw [h.accepted_eq]
  exact (store.pairwise_id_documentsOf base).filter _

theorem pairwise_id_shown (store : Store) (base : String) :
    (query.shown store base).Pairwise fun a b ↦ a.id < b.id := by
  rw [h.shown_eq]
  exact (h.pairwise_id_accepted store base).take

/-- An accepted document is one of the schema's index. -/
theorem mem_documentsOf_of_mem_accepted {store : Store} {base : String} {found : Found}
    (hfound : found ∈ query.accepted store base) : found ∈ store.documentsOf base := by
  rw [h.accepted_eq] at hfound
  exact (List.mem_filter.1 hfound).1

/-- A shown document is stored under its key. -/
theorem keyText?_of_mem_shown {store : Store} (hkeyed : store.KeyedBy query.schema) {found : Found}
    (hfound : found ∈ query.shown store query.schema.indexName) :
    query.schema.keyText? found.source = some found.id :=
  Store.keyedBy_iff.1 hkeyed found
    (h.mem_documentsOf_of_mem_accepted (mem_accepted_of_mem_shown hfound))

theorem key_of_mem_shown {store : Store} (hkeyed : store.KeyedBy query.schema) {found : Found}
    (hfound : found ∈ query.shown store query.schema.indexName) :
    (found.record query.schema).toEntry.key = some found.id :=
  (found.key?_record query.schema).trans (h.keyText?_of_mem_shown hkeyed hfound)

section Keyed

variable (hcast : query.schema.cast = none) {store : Store} (hkeyed : store.KeyedBy query.schema)
include hcast hkeyed

/-- The records found are those of the shown documents. -/
theorem recordsFound_eq :
    query.recordsFound store query.schema.indexName =
      (query.shown store query.schema.indexName).map (Found.record · query.schema) := by
  rw [recordsFound, if_pos (Dict.isEmpty_iff.2 h.groups_eq_empty), h.unions_eq_nil,
    ← List.filterMap_eq_map]
  exact List.filterMap_congr fun found hfound ↦
    Found.record?_hit_of_keyText hcast (h.keyText?_of_mem_shown hkeyed hfound)

/-! ### Deletions -/

/-- The entries to delete are those of the shown documents, each with the id for its key. -/
theorem foundEntries_eq :
    query.foundEntries store query.schema.indexName =
      (query.shown store query.schema.indexName).map fun found ↦
        (found.record query.schema).toEntry := by
  rw [foundEntries, h.recordsFound_eq hcast hkeyed, List.map_map]
  rfl

/-- No deletion stops at a record found. -/
theorem find?_stops_foundEntries :
    (query.foundEntries store query.schema.indexName).find? Change.remove.stops = none := by
  rw [h.foundEntries_eq hcast hkeyed, List.find?_eq_none]
  intro entry hentry
  obtain ⟨found, hfound, rfl⟩ := List.mem_map.1 hentry
  simp [Change.stops, h.key_of_mem_shown hkeyed hfound]

/-- An entry found is that of an id exactly if a document of the id is shown. -/
theorem any_isAt_foundEntries (id : String) :
    (query.foundEntries store query.schema.indexName).any
        (Entry.isAt query.schema.indexName id) =
      (query.shown store query.schema.indexName).any fun shown ↦ decide (shown.id = id) := by
  rw [h.foundEntries_eq hcast hkeyed, List.any_map, Bool.eq_iff_iff, List.any_eq_true,
    List.any_eq_true]
  refine exists_congr fun shown ↦ and_congr_right fun hshown ↦ ?_
  rw [Function.comp_apply, Entry.isAt_iff, h.key_of_mem_shown hkeyed hshown, decide_eq_true_iff,
    Option.some.injEq]
  exact and_iff_right rfl

/-- What a deletion by the query leaves of the accepted documents are those behind the first
ten. -/
theorem accepted_of_made_remove {after : Store}
    (hmade : Change.remove.Made (query.foundEntries store query.schema.indexName) store after) :
    query.accepted after query.schema.indexName =
      (query.accepted store query.schema.indexName).drop 10 := by
  rw [h.accepted_eq, Change.documentsOf_of_made_remove hmade, List.filter_comm, ← h.accepted_eq,
    ← filter_not_any_take (h.pairwise_id_accepted store _) 10, ← h.shown_eq]
  exact List.filter_congr fun found _ ↦ by rw [h.any_isAt_foundEntries hcast hkeyed]

/-- A deletion by the query succeeds, and leaves the accepted documents behind the first ten. -/
theorem deleteMatching_runOn
    (hidle : Store.Idle store.searchAnswers query.schema.indexName) (engine : Engine)
    (caches : Caches) :
    ∃ report after,
      (engine.deleteMatching query).runOn Store.backend caches store =
        ((.ok report, caches), after) ∧
        after.countAnswers = store.countAnswers ∧
        query.accepted after query.schema.indexName =
          (query.accepted store query.schema.indexName).drop 10 := by
  obtain ⟨mapped, hfound, hget⟩ :=
    get_runOn_of_loads_eq_nil h.toIsFilter h.loads_eq_nil h.baseIndex?_eq hidle
  obtain ⟨after, hrun, hmade⟩ := engine.deleteMatching_runOn_of_get caches hget hfound
  have hstops := h.find?_stops_foundEntries hcast hkeyed
  rw [Change.reached_eq_self hstops] at hmade
  rw [Change.outcome, hstops] at hrun
  exact ⟨_, after, hrun, hmade.answers.countAnswers,
    h.accepted_of_made_remove hcast hkeyed hmade.of_noting⟩

end Keyed

end IsPlain

end Query

/-! ### Updates -/

/-- The document has all of the attributes. -/
def Carries (attributes : Object) (source : Json) : Prop :=
  ∀ name value, attributes.get? name = some value → source.field? name = some value

/-- The time of change does not get in the way of the attributes: the schema does not keep it, or
the attributes have nothing else for it. -/
def AllowsTime (schema : Schema) (attributes : Object) (now : String) : Prop :=
  schema.timestamps = true →
    ∀ value, attributes.get? "updated_at" = some value → value = .string now

namespace Found

/-- The entry that is written over a document. -/
def filled (found : Found) (schema : Schema) (attributes : Object) (now : String) : Entry :=
  (((found.record schema).fill attributes).touch now).toEntry

variable (found : Found) (schema : Schema) (attributes : Object) (now : String)

theorem schema_filled : (found.filled schema attributes now).schema = schema :=
  Record.schema_touch_fill _ _ _

theorem get?_projection_filled (name : String) :
    (found.filled schema attributes now).projection.get? name =
      if schema.timestamps = true ∧ "updated_at" = name then some (.string now)
      else (attributes.get? name).or (found.source.fieldsOrNone.get? name) :=
  (found.record schema).get?_touch_fill attributes now name

/-- What is written over a document has the attributes unless the time of change gets in the
way. -/
theorem carries_filled_iff :
    Carries attributes (.ofObject (found.filled schema attributes now).projection) ↔
      AllowsTime schema attributes now := by
  simp only [Carries, Json.field?_ofObject, get?_projection_filled]
  constructor
  · intro hcarries htime value hvalue
    have hnow := hcarries "updated_at" value hvalue
    rw [if_pos ⟨htime, rfl⟩] at hnow
    exact (Option.some.inj hnow).symm
  · intro hallows name value hvalue
    split
    · next htime =>
      obtain ⟨htime, rfl⟩ := htime
      rw [hallows htime value hvalue]
    · rw [hvalue, Option.some_or]

theorem projection_filled_ne_empty {attributes : Object} (h : attributes ≠ ∅) :
    (found.filled schema attributes now).projection ≠ ∅ := by
  intro hempty
  refine h (Dict.ext_get? fun name ↦ ?_)
  have hnone := found.get?_projection_filled schema attributes now name
  rw [hempty, Dict.get?_empty] at hnone
  split at hnone
  · exact absurd hnone nofun
  · exact (Option.or_eq_none_iff.1 hnone.symm).1

/-- The key of what is written is that of the document, unless the time of change is the key. -/
theorem key_filled {attributes : Object} (h : attributes.get? schema.keyName = none) :
    (found.filled schema attributes now).key =
      if schema.timestamps = true ∧ "updated_at" = schema.keyName then some now
      else schema.keyText? found.source := by
  rw [← found.key?_record]
  exact (found.record schema).key?_touch_fill now h

/-- The entries that are written over documents, each at the time that the clock tells for its
place. -/
def allFilled (documents : List Found) (schema : Schema) (attributes : Object)
    (clock : Nat → String) : List Entry :=
  documents.mapIdx fun place found ↦ found.filled schema attributes (clock place)

theorem mem_allFilled_iff {documents : List Found} {schema : Schema} {attributes : Object}
    {clock : Nat → String} {entry : Entry} :
    entry ∈ allFilled documents schema attributes clock ↔ ∃ (place : Nat) (found : Found),
      documents[place]? = some found ∧ found.filled schema attributes (clock place) = entry :=
  mem_mapIdx_iff

/-- After entries were written over documents, what is stored under an id was written over one of
them, if one has this key then, and is as before if none has. -/
theorem document?_of_made_allFilled {schema : Schema} {attributes : Object} {clock : Nat → String}
    (hattributes : attributes ≠ ∅) {documents : List Found} {store after : Store}
    (hmade : Change.write.Made (allFilled documents schema attributes clock) store after)
    (index id : String) :
    (∃ (place : Nat) (found : Found), documents[place]? = some found ∧ schema.indexName = index ∧
        (found.filled schema attributes (clock place)).key = some id ∧
        after.document? index id =
          some (.ofObject (found.filled schema attributes (clock place)).projection)) ∨
      (schema.indexName = index → ∀ (place : Nat) (found : Found), documents[place]? = some found →
        (found.filled schema attributes (clock place)).key ≠ some id) ∧
        after.document? index id = store.document? index id := by
  have hdocument := Change.document?_of_made_write hmade index id
  cases hlast : Entry.lastWritten? index id (allFilled documents schema attributes clock) with
  | some entry =>
    rw [hlast] at hdocument
    obtain ⟨hentry, hindex, hkey, -⟩ := Entry.of_lastWritten?_eq_some hlast
    obtain ⟨place, found, hfound, rfl⟩ := mem_allFilled_iff.1 hentry
    rw [schema_filled] at hindex
    exact .inl ⟨place, found, hfound, hindex, hkey, hdocument⟩
  | none =>
    rw [hlast] at hdocument
    refine .inr ⟨fun hindex place found hfound hkey ↦ ?_, hdocument⟩
    have hwrites := Entry.lastWritten?_eq_none_iff.1 hlast _
      (mem_allFilled_iff.2 ⟨place, found, hfound, rfl⟩)
    rw [← Bool.not_eq_true] at hwrites
    exact hwrites (Entry.writesTo_iff.2 ⟨by rw [schema_filled, hindex], hkey,
      found.projection_filled_ne_empty schema (clock place) hattributes⟩)

section KeptKeys

variable {schema : Schema} {attributes : Object} {clock : Nat → String} {documents : List Found}
  {store after : Store} (hattributes : attributes ≠ ∅)
  (hkeys : ∀ found ∈ documents, ∀ now, (found.filled schema attributes now).key = some found.id)
  (hmade : Change.write.Made (allFilled documents schema attributes clock) store after)
include hattributes hkeys hmade

/-- If the entries have the ids of the documents for keys, each document is written over, at the
time of its place. -/
theorem document?_of_getElem? (hids : documents.Pairwise fun a b ↦ a.id < b.id) {place : Nat}
    {found : Found} (hfound : documents[place]? = some found) :
    after.document? schema.indexName found.id =
      some (.ofObject (found.filled schema attributes (clock place)).projection) := by
  rcases document?_of_made_allFilled hattributes hmade schema.indexName found.id with
    ⟨last, other, hother, -, hotherKey, hafter⟩ | ⟨hnone, -⟩
  · -- The ids are different, so what is written last to this one is written at its place.
    have hid : other.id = found.id := Option.some.inj
      ((hkeys other (List.mem_of_getElem? hother) (clock last)).symm.trans hotherKey)
    obtain rfl : last = place := eq_of_id_of_getElem? hids hother hfound hid
    obtain rfl : other = found := Option.some.inj (hother.symm.trans hfound)
    exact hafter
  · exact absurd (hkeys found (List.mem_of_getElem? hfound) (clock place))
      (hnone rfl place found hfound)

/-- All other documents are as before. -/
theorem document?_of_forall_ne {index id : String}
    (hne : index = schema.indexName → ∀ found ∈ documents, found.id ≠ id) :
    after.document? index id = store.document? index id := by
  rcases document?_of_made_allFilled hattributes hmade index id with
    ⟨place, found, hplace, hindex, hkey, -⟩ | ⟨-, hafter⟩
  · have hfound := List.mem_of_getElem? hplace
    rw [hkeys found hfound] at hkey
    exact absurd (Option.some.inj hkey) (hne hindex.symm found hfound)
  · exact hafter

end KeptKeys

end Found

namespace Query.IsPlain

variable {query : Query} (h : query.IsPlain)
include h

/-- The document of a match before an update. -/
theorem document?_of_mem_accepted {store : Store} {base : String} {found : Found}
    (hfound : found ∈ query.accepted store base) :
    store.document? base found.id = some found.source := by
  obtain ⟨hindex, hstored, -⟩ := mem_accepted.1 hfound
  rw [h.unions_eq_nil, List.mem_singleton] at hindex
  rw [← hindex, hstored]

variable {store : Store} (hkeyed : store.KeyedBy query.schema) {clock : Nat → String}
  {attributes : Object} (hattributes : attributes ≠ ∅)
include hkeyed hattributes

/-- The entries to write are those of the shown documents. -/
theorem filledEntries_eq (hcast : query.schema.cast = none) :
    query.filledEntries store query.schema.indexName clock attributes =
      Found.allFilled (query.shown store query.schema.indexName) query.schema attributes clock := by
  rw [filledEntries, if_neg fun hempty ↦ hattributes (Dict.isEmpty_iff.1 hempty),
    h.recordsFound_eq hcast hkeyed, Engine.filledRecords, mapIdx_map]
  rfl

variable {after : Store}
  (hmade : Change.write.Made (Found.allFilled (query.shown store query.schema.indexName)
    query.schema attributes clock) store after)
  (hname : attributes.get? query.schema.keyName = none)
include hmade hname

omit hkeyed in
/-- If the time of change is the key, an update reaches what is stored under the time of one of the
shown documents. -/
theorem carried_iff_of_timeKey
    (htime : query.schema.timestamps = true ∧ "updated_at" = query.schema.keyName) :
    (∀ found ∈ query.accepted store query.schema.indexName, ∃ source,
        after.document? query.schema.indexName found.id = some source ∧
          Carries attributes source) ↔
      ∀ found ∈ query.accepted store query.schema.indexName,
        (∃ place < min 10 (query.accepted store query.schema.indexName).length,
          found.id = clock place) ∨ Carries attributes found.source := by
  -- Whatever is shown is written to its time.
  have hkey : ∀ (found : Found) (time : String),
      (found.filled query.schema attributes time).key = some time :=
    fun found time ↦ by rw [found.key_filled query.schema time hname, if_pos htime]
  have hallows : ∀ time, AllowsTime query.schema attributes time := by
    intro time _ value hvalue
    rw [htime.2, hname] at hvalue
    exact absurd hvalue nofun
  refine forall₂_congr fun found hfound ↦ ?_
  have hstored := h.document?_of_mem_accepted hfound
  rw [← h.length_shown]
  rcases Found.document?_of_made_allFilled hattributes hmade query.schema.indexName found.id with
    ⟨place, other, hother, -, hotherKey, hafter⟩ | ⟨hnone, hafter⟩
  · have hid : found.id = clock place :=
      Option.some.inj (hotherKey.symm.trans (hkey other (clock place)))
    exact ⟨fun _ ↦ .inl ⟨place, (List.getElem?_eq_some_iff.1 hother).1, hid⟩, fun _ ↦
      ⟨_, hafter, (other.carries_filled_iff query.schema attributes _).2 (hallows _)⟩⟩
  · have hid : ¬∃ place < (query.shown store query.schema.indexName).length,
        found.id = clock place := by
      rintro ⟨place, hplace, hid⟩
      exact hnone rfl place _ (List.getElem?_eq_getElem hplace) (by rw [hkey, hid])
    rw [hafter, hstored]
    simp only [Option.some.injEq, exists_eq_left']
    exact (or_iff_right hid).symm

section KeptKey

variable (htime : ¬(query.schema.timestamps = true ∧ "updated_at" = query.schema.keyName))
include htime

omit hattributes hmade in
/-- Unless the time of change is the key, what is written over a shown document has its id for its
key. -/
theorem key_filled_of_mem_shown {found : Found}
    (hfound : found ∈ query.shown store query.schema.indexName) (now : String) :
    (found.filled query.schema attributes now).key = some found.id := by
  rw [found.key_filled query.schema now hname, if_neg htime]
  exact h.keyText?_of_mem_shown hkeyed hfound

/-- A shown document gets the attributes, unless the time of its change gets in the way. -/
theorem carried_iff_of_shown {place : Nat} {found : Found}
    (hfound : (query.shown store query.schema.indexName)[place]? = some found) :
    (∃ source, after.document? query.schema.indexName found.id = some source ∧
        Carries attributes source) ↔
      AllowsTime query.schema attributes (clock place) := by
  rw [Found.document?_of_getElem? hattributes
    (fun _ ↦ h.key_filled_of_mem_shown hkeyed hname htime) hmade (h.pairwise_id_shown _ _) hfound]
  simp only [Option.some.injEq, exists_eq_left']
  exact found.carries_filled_iff query.schema attributes (clock place)

/-- A match behind the first ten stays as it is. -/
theorem carried_iff_of_mem_drop {found : Found}
    (hfound : found ∈ (query.accepted store query.schema.indexName).drop 10) :
    (∃ source, after.document? query.schema.indexName found.id = some source ∧
        Carries attributes source) ↔
      Carries attributes found.source := by
  -- A document behind the shown ones has a greater id, so nothing is written to it.
  have hne : ∀ shown ∈ query.shown store query.schema.indexName, shown.id ≠ found.id := by
    intro shown hshown
    have hsorted := h.pairwise_id_accepted store query.schema.indexName
    rw [← List.take_append_drop 10 (query.accepted store query.schema.indexName),
      List.pairwise_append] at hsorted
    rw [h.shown_eq] at hshown
    exact String.ne_of_lt (hsorted.2.2 shown hshown found hfound)
  rw [Found.document?_of_forall_ne hattributes
    (fun _ ↦ h.key_filled_of_mem_shown hkeyed hname htime) hmade fun _ ↦ hne,
    h.document?_of_mem_accepted (List.mem_of_mem_drop hfound)]
  simp only [Option.some.injEq, exists_eq_left']

/-- Else an update reaches the first ten matches, unless the times of change get in the way. -/
theorem carried_iff :
    (∀ found ∈ query.accepted store query.schema.indexName, ∃ source,
        after.document? query.schema.indexName found.id = some source ∧
          Carries attributes source) ↔
      (∀ place < min 10 (query.accepted store query.schema.indexName).length,
          AllowsTime query.schema attributes (clock place)) ∧
        ∀ found ∈ (query.accepted store query.schema.indexName).drop 10,
          Carries attributes found.source := by
  have hshown : ∀ (place : Nat) (found : Found),
      (query.shown store query.schema.indexName)[place]? = some found → _ := fun _ _ hfound ↦
    h.carried_iff_of_shown hkeyed hattributes hmade hname htime hfound
  have hrest : ∀ found ∈ (query.accepted store query.schema.indexName).drop 10, _ :=
    fun _ hfound ↦ h.carried_iff_of_mem_drop hkeyed hattributes hmade hname htime hfound
  constructor
  · intro hall
    refine ⟨fun place hplace ↦ ?_, fun found hfound ↦
      (hrest found hfound).1 (hall found (List.mem_of_mem_drop hfound))⟩
    rw [← h.length_shown] at hplace
    exact (hshown place _ (List.getElem?_eq_getElem hplace)).1
      (hall _ (mem_accepted_of_mem_shown (List.getElem_mem hplace)))
  · rintro ⟨hallows, hbehind⟩ found hfound
    have hparts := hfound
    rw [← List.take_append_drop 10 (query.accepted store query.schema.indexName), ← h.shown_eq,
      List.mem_append] at hparts
    rcases hparts with hfirst | hlast
    · obtain ⟨place, hplace⟩ := List.mem_iff_getElem?.1 hfirst
      refine (hshown place found hplace).2 (hallows place ?_)
      rw [← h.length_shown]
      exact (List.getElem?_eq_some_iff.1 hplace).1
    · exact (hrest found hlast).2 (hbehind found hlast)

end KeptKey

end Query.IsPlain

namespace Engine

/-- **Whether a deletion or an update by query reaches every match.** A deletion by a plain query
succeeds, changes only matched documents and leaves all but ten of them. An update that succeeds
gives all matched documents the attributes exactly if those behind the first ten have them already
and the times of change do not get in the way; and if the time of change is the key itself,
exactly if those that are not stored under the time of one of the first ten have them already. -/
theorem bulk_reaches_matched_iff (engine : Engine) (query : Query) (hplain : query.IsPlain)
    (hcast : query.schema.cast = none) (store : Store) (hkeyed : store.KeyedBy query.schema)
    (hsearches : Store.Idle store.searchAnswers query.schema.indexName)
    (hcounts : Store.Idle store.countAnswers query.schema.indexName) (caches : Caches)
    (clock : Nat → String) (attributes : Object) :
    let index := query.schema.indexName
    let matched := query.accepted store index
    let deletion := (engine.deleteMatching query).runOn Store.backend caches store
    let update := (engine.updateMatching clock query attributes).runOn Store.backend caches store
    ((∃ report, deletion.1.1 = .ok report) ∧
      (query.count.runOn Store.backend deletion.2).1 = .ok (matched.length - 10) ∧
      store.ChangesOnly (query.Matches store index) deletion.2) ∧
    (attributes ≠ ∅ → attributes.get? query.schema.keyName = none →
      ∀ report, update.1.1 = .ok report →
        ((∀ found ∈ matched, ∃ source, update.2.document? index found.id = some source ∧
            Carries attributes source) ↔
          if query.schema.timestamps = true ∧ "updated_at" = query.schema.keyName then
            ∀ found ∈ matched, (∃ place < min 10 matched.length, found.id = clock place) ∨
              Carries attributes found.source
          else
            (∀ place < min 10 matched.length,
                AllowsTime query.schema attributes (clock place)) ∧
              ∀ found ∈ matched.drop 10, Carries attributes found.source)) := by
  intro index matched deletion update
  constructor
  · obtain ⟨report, after, hrun, hsame, haccepted⟩ :=
      hplain.deleteMatching_runOn hcast hkeyed hsearches engine caches
    have hidle : Store.Idle after.countAnswers index := by rwa [hsame]
    have hcount := Query.count_runOn hplain.toIsFilter hplain.baseIndex?_eq hidle
    refine ⟨⟨report, congrArg (fun run ↦ run.1.1) hrun⟩, ?_,
      engine.deleteMatching_changesOnly caches hplain.freeText_eq_none hplain.handFree
        hplain.baseIndex?_eq hsearches hplain.unions_eq_nil hcast hkeyed⟩
    rw [show deletion = ((.ok report, caches), after) from hrun, hcount, haccepted,
      List.length_drop]
  · intro hattributes hname report hreport
    obtain ⟨mapped, hfound, hget⟩ := Query.get_runOn_of_loads_eq_nil hplain.toIsFilter
      hplain.loads_eq_nil hplain.baseIndex?_eq hsearches
    obtain ⟨outcome, changed, after, hrun, hmade⟩ :=
      engine.updateMatching_runOn_of_get caches clock hattributes hget hfound
    obtain rfl : outcome = .ok report := by
      rw [← hreport, show update = ((outcome, changed), after) from hrun]
    have hall : Change.write.Made
        (Found.allFilled (query.shown store index) query.schema attributes clock) store after :=
      hplain.filledEntries_eq hkeyed hattributes hcast ▸ hmade.of_noting
    rw [show update = ((.ok report, changed), after) from hrun]
    split
    · next htime => exact hplain.carried_iff_of_timeKey hattributes hall hname htime
    · next htime => exact hplain.carried_iff hkeyed hattributes hall hname htime

/-- The users who are called a. -/
def usersCalledA : Query :=
  (Schema.ofTable "users").query.refine [.whereEq "name" (.string "a")]

theorem isPlain_usersCalledA : usersCalledA.IsPlain :=
  ⟨⟨rfl, rfl⟩, rfl, rfl, rfl, rfl, rfl, rfl⟩

/-- A number of users, all called a, with the numbers from one on for ids. -/
def crowdStore (count : Nat) : Store :=
  (List.range' 1 count).foldl (fun store id ↦ store.put "users_index" (toString id)
    (.ofFields [("id", .ofNat id), ("name", .string "a")])) {}

/-- Two users are both deleted, and both get an age. -/
theorem bulk_reaches_two :
    (usersCalledA.count.runOn Store.backend
        ((Engine.deleteMatching {} usersCalledA).runOn Store.backend {} (crowdStore 2)).2).1 =
        .ok 0 ∧
      ∀ found ∈ usersCalledA.accepted (crowdStore 2) "users_index", ∃ source,
        ((Engine.updateMatching {} (fun _ ↦ "now") usersCalledA (.single "age" (.ofNat 7))).runOn
          Store.backend {} (crowdStore 2)).2.document? "users_index" found.id = some source ∧
          Carries (.single "age" (.ofNat 7)) source := by
  have hkeyed : (crowdStore 2).KeyedBy usersCalledA.schema :=
    Store.keyedBy_iff.2 (by decide +kernel)
  obtain ⟨⟨-, hcount, -⟩, hupdate⟩ := bulk_reaches_matched_iff {} usersCalledA isPlain_usersCalledA
    rfl (crowdStore 2) hkeyed (by decide +kernel) (by decide +kernel) {}
    (fun _ ↦ "now") (.single "age" (.ofNat 7))
  refine ⟨hcount.trans (by decide +kernel), ?_⟩
  refine (hupdate (by decide +kernel) (by decide +kernel) { indexed := 2 }
    (by decide +kernel)).2 ?_
  rw [if_neg (by decide +kernel)]
  have hrest : (usersCalledA.accepted (crowdStore 2) "users_index").drop 10 = [] := by
    decide +kernel
  refine ⟨fun _ _ htime ↦ absurd htime (by decide +kernel), fun found hfound ↦ ?_⟩
  exact absurd (hrest ▸ hfound) List.not_mem_nil

/-- Of eleven users, all called a and stored under their keys, a successful deletion leaves one,
and a successful update leaves user nine without an age. -/
theorem bulk_misses_eleventh :
    usersCalledA.IsPlain ∧ (crowdStore 11).KeyedBy usersCalledA.schema ∧
      ((Engine.deleteMatching {} usersCalledA).runOn Store.backend {} (crowdStore 11)).1.1 =
        .ok { indexed := 10 } ∧
      (usersCalledA.count.runOn Store.backend
        ((Engine.deleteMatching {} usersCalledA).runOn Store.backend {} (crowdStore 11)).2).1 =
        .ok 1 ∧
      ((Engine.updateMatching {} (fun _ ↦ "now") usersCalledA (.single "age" (.ofNat 7))).runOn
        Store.backend {} (crowdStore 11)).1.1 = .ok { indexed := 10 } ∧
      usersCalledA.Matches (crowdStore 11) "users_index" "users_index" "9" ∧
      ((Engine.updateMatching {} (fun _ ↦ "now") usersCalledA (.single "age" (.ofNat 7))).runOn
        Store.backend {} (crowdStore 11)).2.document? "users_index" "9" =
        some (.ofFields [("id", .ofNat 9), ("name", .string "a")]) := by
  refine ⟨isPlain_usersCalledA, Store.keyedBy_iff.2 (by decide +kernel), by decide +kernel,
    by decide +kernel, by decide +kernel, ⟨.ofFields [("id", .ofNat 9), ("name", .string "a")], ?_⟩,
    by decide +kernel⟩
  decide +kernel

end Engine

end RecordSearch
