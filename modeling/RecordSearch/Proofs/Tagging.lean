import Mathlib.Data.List.Basic
import RecordSearch.Query.Search
/-!
# What further indices do to a result

A query over several indices tags each record with the index of its hit. The tag is put into the
attributes before a hit without attributes is dropped, so a hit that has no contents and names an
index is a record of its index only, where the query without further indices has no record.

`Response.taken` lists the hits that become records, tagged or not, and `map_eq_records_taken` says
that a result is one record for each of them. From it, `union_only_tags_iff` tells exactly which
responses are mapped to the same records but for their tags.
-/

namespace RecordSearch

/-! ### Hits that become records -/

namespace Hit

variable (hit : Hit) (schema : Schema)

/-- The record of the contents of a hit. -/
def untagged : Record where
  schema := schema
  attributes := hit.source

/-- A record with the index of a hit, if the hit names one. -/
def tag (record : Record) : Record :=
  match hit.index with
  | some index => record.set "_index" (.string index)
  | none => record

/-- The tagged record of a hit has the attributes of the tagged hit. -/
theorem tag_untagged :
    hit.tag (hit.untagged schema) = { schema := schema, attributes := hit.attributes true } := by
  unfold attributes tag
  cases hit.index <;> rfl

/-- A tagged hit is without attributes exactly if it has no contents and names no index. -/
theorem attributes_true_eq_empty_iff :
    hit.attributes true = ∅ ↔ hit.source = ∅ ∧ hit.index = none := by
  unfold attributes
  cases hit.index with
  | some index => simp
  | none => simp

/-- A hit with attributes is the record of these. -/
theorem record?_of_cast_eq_none {schema : Schema} (hcast : schema.cast = none) (tagged : Bool) :
    hit.record? schema tagged =
      if hit.attributes tagged ≠ ∅ then
        some { schema := schema, attributes := hit.attributes tagged }
      else none := by
  rw [record?, hcast]
  by_cases hempty : hit.attributes tagged = ∅
  · rw [if_neg (not_not_intro hempty), Record.hydrate?_eq_none_iff.2 hempty]
    rfl
  · rw [if_pos hempty, Record.hydrate?_of_ne_empty schema hempty]
    rfl

end Hit

namespace Response

/-- The hits that become records, if all hits are tagged or if none is. -/
def taken (response : Response) (tagged : Bool) : List Hit :=
  if response.total = 0 then []
  else response.hits.filter fun hit ↦ hit.attributes tagged ≠ ∅

/-- **The mapping law.** A result that is not grouped has one record for each hit taken. -/
theorem map_eq_records_taken (response : Response) {query : Query}
    (hgroups : query.criteria.groups = ∅) (hcast : query.schema.cast = none) :
    let tagged := !query.criteria.unions.isEmpty
    response.map query = .records ((response.taken tagged).map fun hit ↦
      { schema := query.schema, attributes := hit.attributes tagged }) := by
  intro tagged
  have hfirst : query.criteria.groups.first? = none := by rw [hgroups]; rfl
  rw [Response.map, hfirst, taken]
  split
  · rfl
  · rw [← List.filterMap_eq_map', List.filterMap_filter]
    refine congrArg Mapped.records (List.filterMap_congr fun hit _ ↦ ?_)
    rw [hit.record?_of_cast_eq_none hcast]
    simp only [decide_eq_true_eq]
    rfl

/-- Of the hits taken with tags, those with contents are taken without tags. -/
theorem taken_false_eq_filter (response : Response) :
    response.taken false = (response.taken true).filter fun hit ↦ hit.source ≠ ∅ := by
  rw [taken, taken]
  split
  · rfl
  · rw [List.filter_filter]
    refine List.filter_congr fun hit _ ↦ ?_
    rw [← Bool.decide_and, decide_eq_decide]
    exact ⟨fun h ↦ ⟨h, fun hempty ↦ h (hit.attributes_true_eq_empty_iff.1 hempty).1⟩, And.left⟩

/-- All hits taken with tags have contents exactly if no hit names an index without contents, or
the response has no total. -/
theorem forall_mem_taken_true_iff (response : Response) :
    (∀ hit ∈ response.taken true, hit.source ≠ ∅) ↔
      response.total = 0 ∨ ∀ hit ∈ response.hits, hit.source = ∅ → hit.index = none := by
  rw [taken]
  split
  · next hnone => exact ⟨fun _ ↦ .inl hnone, fun _ _ h ↦ absurd h List.not_mem_nil⟩
  · next htotal =>
    rw [or_iff_right htotal]
    refine forall_congr' fun hit ↦ ?_
    rw [List.mem_filter, decide_eq_true_iff, Ne, hit.attributes_true_eq_empty_iff]
    constructor
    · intro h hmem hsource
      by_contra hindex
      exact h ⟨hmem, fun hboth ↦ hindex hboth.2⟩ hsource
    · rintro h ⟨hmem, hne⟩ hsource
      exact hne ⟨hsource, h hmem hsource⟩

end Response

/-- **When further indices only tag.** Let a query be without further indices, over a schema that
changes no record, and let it be given some. Grouped, it maps every response to the same buckets.
Otherwise it maps a response to the same records, each tagged with the index of its hit, if and only
if no hit of the response names an index and has no contents, or there is no total. In any case
there is one tagged record for each hit that has contents or names an index. -/
theorem union_only_tags_iff (query : Query) (hunions : query.criteria.unions = [])
    (hcast : query.schema.cast = none) (indices : List String) (hindices : indices ≠ [])
    (response : Response) :
    let united := query.refine [.union indices]
    let tagged := fun hit : Hit ↦ hit.tag (hit.untagged query.schema)
    (query.criteria.groups ≠ ∅ → response.map united = response.map query) ∧
    (query.criteria.groups = ∅ →
      response.map query = .records ((response.taken false).map (Hit.untagged · query.schema)) ∧
      response.map united = .records ((response.taken true).map tagged) ∧
      (response.map united = .records ((response.taken false).map tagged) ↔
        response.total = 0 ∨ ∀ hit ∈ response.hits, hit.source = ∅ → hit.index = none)) := by
  intro united tagged
  refine ⟨fun hgroups ↦ ?_, fun hgroups ↦ ?_⟩
  · have hsame : united.criteria.groups = query.criteria.groups := rfl
    rw [Response.map, Response.map, hsame]
    cases hfirst : query.criteria.groups.first? with
    | some first => rfl
    | none =>
      refine absurd (Dict.ext_entries ?_) hgroups
      exact List.head?_eq_none_iff.1 hfirst
  · have hunited : response.map united = .records ((response.taken true).map tagged) := by
      obtain ⟨first, rest, hcons⟩ := List.exists_cons_of_ne_nil hindices
      have htags : (!united.criteria.unions.isEmpty) = true := by
        rw [show united.criteria.unions = indices from rfl, hcons]
        rfl
      rw [@Response.map_eq_records_taken response united hgroups hcast, htags]
      exact congrArg Mapped.records
        (List.map_congr_left fun hit _ ↦ (hit.tag_untagged query.schema).symm)
    refine ⟨?_, hunited, ?_⟩
    · have htags : (!query.criteria.unions.isEmpty) = false := by rw [hunions]; rfl
      rw [response.map_eq_records_taken hgroups hcast, htags]
      rfl
    · rw [hunited, ← response.forall_mem_taken_true_iff, response.taken_false_eq_filter]
      constructor
      · intro h
        have hlength := congrArg List.length (Mapped.records.inj h)
        rw [List.length_map, List.length_map] at hlength
        simpa using List.length_filter_eq_length_iff.1 hlength.symm
      · intro h
        rw [List.filter_eq_self.2 fun hit hmem ↦ decide_eq_true (h hit hmem)]

/-- A response of the given hits. -/
def Response.ofHits (hits : List Json) : Response where
  body := .ofFields [("hits", .ofFields [("total", .ofNat hits.length), ("hits", .array hits)])]

/-- A hit of an index, a hit whose index is no text, and a hit of neither index nor contents. -/
def mixedHits : Response :=
  .ofHits [.ofFields [("_index", .string "a_index"), ("_source", .single "id" (.ofNat 1))],
    .ofFields [("_index", .ofNat 5), ("_source", .single "id" (.ofNat 2))],
    .single "_source" (.string "x")]

/-- Only the first one of the mixed hits is tagged, and the last one is no record either way. -/
theorem union_only_tags_mixedHits :
    let query := (Schema.ofTable "users").query
    ∃ first second,
      mixedHits.map query = .records [first, second] ∧
      mixedHits.map (query.refine [.union ["b_index"]]) =
        .records [first.set "_index" (.string "a_index"), second] ∧
      first.attributes = .single "id" (.ofNat 1) ∧ second.attributes = .single "id" (.ofNat 2) := by
  intro query
  obtain ⟨-, hungrouped⟩ :=
    union_only_tags_iff query rfl rfl ["b_index"] (List.cons_ne_nil _ _) mixedHits
  obtain ⟨hplain, -, hiff⟩ := hungrouped rfl
  have htaken : mixedHits.taken false =
      [⟨none, some "a_index", .single "id" (.ofNat 1)⟩, ⟨none, none, .single "id" (.ofNat 2)⟩] := by
    decide +kernel
  rw [htaken] at hplain hiff
  exact ⟨_, _, hplain, hiff.2 (.inr (by decide +kernel)), rfl, rfl⟩

/-- A hit that names an index and has no contents is a record if there are further indices, and
none otherwise. -/
theorem union_adds_record :
    let response := Response.ofHits [.single "_index" (.string "a_index")]
    let query := (Schema.ofTable "users").query
    (response.map query).toRecords.map Record.attributes = [] ∧
      (response.map (query.refine [.union ["b_index"]])).toRecords.map Record.attributes =
        [.single "_index" (.string "a_index")] := by
  decide +kernel

end RecordSearch
