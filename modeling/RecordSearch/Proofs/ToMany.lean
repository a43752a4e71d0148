import RecordSearch.Proofs.Related
/-!
# Relations to many records are exact joins

A read that loads a to-many relation attaches to each record the related records of exactly the
documents that join it (`toMany_joins`). Two things could get in the way, and are ruled out by
hypotheses: a window of the second search that is too short for its documents, and foreign keys
that are floats.
-/

namespace RecordSearch

namespace Query

/-- If the window of the second search is long enough, a record has the related records of the
documents that join it. -/
theorem LoadsOnly.relation?_of_get_many {query : Query} {name : String} {relation : Relation}
    (h : query.LoadsOnly name relation) (hmany : relation.cardinality = .many)
    (hplain : ∀ c ∈ ['.', '/', '~'], c ∉ relation.ownerKey.toList)
    (hcast : relation.related.cast = none) {store : Store}
    (hidle : ∀ index, Store.Idle store.searchAnswers index) {mapped : Mapped}
    (hget : (query.get.runOn Store.backend store).1 = .ok mapped)
    (hwindow : (relation.documentsFor store
      (distinctValues mapped.toRecords relation.foreignKey)).length ≤ relation.maxRelated)
    {record : Record} (hrecord : record ∈ mapped.toRecords)
    (hfloat : ∀ x, record.get? relation.foreignKey ≠ some (.ofBinary64 x)) :
    record.relation? name =
      some (.many ((relation.joined store record).map (Found.record · relation.related))) := by
  have hlimit : relation.fetchLimit (distinctValues mapped.toRecords relation.foreignKey) =
      relation.maxRelated := by
    rw [Relation.fetchLimit, hmany]
  rw [h.relation?_of_get hidle hget hrecord, relation.matching_of_many hmany,
    relation.paired_recordsFound store hcast, hlimit, List.take_of_length_le hwindow,
    relation.filter_pairs_documentsFor store hplain hrecord hfloat]

/-- **A to-many relation is an exact join.** A read that loads only a to-many relation returns the
records found, unless their alias is unknown. If no foreign key is a float and the second search
finds no more documents than may be related, each record has the related records of exactly the
documents that join it, by increasing ids; a foreign key without text has none. -/
theorem toMany_joins (query : Query) (name : String) (relation : Relation)
    (h : query.LoadsOnly name relation) (hmany : relation.cardinality = .many)
    (hplain : ∀ c ∈ ['.', '/', '~'], c ∉ relation.ownerKey.toList)
    (hcast : relation.related.cast = none) (store : Store)
    (hidle : ∀ index, Store.Idle store.searchAnswers index) :
    (∀ base, query.baseIndex? = .ok base →
      ∃ mapped, (query.get.runOn Store.backend store).1 = .ok mapped ∧
        mapped.bareRecords = query.recordsFound store base) ∧
    ∀ mapped, (query.get.runOn Store.backend store).1 = .ok mapped →
      let keys := distinctValues mapped.toRecords relation.foreignKey
      let inner := relation.query ⟨name, none⟩ query.loads keys
      (∀ record ∈ mapped.toRecords, ∀ x,
        record.get? relation.foreignKey ≠ some (.ofBinary64 x)) →
      (inner.accepted store relation.related.indexName).length ≤ relation.maxRelated →
      ∀ record ∈ mapped.toRecords,
        record.relation? name =
          some (.many ((relation.joined store record).map (Found.record · relation.related))) ∧
        ((relation.joined store record).Pairwise fun a b ↦ a.id < b.id) ∧
        (∀ found, found ∈ relation.joined store record ↔ relation.Joins store record found) ∧
        ((record.get? relation.foreignKey = none ∨
            record.get? relation.foreignKey = some .null ∨
            (∃ items, record.get? relation.foreignKey = some (.array items)) ∨
            ∃ fields, record.get? relation.foreignKey = some (.object fields)) →
          record.relation? name = some (.many [])) := by
  refine ⟨fun _ ↦ h.exists_get hidle, ?_⟩
  intro mapped hget keys inner hfloat hwindow record hrecord
  have hinner : inner = relation.keyQuery keys := by
    rw [← relation.query_alone name, ← h.loads_eq]
  rw [hinner, relation.accepted_keyQuery] at hwindow
  have hjoined := h.relation?_of_get_many hmany hplain hcast hidle hget hwindow hrecord
    (hfloat record hrecord)
  refine ⟨hjoined, relation.pairwise_id_joined store record, fun _ ↦ relation.mem_joined store,
    fun hforeign ↦ ?_⟩
  have htext : record.attributeText? relation.foreignKey = none := by
    rw [Record.attributeText?]
    rcases hforeign with hnone | hnull | ⟨items, harray⟩ | ⟨fields, hobject⟩
    · rw [hnone]; rfl
    · rw [hnull]; rfl
    · rw [harray]; rfl
    · rw [hobject]; rfl
  rw [hjoined, relation.joined_eq_nil store htext, List.map_nil]

/-- The posts that users have written, three at most for all of them. -/
def written : Relation where
  related := { Schema.ofTable "posts" with softDelete := true }
  foreignKey := "id"
  ownerKey := "author"
  cardinality := .many
  maxRelated := 3

/-- Users with their posts. -/
def authors : Query :=
  ((Schema.ofTable "users").withRelation "posts" written).query.refine [.load "posts" none]

/-- The posts of two users, some under the text of the id, and one marked as deleted. A third user
has no id. -/
def authorStore : Store :=
  let user (id : Json) : Json := .single "id" id
  let post (author mark : Json) : Json := .ofFields [("author", author), (softDeleteField, mark)]
  ((((((({} : Store).put "users_index" "a" (user (.ofNat 1))).put "users_index" "b"
    (user (.string "2"))).put "users_index" "c" (user .null)).put "posts_index" "1"
    (post (.string "1") (.ofNat 0))).put "posts_index" "2" (post (.ofNat 1) (.ofNat 1))).put
    "posts_index" "3" (post (.ofNat 1) (.string "0"))).put "posts_index" "4"
    (post (.ofNat 2) (.ofNat 0))

/-- Of the four posts one is deleted; the others are attached to the users whose ids have the texts
of their authors. -/
theorem toMany_joins_authors :
    ∃ mapped, (authors.get.runOn Store.backend authorStore).1 = .ok mapped ∧
      mapped.toRecords.map (·.get? "id") =
        [some (.ofNat 1), some (.string "2"), some .null] ∧
      ∀ record ∈ mapped.toRecords,
        record.relation? "posts" =
          some (.many ((written.joined authorStore record).map (Found.record · written.related))) ∧
        (written.joined authorStore record).map Found.id =
          if record.get? "id" = some (.ofNat 1) then ["1", "3"]
          else if record.get? "id" = some (.string "2") then ["4"] else [] := by
  obtain ⟨hsucceeds, hjoins⟩ := toMany_joins authors "posts" written
    ⟨⟨rfl, rfl⟩, rfl, by decide, rfl⟩ rfl (by simp [written]) rfl authorStore fun _ ↦ rfl
  obtain ⟨mapped, hget, hbare⟩ := hsucceeds "users_index" rfl
  have hids : mapped.toRecords.map (·.get? "id") =
      [some (.ofNat 1), some (.string "2"), some .null] := by
    rw [← mapped.map_get?_bareRecords, hbare]
    decide +kernel
  have hkeys : distinctValues mapped.toRecords "id" = [.ofNat 1, .string "2"] := by
    rw [← distinctValues_bareRecords, hbare]
    decide +kernel
  have hid : ∀ record ∈ mapped.toRecords, record.get? "id" = some (.ofNat 1) ∨
      record.get? "id" = some (.string "2") ∨ record.get? "id" = some .null := by
    intro record hrecord
    have hmem := List.mem_map_of_mem (f := (·.get? "id")) hrecord
    rw [hids] at hmem
    simpa using hmem
  refine ⟨mapped, hget, hids, fun record hrecord ↦
    ⟨(hjoins mapped hget ?_ ?_ record hrecord).1, ?_⟩⟩
  · intro other hother x
    show other.get? "id" ≠ _
    rcases hid other hother with h | h | h <;> rw [h] <;> simp [Json.ofNat, Json.ofBinary64]
  · show ((written.query _ _ (distinctValues mapped.toRecords "id")).accepted _ _).length ≤ _
    rw [hkeys]
    decide +kernel
  · have hjoined : written.joined authorStore record = written.joined authorStore
        ⟨authors.schema, .ofList [("id", (record.get? "id").getD .null)], []⟩ := by
      refine written.joined_congr authorStore ?_
      show record.get? "id" = _
      rcases hid record hrecord with h | h | h <;> rw [h] <;> rfl
    rw [hjoined]
    rcases hid record hrecord with h | h | h <;> rw [h] <;> decide +kernel

end Query

end RecordSearch
