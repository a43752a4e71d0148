import Mathlib.Data.List.Perm.Subperm
import RecordSearch.Proofs.ReadBack
import RecordSearch.Proofs.Remembered
/-!
# What a prefetch covers

A prefetch asks for as many documents as ids are listed, while ids are compared loosely with keys:
an id may be listed twice, as a number and as a text. What keeps the window wide enough is a count:
the documents that are accepted have different ids, and each of these is the text of a listed id
(`LooksUp.length_named_le`). So no document is cut off, and since records are remembered under their
own keys, a look-up of a listed id finds its record there (`expand_covers_stored`).
-/

namespace RecordSearch

namespace Schema

variable (schema : Schema) (store : Store) (ids : List Json)

/-- The stored documents whose id is the text of a listed id. -/
def named : List Found :=
  (store.documentsOf schema.indexName).filter fun found ↦
    ids.any fun id ↦ id.scalarText? = some found.id

theorem mem_named {found : Found} : found ∈ schema.named store ids ↔
    found ∈ store.documentsOf schema.indexName ∧ ∃ id ∈ ids, id.scalarText? = some found.id := by
  simp [named]

/-- There are at most as many documents as listed ids: their ids are different, and each is the text
of a listed one. -/
theorem length_named_le : (schema.named store ids).length ≤ ids.length := by
  have hnodup : ((schema.named store ids).map Found.id).Nodup := by
    refine List.pairwise_map.2 (((store.pairwise_id_documentsOf schema.indexName).filter _).imp ?_)
    exact fun hlt heq ↦ String.lt_irrefl _ (heq ▸ hlt)
  have hsubset : (schema.named store ids).map Found.id ⊆ ids.filterMap Json.scalarText? := by
    intro key hkey
    obtain ⟨found, hfound, rfl⟩ := List.mem_map.1 hkey
    obtain ⟨-, id, hid, htext⟩ := (schema.mem_named store ids).1 hfound
    exact List.mem_filterMap.2 ⟨id, hid, htext⟩
  calc (schema.named store ids).length
      = ((schema.named store ids).map Found.id).length := (List.length_map _).symm
    _ ≤ (ids.filterMap Json.scalarText?).length := (hnodup.subperm hsubset).length_le
    _ ≤ ids.length := List.length_filterMap_le _ _

section LooksUp

variable {schema} {store} {ids} (h : schema.LooksUp store) (hsoft : schema.softDelete = false)
  (hfloat : ∀ id ∈ ids, ∀ x, id ≠ .ofBinary64 x)
include h

/-- After the named documents were remembered, an id that is named and stored has the record of its
document, and any other one what it had before. -/
theorem LooksUp.get?_remember_named (cache : RecordCache) (table key : String) :
    (schema.remember ((schema.named store ids).map (Found.record · schema)) cache).get? table key =
      (if schema.table = table ∧ ∃ id ∈ ids, id.scalarText? = some key then
          (store.document? schema.indexName key).map fun source ↦
            some ({ schema := schema, attributes := source.fieldsOrNone } : Record)
        else none).or (cache.get? table key) := by
  rw [get?_remember]
  congr 1
  have hrecord : ∀ found ∈ schema.named store ids,
      (found.record schema).key? = some found.id := fun found hfound ↦
    (found.key?_record schema).trans
      (Store.keyedBy_iff.1 h.keyedBy found ((schema.mem_named store ids).1 hfound).1)
  cases hfind : ((schema.named store ids).map (Found.record · schema)).reverse.find? fun record ↦
      schema.table = table ∧ record.key? = some key with
  | none =>
    rw [Option.map_none, eq_comm, ite_eq_right_iff]
    rintro ⟨htable, hnamed⟩
    refine Option.map_eq_none_iff.2 (Option.eq_none_iff_forall_ne_some.2 fun source hstored ↦ ?_)
    -- A document of the key would be named, and its record found.
    have hmem : ⟨schema.indexName, key, source⟩ ∈ schema.named store ids :=
      (schema.mem_named store ids).2 ⟨Store.mem_documentsOf.2 ⟨rfl, hstored⟩, hnamed⟩
    refine List.find?_eq_none.1 hfind _ (List.mem_reverse.2 (List.mem_map_of_mem hmem)) ?_
    exact decide_eq_true ⟨htable, hrecord _ hmem⟩
  | some record =>
    have hfits := List.find?_some hfind
    obtain ⟨htable, hkey⟩ := of_decide_eq_true hfits
    obtain ⟨found, hfound, rfl⟩ :=
      List.mem_map.1 (List.mem_reverse.1 (List.mem_of_find?_eq_some hfind))
    obtain rfl : found.id = key := Option.some.inj ((hrecord found hfound).symm.trans hkey)
    obtain ⟨hdocument, hnamed⟩ := (schema.mem_named store ids).1 hfound
    rw [if_pos ⟨htable, hnamed⟩, (Store.mem_documentsOf.1 hdocument).2]
    rfl

include hsoft hfloat

/-- The query of a prefetch accepts the named documents. -/
theorem LooksUp.accepted_eq_named :
    (schema.query.push .must (.leaf (.terms schema.keyName ids))).accepted store
      schema.indexName = schema.named store ids := by
  rw [Query.accepted_push_must, accepted_query hsoft, named]
  refine List.filter_congr fun found hfound ↦ ?_
  show (ids.any fun id ↦ looselyEqual (documentField found.source schema.keyName) id) = _
  rw [Bool.eq_iff_iff, List.any_eq_true, List.any_eq_true]
  refine exists_congr fun id ↦ and_congr_right fun hid ↦ ?_
  rw [h.looselyEqual_key_iff hfound (hfloat id hid), decide_eq_true_iff]

/-- **The law of a prefetch.** It counts the named documents and remembers their records, and sends
one search at most. -/
theorem LooksUp.expand_runOn (caches : Caches) :
    ∃ after, (after = store ∨ ∃ request, after = store.noting .search request) ∧
      (schema.expand ids).runOn Store.backend caches store =
        ((.ok (schema.named store ids).length,
          { caches with
            records := schema.remember ((schema.named store ids).map (Found.record · schema))
              caches.records }), after) := by
  cases hids : ids.isEmpty with
  | true =>
    obtain rfl := List.isEmpty_iff.1 hids
    have hnone : schema.named store [] = [] := List.filter_eq_nil_iff.2 fun _ _ ↦ by simp
    rw [hnone]
    exact ⟨store, .inl rfl, rfl⟩
  | false =>
    obtain ⟨mapped, request, hrun, hrecords⟩ : ∃ mapped request,
        (schema.expandQuery ids).get.runOn Store.backend store =
          (.ok mapped, store.noting .search request) ∧ _ :=
      h.get_take_runOn (.leaf (.terms schema.keyName ids)) ids.length
    rw [h.accepted_eq_named hsoft hfloat, List.take_of_length_le (schema.length_named_le store ids)]
      at hrecords
    refine ⟨_, .inr ⟨request, rfl⟩, ?_⟩
    rw [schema.expand_runOn_of_get hids hrun, prefetched, hids, if_neg Bool.false_ne_true, hrun]
    dsimp only [Except.map]
    rw [hrecords, List.length_map]

end LooksUp

/-- **A prefetch covers every stored id.** Let a schema without deleted records look its documents
up by key, and let none of the listed ids be a float. A prefetch of these ids succeeds, whatever was
remembered; it counts the stored documents whose id is the text of a listed id, and sends one search
at most. For each listed id that is stored it remembers the record of the document, and for all else
what was remembered before. A look-up of such an id then returns this record and asks nothing. -/
theorem expand_covers_stored (schema : Schema) (store : Store) (h : schema.LooksUp store)
    (hsoft : schema.softDelete = false) (ids : List Json)
    (hfloat : ∀ id ∈ ids, ∀ x, id ≠ .ofBinary64 x) (caches : Caches) :
    ∃ changed after,
      (schema.expand ids).runOn Store.backend caches store =
        ((.ok (schema.named store ids).length, changed), after) ∧
      (after = store ∨ ∃ request, after = store.noting .search request) ∧
      (∀ table key, changed.records.get? table key =
        (if schema.table = table ∧ ∃ id ∈ ids, id.scalarText? = some key then
            (store.document? schema.indexName key).map fun source ↦
              some ({ schema := schema, attributes := source.fieldsOrNone } : Record)
          else none).or (caches.records.get? table key)) ∧
      ∀ id ∈ ids, ∀ key source, id.scalarText? = some key →
        store.document? schema.indexName key = some source →
        (schema.expanded id).runOn Store.backend changed after =
          ((.ok (some { schema := schema, attributes := source.fieldsOrNone }), changed),
            after) := by
  obtain ⟨after, hsent, hrun⟩ := h.expand_runOn hsoft hfloat caches
  refine ⟨_, after, hrun, hsent, h.get?_remember_named caches.records, ?_⟩
  intro id hid key source hkey hstored
  rw [schema.expanded_runOn Store.backend hkey]
  dsimp only
  rw [h.get?_remember_named, if_pos ⟨rfl, id, hid, hkey⟩, hstored]
  rfl

/-- The user `7` is listed as a number and as a text, and was missing before; two users are counted,
and both spellings answer the user's record. -/
theorem expand_covers_keyedUsers :
    let users := Schema.ofTable "users"
    let ids : List Json := [.ofNat 7, .string "7", .string "a", .string "z"]
    let caches : Caches := { records := ({} : RecordCache).insert "users" "7" none }
    users.LooksUp keyedUsers ∧ ∃ changed after,
      (users.expand ids).runOn Store.backend caches keyedUsers = ((.ok 2, changed), after) ∧
        ∀ id ∈ ids.take 2, ∃ record : Record, record.attributes = .single "id" (.ofNat 7) ∧
          (users.expanded id).runOn Store.backend changed after =
            ((.ok (some record), changed), after) := by
  intro users ids caches
  have hlooksUp : users.LooksUp keyedUsers :=
    looksUp_ofTable (Store.keyedBy_iff.2 (by decide +kernel)) rfl
  have hcount : (users.named keyedUsers ids).length = 2 := by decide +kernel
  obtain ⟨changed, after, hrun, -, -, hanswers⟩ := expand_covers_stored users keyedUsers
    hlooksUp rfl ids (by simp [ids, Json.ofBinary64, Json.ofNat]) caches
  rw [hcount] at hrun
  refine ⟨hlooksUp, changed, after, hrun, fun id hid ↦ ⟨_, ?_, hanswers id
    (List.mem_of_mem_take hid) "7" (.single "id" (.ofNat 7)) ?_ (by decide +kernel)⟩⟩
  · rfl
  · revert id
    decide +kernel

end Schema

end RecordSearch
