import RecordSearch.Proofs.LoadPaths
import RecordSearch.Proofs.Matching
/-!
# Loading one relation along

A read that loads one relation searches twice: for the records, and for the related records of all
their foreign keys at once. `LoadsOnly.get_runOn` says what such a read returns: each record with
the related records of the documents that pair with it, among the documents that the second search
finds (`Relation.documentsFor`) in its window (`Relation.paired_recordsFound`).

Three notions of equal keys meet here. Foreign keys are collected up to `Json.same`, documents are
found by loose equality, and records are paired by the texts of their keys. A document that pairs
with a record is found for the collected keys (`Relation.seeks_of_pairs`), unless the foreign key of
the record is a float: both floating zeros are the same, but their texts differ.
-/

namespace RecordSearch

/-! ### Collected values -/

/-- Values that are the same have the same text, floats aside. -/
theorem Json.scalarText?_eq_of_same {a b : Json} (h : a.same b = true)
    (hfloat : ∀ x, b ≠ .ofBinary64 x) : a.scalarText? = b.scalarText? := by
  cases a with
  | number m =>
    cases b with
    | number n =>
      rcases m with m | y <;> rcases n with n | x
      · rw [beq_iff_eq.1 (show (m == n) = true from h)]
      · exact absurd rfl (hfloat x)
      · exact absurd h Bool.false_ne_true
      · exact absurd rfl (hfloat x)
    | _ => exact absurd h Bool.false_ne_true
  | _ => cases b <;> simp_all [same, scalarText?]

/-- The collected values with the value of one more record. -/
def collectValue (name : String) (seen : List Json) (record : Record) : List Json :=
  match record.get? name with
  | none => seen
  | some .null => seen
  | some value => if seen.any fun known ↦ known.same value then seen else seen ++ [value]

theorem distinctValues_eq_foldl (records : List Record) (name : String) :
    distinctValues records name = records.foldl (collectValue name) [] :=
  rfl

theorem subset_collectValue (name : String) (seen : List Json) (record : Record) :
    seen ⊆ collectValue name seen record := by
  rw [collectValue]
  split
  · exact List.Subset.refl seen
  · exact List.Subset.refl seen
  · split
    · exact List.Subset.refl seen
    · exact List.subset_append_left seen _

/-- A value other than null is collected, up to sameness. -/
theorem exists_same_mem_collectValue {name : String} (seen : List Json) {record : Record}
    {value : Json} (hvalue : record.get? name = some value) (hnull : value ≠ .null) :
    ∃ known ∈ collectValue name seen record, known.same value = true := by
  rw [collectValue, hvalue]
  split
  · next h => cases h
  · next h => exact absurd (Option.some.inj h) hnull
  · next h =>
    obtain rfl := Option.some.inj h
    split
    · next hseen => exact List.any_eq_true.1 hseen
    · exact ⟨value, List.mem_append_right _ (List.mem_singleton_self value), value.same_self⟩

theorem subset_foldl_collectValue (name : String) (records : List Record) (seen : List Json) :
    seen ⊆ records.foldl (collectValue name) seen := by
  induction records generalizing seen with
  | nil => exact List.Subset.refl seen
  | cons record rest ih => exact List.Subset.trans (subset_collectValue name seen record) (ih _)

/-- Every value of the records but null is collected, up to sameness. -/
theorem exists_same_mem_distinctValues {records : List Record} {name : String} {record : Record}
    (hrecord : record ∈ records) {value : Json} (hvalue : record.get? name = some value)
    (hnull : value ≠ .null) : ∃ known ∈ distinctValues records name, known.same value = true := by
  rw [distinctValues_eq_foldl]
  generalize ([] : List Json) = seen
  induction records generalizing seen with
  | nil => exact absurd hrecord List.not_mem_nil
  | cons first rest ih =>
    rw [List.foldl_cons]
    rcases List.mem_cons.1 hrecord with rfl | hrest
    · obtain ⟨known, hknown, hsame⟩ := exists_same_mem_collectValue seen hvalue hnull
      exact ⟨known, subset_foldl_collectValue name rest _ hknown, hsame⟩
    · exact ih hrest _

/-- Changes that keep an attribute keep the values collected of it. -/
theorem distinctValues_map {name : String} {change : Record → Record} (records : List Record)
    (hchange : ∀ record, (change record).get? name = record.get? name) :
    distinctValues (records.map change) name = distinctValues records name := by
  have hcollect : (fun seen record ↦ collectValue name seen (change record)) =
      collectValue name := by
    funext seen record
    rw [collectValue, hchange, collectValue]
  rw [distinctValues_eq_foldl, List.foldl_map, hcollect, distinctValues_eq_foldl]

theorem Mapped.map_get?_bareRecords (mapped : Mapped) (name : String) :
    mapped.bareRecords.map (·.get? name) = mapped.toRecords.map (·.get? name) :=
  List.map_map

theorem distinctValues_bareRecords (mapped : Mapped) (name : String) :
    distinctValues mapped.bareRecords name = distinctValues mapped.toRecords name :=
  distinctValues_map _ fun _ ↦ rfl

/-! ### The query for related records -/

/-- A field name without dots, slashes and tildes finds the field of that name. -/
theorem documentField_of_plain {source value : Json} {field : String}
    (hplain : ∀ c ∈ ['.', '/', '~'], c ∉ field.toList) (h : source.field? field = some value) :
    documentField source field = some value := by
  have hpath : fieldPath field = [field] :=
    fieldPath_of_plain (hplain '.' (by simp)) (hplain '/' (by simp)) (hplain '~' (by simp))
  rw [documentField, hpath, Json.at?_cons, Json.step?_eq_of_field?_eq_some h]
  rfl

theorem Found.attributeText?_record (found : Found) (schema : Schema) (name : String) :
    (found.record schema).attributeText? name =
      (found.source.field? name).bind Json.scalarText? := by
  rw [Json.field?_eq_get?_fieldsOrNone]
  rfl

namespace Relation

variable (relation : Relation)

/-- The query of a relation that is loaded alone and as it is. -/
theorem query_alone (name : String) (keys : List Json) :
    relation.query ⟨name, none⟩ [⟨name, none⟩] keys = relation.keyQuery keys := by
  refine (relation.query_plain name [name] keys).trans ?_
  rw [Load.below_singleton_self]
  rfl

/-- Is the document kept, that is not marked as deleted if the related schema marks documents? -/
def keeps (source : Json) : Bool :=
  !relation.related.softDelete || looselyEqual (documentField source softDeleteField) (.ofNat 0)

/-- Does the query for the keys accept the document? -/
def seeks (keys : List Json) (source : Json) : Bool :=
  relation.keeps source &&
    keys.any fun key ↦ looselyEqual (documentField source relation.ownerKey) key

/-- Have the record and the document one key text? -/
def pairs (record : Record) (source : Json) : Bool :=
  (record.attributeText? relation.foreignKey).any fun key ↦
    (source.field? relation.ownerKey).bind Json.scalarText? = some key

theorem keeps_iff {source : Json} :
    relation.keeps source = true ↔ (relation.related.softDelete = true →
      looselyEqual (documentField source softDeleteField) (.ofNat 0) = true) := by
  rw [keeps]
  cases relation.related.softDelete <;> simp

theorem pairs_iff {record : Record} {source : Json} :
    relation.pairs record source = true ↔
      ∃ key, record.attributeText? relation.foreignKey = some key ∧
        (source.field? relation.ownerKey).bind Json.scalarText? = some key := by
  rw [pairs, Option.any_eq_true]
  simp only [decide_eq_true_iff]

/-- The query for the keys of records finds what pairs with one of them, unless the foreign key of
the record is a float. -/
theorem seeks_of_pairs (hplain : ∀ c ∈ ['.', '/', '~'], c ∉ relation.ownerKey.toList)
    {records : List Record} {record : Record} (hrecord : record ∈ records)
    (hfloat : ∀ x, record.get? relation.foreignKey ≠ some (.ofBinary64 x)) {source : Json}
    (hkeeps : relation.keeps source = true) (hpairs : relation.pairs record source = true) :
    relation.seeks (distinctValues records relation.foreignKey) source = true := by
  obtain ⟨text, hforeign, howner⟩ := relation.pairs_iff.1 hpairs
  obtain ⟨value, hvalue, hvalueText⟩ := Option.bind_eq_some_iff.1 hforeign
  obtain ⟨own, hown, hownText⟩ := Option.bind_eq_some_iff.1 howner
  have hnull : value ≠ .null := by
    rintro rfl
    cases hvalueText
  obtain ⟨known, hknown, hsame⟩ := exists_same_mem_distinctValues hrecord hvalue hnull
  have hknownText : known.scalarText? = some text :=
    (Json.scalarText?_eq_of_same hsame fun x hx ↦ hfloat x (hx ▸ hvalue)).trans hvalueText
  rw [seeks, hkeeps, documentField_of_plain hplain hown, Bool.true_and, List.any_eq_true]
  exact ⟨known, hknown, looselyEqual_of_scalarText_eq hownText hknownText⟩

/-! ### Related documents and records -/

variable (store : Store)

/-- A document **joins** a record if it is stored in the related index, is not marked as deleted,
and has the text of the record's foreign key for its owner key. -/
structure Joins (record : Record) (found : Found) : Prop where
  /-- The document is one of the related index. -/
  index_eq : found.index = relation.related.indexName
  /-- It is stored there. -/
  stored : store.document? relation.related.indexName found.id = some found.source
  /-- If documents of the related schema are marked, its mark is zero. -/
  kept : relation.related.softDelete = true →
    looselyEqual (documentField found.source softDeleteField) (.ofNat 0) = true
  /-- The two keys have one text. -/
  key_eq : ∃ key, record.attributeText? relation.foreignKey = some key ∧
    (found.source.field? relation.ownerKey).bind Json.scalarText? = some key

/-- The documents that join a record, in the order of their ids. -/
def joined (record : Record) : List Found :=
  (store.documentsOf relation.related.indexName).filter fun found ↦
    relation.keeps found.source && relation.pairs record found.source

theorem mem_joined {record : Record} {found : Found} :
    found ∈ relation.joined store record ↔ relation.Joins store record found := by
  rw [joined, List.mem_filter, Store.mem_documentsOf, Bool.and_eq_true, keeps_iff, pairs_iff]
  exact ⟨fun ⟨⟨hindex, hstored⟩, hkept, hkey⟩ ↦ ⟨hindex, hstored, hkept, hkey⟩,
    fun ⟨hindex, hstored, hkept, hkey⟩ ↦ ⟨⟨hindex, hstored⟩, hkept, hkey⟩⟩

/-- What joins a record depends on its foreign key. -/
theorem joined_congr {record other : Record}
    (h : record.get? relation.foreignKey = other.get? relation.foreignKey) :
    relation.joined store record = relation.joined store other := by
  simp only [joined, pairs, Record.attributeText?, h]

/-- Nothing joins a record whose foreign key has no text. -/
theorem joined_eq_nil {record : Record} (h : record.attributeText? relation.foreignKey = none) :
    relation.joined store record = [] := by
  refine List.filter_eq_nil_iff.2 fun found _ ↦ ?_
  simp [pairs, h]

theorem pairwise_id_joined (record : Record) :
    (relation.joined store record).Pairwise fun a b ↦ a.id < b.id :=
  (store.pairwise_id_documentsOf _).filter _

/-- The documents that the query for the keys accepts, in the order of their ids. -/
def documentsFor (keys : List Json) : List Found :=
  (store.documentsOf relation.related.indexName).filter fun found ↦
    relation.seeks keys found.source

/-- The documents found that pair with a record are those that join it, unless its foreign key is a
float. -/
theorem filter_pairs_documentsFor (hplain : ∀ c ∈ ['.', '/', '~'], c ∉ relation.ownerKey.toList)
    {records : List Record} {record : Record} (hrecord : record ∈ records)
    (hfloat : ∀ x, record.get? relation.foreignKey ≠ some (.ofBinary64 x)) :
    ((relation.documentsFor store (distinctValues records relation.foreignKey)).filter fun found ↦
      relation.pairs record found.source) = relation.joined store record := by
  rw [documentsFor, joined, List.filter_filter]
  refine List.filter_congr fun found _ ↦ ?_
  rw [Bool.eq_iff_iff, Bool.and_eq_true, Bool.and_eq_true]
  constructor
  · rintro ⟨hpairs, hseeks⟩
    rw [seeks, Bool.and_eq_true] at hseeks
    exact ⟨hseeks.1, hpairs⟩
  · rintro ⟨hkeeps, hpairs⟩
    exact ⟨hpairs, relation.seeks_of_pairs hplain hrecord hfloat hkeeps hpairs⟩

/-- The related records that pair with a record. -/
def paired (record : Record) (related : List Record) : List Record :=
  related.filter fun other ↦
    (record.attributeText? relation.foreignKey).any fun key ↦
      other.attributeText? relation.ownerKey = some key

theorem matching_of_one (h : relation.cardinality = .one) (record : Record)
    (related : List Record) :
    relation.matching record related = .one (relation.paired record related).head? := by
  rw [matching, paired, h]
  cases record.attributeText? relation.foreignKey <;> simp

theorem matching_of_many (h : relation.cardinality = .many) (record : Record)
    (related : List Record) :
    relation.matching record related = .many (relation.paired record related) := by
  rw [matching, paired, h]
  cases record.attributeText? relation.foreignKey <;> simp

theorem accepted_keyQuery (keys : List Json) :
    (relation.keyQuery keys).accepted store relation.related.indexName =
      relation.documentsFor store keys := by
  have hhold : ∀ source, (relation.keyQuery keys).criteria.conditions.hold source =
      relation.seeks keys source := by
    intro source
    rw [seeks, keeps, keyQuery]
    cases relation.related.softDelete <;>
      simp [Conditions.hold, Node.holds, Clause.holds, Clause.field, softDeleteClause]
  rw [Query.accepted, documentsFor]
  simp only [hhold]
  exact List.flatMap_singleton _ _

theorem shown_keyQuery (keys : List Json) :
    (relation.keyQuery keys).shown store relation.related.indexName =
      (relation.documentsFor store keys).take (relation.fetchLimit keys) := by
  rw [Query.shown, accepted_keyQuery]
  rfl

/-- The related records found for keys are those of the documents in the window; a document without
fields makes no record. -/
theorem recordsFound_keyQuery (hcast : relation.related.cast = none) (keys : List Json) :
    (relation.keyQuery keys).recordsFound store relation.related.indexName =
      ((relation.documentsFor store keys).take (relation.fetchLimit keys)).filterMap fun found ↦
        if found.source.fieldsOrNone.isEmpty then none
        else some (found.record relation.related) := by
  rw [Query.recordsFound, if_pos (by rfl), shown_keyQuery]
  exact List.filterMap_congr fun found _ ↦ Found.record?_hit hcast found

/-- The related records in the window that pair with a record are those of the documents that do. -/
theorem paired_recordsFound (hcast : relation.related.cast = none) (record : Record)
    (keys : List Json) :
    relation.paired record
        ((relation.keyQuery keys).recordsFound store relation.related.indexName) =
      (((relation.documentsFor store keys).take (relation.fetchLimit keys)).filter fun found ↦
        relation.pairs record found.source).map (Found.record · relation.related) := by
  rw [recordsFound_keyQuery relation store hcast, paired, List.filter_filterMap,
    ← List.filterMap_eq_map, List.filterMap_filter]
  refine List.filterMap_congr fun found _ ↦ ?_
  split
  · next hempty =>
    -- A document without fields pairs with no record.
    rw [Option.filter_none, if_neg]
    simp [pairs, Json.field?_eq_get?_fieldsOrNone, Dict.isEmpty_iff.1 hempty]
  · simp only [Option.filter_some, Found.attributeText?_record, pairs]
    rfl

end Relation

/-! ### The read -/

/-- Fetch the related records of some keys; for no keys nothing is asked. -/
def Relation.fetch (relation : Relation) (keys : List Json) : Fetch (List Record) :=
  if keys.isEmpty then pure [] else do
    let mapped ← (relation.keyQuery keys).get
    pure mapped.toRecords

/-- The related records of some keys are those that the query for the keys finds. -/
theorem Relation.fetch_runOn (relation : Relation) (keys : List Json) (store : Store)
    (hidle : Store.Idle store.searchAnswers relation.related.indexName) :
    ∃ after, (relation.fetch keys).runOn Store.backend store =
      (.ok ((relation.keyQuery keys).recordsFound store relation.related.indexName), after) := by
  rw [fetch]
  split
  · next hempty =>
    -- No document is loosely equal to one of no keys.
    have hnone : relation.documentsFor store [] = [] :=
      List.filter_eq_nil_iff.2 fun found _ ↦ by simp [seeks]
    refine ⟨store, ?_⟩
    rw [List.isEmpty_iff.1 hempty, Query.recordsFound, shown_keyQuery, hnone, List.take_nil,
      List.filterMap_nil, ite_self]
    rfl
  · have hfilter : (relation.keyQuery keys).IsFilter := ⟨rfl, rfl⟩
    have hget := Query.get_runOn_eq hfilter rfl rfl hidle
    rw [Fetch.runOn_bind_of_ok hget, Query.toRecords_map_storeResponse]
    exact ⟨_, rfl⟩

namespace Query

/-- The query is a filter that **loads only** one relation, as it is. -/
structure LoadsOnly (query : Query) (name : String) (relation : Relation) : Prop
    extends query.IsFilter where
  /-- One relation is loaded, and its query is not refined. -/
  loads_eq : query.loads = [⟨name, none⟩]
  /-- The name is no path. -/
  dot_notMem : '.' ∉ name.toList
  /-- The relation is one of the schema. -/
  relation?_eq : query.schema.relation? name = some relation

namespace LoadsOnly

variable {query : Query} {name : String} {relation : Relation} (h : query.LoadsOnly name relation)
include h

/-- The records of a response are completed with what matches them among the related records of all
their keys. -/
theorem complete_eq (response : Response) :
    query.complete response =
      match response.map query with
      | .buckets buckets => pure (.buckets buckets)
      | .records found =>
        relation.fetch (distinctValues found relation.foreignKey) >>= fun related ↦
          pure (.records (found.map fun record ↦
            record.attach name (relation.matching record related))) := by
  have hplain : query.LoadsPlain [name] := ⟨h.toIsFilter, h.loads_eq⟩
  rw [hplain.complete_eq]
  rcases response.map query with (_ | ⟨first, rest⟩) | buckets
  · rfl
  · rw [Schema.loadAll, Load.direct_singleton h.dot_notMem, List.foldlM_cons, Schema.loadOne,
      h.relation?_eq, Load.below_singleton_self]
    simp only [List.foldlM_nil, bind_assoc, pure_bind]
    rfl
  · rfl

variable {store : Store} (hidle : ∀ index, Store.Idle store.searchAnswers index)
include hidle

/-- **The law of a read with one relation.** The read returns the records that it finds, each with
what matches it among the related records of all. -/
theorem get_runOn {base : String} (hbase : query.baseIndex? = .ok base) :
    ∃ mapped after, query.get.runOn Store.backend store = (.ok mapped, after) ∧
      let found := query.recordsFound store base
      mapped.toRecords = found.map fun record ↦
        record.attach name (relation.matching record
          ((relation.keyQuery (distinctValues found relation.foreignKey)).recordsFound store
            relation.related.indexName)) := by
  rw [get, Fetch.runOn_bind_of_ok (search_runOn h.toIsFilter hbase (hidle base)), h.complete_eq,
    ← toRecords_map_storeResponse query {} store base]
  cases (query.storeResponse {} store base).map query with
  | buckets buckets => exact ⟨_, _, rfl, rfl⟩
  | records found =>
    obtain ⟨after, hfetch⟩ := relation.fetch_runOn (distinctValues found relation.foreignKey)
      (store.noting .search (query.request {} base).render) (hidle _)
    exact ⟨_, after, (Fetch.runOn_bind_of_ok hfetch).trans rfl, rfl⟩

/-- The records of a read are those that it finds, but for what is attached to them. -/
theorem exists_get {base : String} (hbase : query.baseIndex? = .ok base) :
    ∃ mapped, (query.get.runOn Store.backend store).1 = .ok mapped ∧
      mapped.bareRecords = query.recordsFound store base := by
  obtain ⟨mapped, after, hrun, hrecords⟩ := h.get_runOn hidle hbase
  refine ⟨mapped, congrArg Prod.fst hrun, ?_⟩
  rw [Mapped.bareRecords, hrecords, List.map_map]
  exact map_bare_recordsFound query store base

/-- A record that is returned has what matches it among the related records of all. -/
theorem relation?_of_get {mapped : Mapped}
    (hget : (query.get.runOn Store.backend store).1 = .ok mapped) {record : Record}
    (hrecord : record ∈ mapped.toRecords) :
    record.relation? name = some (relation.matching record
      ((relation.keyQuery (distinctValues mapped.toRecords relation.foreignKey)).recordsFound store
        relation.related.indexName)) := by
  cases hbase : query.baseIndex? with
  | error e =>
    rw [get, Fetch.runOn_bind_of_error (search_runOn_of_error h.toIsFilter hbase store)] at hget
    cases hget
  | ok base =>
    obtain ⟨got, after, hrun, hrecords⟩ := h.get_runOn hidle hbase
    rw [hrun] at hget
    obtain rfl : got = mapped := Except.ok.inj hget
    have hkeys : distinctValues got.toRecords relation.foreignKey =
        distinctValues (query.recordsFound store base) relation.foreignKey := by
      rw [hrecords]
      exact distinctValues_map _ fun _ ↦ rfl
    rw [hkeys]
    rw [hrecords] at hrecord
    obtain ⟨found, -, rfl⟩ := List.mem_map.1 hrecord
    exact (Fields.get?_insert _ _ _ _).trans (if_pos rfl)

end LoadsOnly

end Query

end RecordSearch
