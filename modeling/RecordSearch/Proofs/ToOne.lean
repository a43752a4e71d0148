import RecordSearch.Proofs.Related
/-!
# Relations to one record and the window of their search

The second search of a to-one relation shows one document for each distinct foreign key. So a record
gets the first document that pairs with it among so many (`relation?_of_get_one`), and a record that
is joined has a match attached exactly if one of these documents joins it
(`attachesMatch_iff`). If several documents have the key of one record they fill the window, and
another record goes without a match that is there (`toOne_misses_lead`).

If no key is that of two documents, all documents found are in the window: counting them key by key
gives at most one for each (`length_documentsFor_le`). `toOne_attaches_iff` puts this together.
-/

namespace RecordSearch

/-! ### Counting by keys -/

section Counting

variable {α β : Type}

/-- What has one of two properties is counted for one of them. -/
theorem countP_or_le (xs : List α) (p q : α → Bool) :
    xs.countP (fun x ↦ p x || q x) ≤ xs.countP p + xs.countP q := by
  induction xs with
  | nil => simp
  | cons x rest ih =>
    simp only [List.countP_cons]
    cases p x <;> cases q x <;> simp <;> omega

/-- If each key counts for one at most, no more are counted for some of the keys than there are
keys. -/
theorem countP_any_le_length {xs : List α} {keys : List β} {p : α → β → Bool}
    (h : ∀ key ∈ keys, xs.countP (p · key) ≤ 1) :
    xs.countP (fun x ↦ keys.any (p x)) ≤ keys.length := by
  induction keys with
  | nil => simp
  | cons key rest ih =>
    obtain ⟨hkey, hrest⟩ := List.forall_mem_cons.1 h
    calc xs.countP (fun x ↦ (key :: rest).any (p x))
        = xs.countP (fun x ↦ p x key || rest.any (p x)) := by simp only [List.any_cons]
      _ ≤ xs.countP (p · key) + xs.countP (fun x ↦ rest.any (p x)) := countP_or_le _ _ _
      _ ≤ 1 + rest.length := Nat.add_le_add hkey (ih hrest)
      _ = (key :: rest).length := Nat.add_comm _ _

end Counting

namespace Relation

variable (relation : Relation) (store : Store)

/-- If no key is that of two documents, there are no more documents found for keys than keys. -/
theorem length_documentsFor_le {keys : List Json}
    (h : ∀ key ∈ keys, (store.documentsOf relation.related.indexName).countP (fun found ↦
      looselyEqual (documentField found.source relation.ownerKey) key) ≤ 1) :
    (relation.documentsFor store keys).length ≤ keys.length := by
  rw [documentsFor, ← List.countP_eq_length_filter]
  refine (List.countP_mono_left fun found _ hseeks ↦ ?_).trans (countP_any_le_length h)
  rw [seeks, Bool.and_eq_true] at hseeks
  exact hseeks.2

/-- A document found for keys joins a record if it pairs with it. -/
theorem joins_iff_pairs_of_mem_documentsFor {keys : List Json} {found : Found}
    (hfound : found ∈ relation.documentsFor store keys) (record : Record) :
    relation.Joins store record found ↔ relation.pairs record found.source = true := by
  rw [documentsFor, List.mem_filter, seeks, Bool.and_eq_true] at hfound
  rw [← mem_joined, joined, List.mem_filter, Bool.and_eq_true]
  exact ⟨fun h ↦ h.2.2, fun h ↦ ⟨hfound.1, hfound.2.1, h⟩⟩

/-- The record has a related record with the text of its foreign key attached if a document joins
it, and none otherwise. -/
structure AttachesMatch (name : String) (record : Record) : Prop where
  /-- If there is a match, one is attached. -/
  one_some : (∃ found, relation.Joins store record found) →
    ∃ other key, record.relation? name = some (.one (some other)) ∧
      record.attributeText? relation.foreignKey = some key ∧
      other.attributeText? relation.ownerKey = some key
  /-- If there is no match, none is attached. -/
  one_none : (¬∃ found, relation.Joins store record found) →
    record.relation? name = some (.one none)

/-- A record with the first document attached that pairs with it, among documents in a window, has
a match if one is in the window. -/
theorem attachesMatch_iff {name : String} {record : Record} {keys : List Json}
    {fetched : List Found}
    (hfetched : fetched ⊆ relation.documentsFor store keys)
    (hrelation : record.relation? name = some (.one
      ((fetched.find? fun found ↦ relation.pairs record found.source).map
        (Found.record · relation.related)))) :
    relation.AttachesMatch store name record ↔
      ((∃ found, relation.Joins store record found) →
        ∃ found ∈ fetched, relation.Joins store record found) := by
  have hjoins : ∀ found ∈ fetched,
      (relation.Joins store record found ↔ relation.pairs record found.source = true) :=
    fun found hfound ↦ relation.joins_iff_pairs_of_mem_documentsFor store (hfetched hfound) record
  constructor
  · intro hmatch hjoined
    obtain ⟨other, _, hother, -⟩ := hmatch.one_some hjoined
    rw [hrelation] at hother
    obtain ⟨found, hfind, -⟩ := Option.map_eq_some_iff.1 (Related.one.inj (Option.some.inj hother))
    have hfound := List.mem_of_find?_eq_some hfind
    have hpairs : relation.pairs record found.source = true := by
      simpa using List.find?_some hfind
    exact ⟨found, hfound, (hjoins found hfound).2 hpairs⟩
  · intro hwindow
    refine ⟨fun hjoined ↦ ?_, fun hnone ↦ ?_⟩
    · obtain ⟨found, hfound, hjoin⟩ := hwindow hjoined
      cases hfind : fetched.find? fun found ↦ relation.pairs record found.source with
      | none =>
        exact absurd ((hjoins found hfound).1 hjoin) (List.find?_eq_none.1 hfind found hfound)
      | some first =>
        have hpairs : relation.pairs record first.source = true := by
          simpa using List.find?_some hfind
        obtain ⟨key, hforeign, howner⟩ := relation.pairs_iff.1 hpairs
        rw [hfind] at hrelation
        exact ⟨first.record relation.related, key, hrelation, hforeign,
          (first.attributeText?_record relation.related relation.ownerKey).trans howner⟩
    · have hfind : (fetched.find? fun found ↦ relation.pairs record found.source) = none :=
        List.find?_eq_none.2 fun found hfound hpairs ↦
          hnone ⟨found, (hjoins found hfound).2 hpairs⟩
      rw [hrelation, hfind, Option.map_none]

end Relation

namespace Query

/-- A record has the first document that pairs with it, among as many documents as there are
keys. -/
theorem LoadsOnly.relation?_of_get_one {query : Query} {name : String} {relation : Relation}
    (h : query.LoadsOnly name relation) (hone : relation.cardinality = .one)
    (hcast : relation.related.cast = none) {store : Store}
    (hidle : ∀ index, Store.Idle store.searchAnswers index) {mapped : Mapped}
    (hget : (query.get.runOn Store.backend store).1 = .ok mapped) {record : Record}
    (hrecord : record ∈ mapped.toRecords) :
    let keys := distinctValues mapped.toRecords relation.foreignKey
    record.relation? name = some (.one
      ((((relation.documentsFor store keys).take keys.length).find? fun found ↦
        relation.pairs record found.source).map (Found.record · relation.related))) := by
  intro keys
  have hlimit : relation.fetchLimit keys = keys.length := by rw [Relation.fetchLimit, hone]
  rw [h.relation?_of_get hidle hget hrecord, relation.matching_of_one hone,
    relation.paired_recordsFound store hcast, hlimit, List.head?_map, List.head?_filter]

/-- **A to-one relation attaches a match exactly if one is in the window.** A read that loads only a
to-one relation returns the records found, unless their alias is unknown. Its second search shows as
many documents as there are distinct foreign keys. A record has the first of them attached that
pairs with it; this is right exactly if a document that joins the record is among them, provided
there is any. So it is right for all records if no key is that of two documents, and none a
float. -/
theorem toOne_attaches_iff (query : Query) (name : String) (relation : Relation)
    (h : query.LoadsOnly name relation) (hone : relation.cardinality = .one)
    (hplain : ∀ c ∈ ['.', '/', '~'], c ∉ relation.ownerKey.toList)
    (hcast : relation.related.cast = none) (store : Store)
    (hidle : ∀ index, Store.Idle store.searchAnswers index) :
    (∀ base, query.baseIndex? = .ok base →
      ∃ mapped, (query.get.runOn Store.backend store).1 = .ok mapped ∧
        mapped.bareRecords = query.recordsFound store base) ∧
    ∀ mapped, (query.get.runOn Store.backend store).1 = .ok mapped →
      let keys := distinctValues mapped.toRecords relation.foreignKey
      let inner := relation.query ⟨name, none⟩ query.loads keys
      let fetched := (inner.accepted store relation.related.indexName).take keys.length
      (∀ record ∈ mapped.toRecords,
        record.relation? name = some (.one
          ((fetched.find? fun found ↦ relation.pairs record found.source).map
            (Found.record · relation.related))) ∧
        (relation.AttachesMatch store name record ↔
          ((∃ found, relation.Joins store record found) →
            ∃ found ∈ fetched, relation.Joins store record found))) ∧
      ((∀ record ∈ mapped.toRecords, ∀ x,
          record.get? relation.foreignKey ≠ some (.ofBinary64 x)) →
        (∀ key ∈ keys, (store.documentsOf relation.related.indexName).countP (fun found ↦
          looselyEqual (documentField found.source relation.ownerKey) key) ≤ 1) →
        ∀ record ∈ mapped.toRecords, relation.AttachesMatch store name record) := by
  refine ⟨fun _ ↦ h.exists_get hidle, ?_⟩
  intro mapped hget keys inner fetched
  have hinner : inner = relation.keyQuery keys := by
    rw [← relation.query_alone name, ← h.loads_eq]
  have hfetched : fetched = (relation.documentsFor store keys).take keys.length := by
    rw [← relation.accepted_keyQuery, ← hinner]
  have hrelation : ∀ record ∈ mapped.toRecords, record.relation? name = some (.one
      ((fetched.find? fun found ↦ relation.pairs record found.source).map
        (Found.record · relation.related))) := by
    intro record hrecord
    rw [hfetched]
    exact h.relation?_of_get_one hone hcast hidle hget hrecord
  have hsubset : fetched ⊆ relation.documentsFor store keys := hfetched ▸ List.take_subset _ _
  have hiff := fun record hrecord ↦
    relation.attachesMatch_iff store hsubset (hrelation record hrecord)
  refine ⟨fun record hrecord ↦ ⟨hrelation record hrecord, hiff record hrecord⟩, ?_⟩
  intro hfloat hunique record hrecord
  rw [hiff record hrecord]
  rintro ⟨found, hfound⟩
  -- Everything is in the window, and what joins the record is found.
  have hall : fetched = relation.documentsFor store keys :=
    hfetched.trans (List.take_of_length_le (relation.length_documentsFor_le store hunique))
  have hjoined : found ∈ relation.joined store record := (relation.mem_joined store).2 hfound
  rw [← relation.filter_pairs_documentsFor store hplain hrecord (hfloat record hrecord)] at hjoined
  exact ⟨found, hall ▸ (List.mem_filter.1 hjoined).1, hfound⟩

/-- The account that leads the team of a user. -/
def led : Relation where
  related := .ofTable "accounts"
  foreignKey := "team"
  ownerKey := "team"
  cardinality := .one

/-- Users with the accounts that lead their teams. -/
def teamUsers : Query :=
  ((Schema.ofTable "users").withRelation "lead" led).query.refine [.load "lead" none]

theorem loadsOnly_teamUsers : teamUsers.LoadsOnly "lead" led :=
  ⟨⟨rfl, rfl⟩, rfl, by decide, rfl⟩

/-- A user in each of two teams, and one account for each of them. -/
def teamStore : Store :=
  let member (id : Nat) (team : String) : Json :=
    .ofFields [("id", .ofNat id), ("team", .string team)]
  (((({} : Store).put "users_index" "1" (member 1 "a")).put "users_index" "2" (member 2 "b")).put
    "accounts_index" "1" (member 1 "a")).put "accounts_index" "3" (member 3 "b")

/-- Each team has one account, so each user gets one. -/
theorem toOne_attaches_teamUsers :
    ∃ mapped, (teamUsers.get.runOn Store.backend teamStore).1 = .ok mapped ∧
      mapped.toRecords.map (·.get? "team") = [some (.string "a"), some (.string "b")] ∧
      ∀ record ∈ mapped.toRecords, led.AttachesMatch teamStore "lead" record := by
  obtain ⟨hsucceeds, hattaches⟩ := toOne_attaches_iff teamUsers "lead" led loadsOnly_teamUsers rfl
    (by simp [led]) rfl teamStore fun _ ↦ rfl
  obtain ⟨mapped, hget, hbare⟩ := hsucceeds "users_index" rfl
  have hteams : mapped.toRecords.map (·.get? "team") =
      [some (.string "a"), some (.string "b")] := by
    rw [← mapped.map_get?_bareRecords, hbare]
    decide +kernel
  have hkeys : distinctValues mapped.toRecords "team" = [.string "a", .string "b"] := by
    rw [← distinctValues_bareRecords, hbare]
    decide +kernel
  refine ⟨mapped, hget, hteams, (hattaches mapped hget).2 ?_ ?_⟩
  · intro record hrecord x
    have hmem := List.mem_map_of_mem (f := (·.get? "team")) hrecord
    rw [hteams] at hmem
    have hteam : record.get? "team" = some (.string "a") ∨
        record.get? "team" = some (.string "b") := by
      simpa using hmem
    show record.get? "team" ≠ _
    rcases hteam with h | h <;> rw [h] <;> simp [Json.ofBinary64]
  · show ∀ key ∈ distinctValues mapped.toRecords "team", _
    rw [hkeys]
    decide +kernel

/-- A second account of the first team takes the place of the account of the second team: the user
of the second team is joined by a document, and has none attached. -/
theorem toOne_misses_lead :
    let store := teamStore.put "accounts_index" "2"
      (.ofFields [("id", .ofNat 2), ("team", .string "a")])
    teamUsers.LoadsOnly "lead" led ∧ led.cardinality = .one ∧
      (∀ c ∈ ['.', '/', '~'], c ∉ led.ownerKey.toList) ∧ led.related.softDelete = false ∧
      led.related.cast = none ∧ (∀ index, Store.Idle store.searchAnswers index) ∧
      ∃ mapped, (teamUsers.get.runOn Store.backend store).1 = .ok mapped ∧
        ∃ record ∈ mapped.toRecords, (∃ found, led.Joins store record found) ∧
          record.relation? "lead" = some (.one none) := by
  intro store
  have hidle : ∀ index, Store.Idle store.searchAnswers index := fun _ ↦ rfl
  refine ⟨loadsOnly_teamUsers, rfl, by simp [led], rfl, rfl, hidle, ?_⟩
  obtain ⟨mapped, hget, hbare⟩ := loadsOnly_teamUsers.exists_get hidle rfl
  have hteams : mapped.toRecords.map (·.get? "team") =
      [some (.string "a"), some (.string "b")] := by
    rw [← mapped.map_get?_bareRecords, hbare]
    decide +kernel
  have hkeys : distinctValues mapped.toRecords "team" = [.string "a", .string "b"] := by
    rw [← distinctValues_bareRecords, hbare]
    decide +kernel
  obtain ⟨record, hrecord, hteam⟩ : ∃ record ∈ mapped.toRecords,
      record.get? "team" = some (.string "b") :=
    List.mem_map.1 (hteams ▸ by simp)
  have htext : record.attributeText? led.foreignKey = some "b" := by
    rw [Record.attributeText?, show record.get? led.foreignKey = _ from hteam]
    rfl
  refine ⟨mapped, hget, record, hrecord, ?_, ?_⟩
  · refine ⟨⟨"accounts_index", "3", .ofFields [("id", .ofNat 3), ("team", .string "b")]⟩, rfl, ?_,
      fun hsoft ↦ Bool.noConfusion hsoft, "b", htext, ?_⟩ <;> decide +kernel
  · -- Both documents in the window are accounts of the first team.
    have hwindow : ∀ found ∈ (led.documentsFor store [.string "a", .string "b"]).take 2,
        (found.source.field? "team").bind Json.scalarText? = some "a" := by
      decide +kernel
    have hfind : ((led.documentsFor store [.string "a", .string "b"]).take 2).find?
        (fun found ↦ led.pairs record found.source) = none := by
      refine List.find?_eq_none.2 fun found hfound hpairs ↦ ?_
      obtain ⟨key, hforeign, howner⟩ := led.pairs_iff.1 hpairs
      rw [htext] at hforeign
      rw [← hforeign, show led.ownerKey = "team" from rfl, hwindow found hfound] at howner
      exact absurd howner (by decide)
    have hrelation := loadsOnly_teamUsers.relation?_of_get_one rfl rfl hidle hget hrecord
    rw [show led.foreignKey = "team" from rfl, hkeys] at hrelation
    rw [hrelation]
    exact congrArg (fun found ↦ some (Related.one (Option.map (Found.record · led.related) found)))
      hfind

end Query

end RecordSearch
