/-!
# Dictionaries in key order

A dictionary is a list of named values whose names strictly increase. Two dictionaries with the
same look-ups are therefore equal (`Dict.ext_get?`), and walking one visits its names in code
point order. The list operations come first, because a type that contains itself (a JSON object,
a schema with its relations) holds the bare list; `Dict` adds the order as a proof field.

Each operation is known by what it does to look-ups: `get?_insert`, `get?_erase`, `get?_overlay`.
-/

namespace RecordSearch

universe u v

/-! ### Lists of named values -/

/-- A list of named values. -/
abbrev Fields (α : Type u) : Type u := List (String × α)

namespace Fields

variable {α : Type u} {β : Type v}

/-- The first value under a name. -/
def get? : Fields α → String → Option α
  | [], _ => none
  | (k, v) :: rest, name => if k = name then some v else get? rest name

/-- Put a value under a name: over the value already there, else in front of the first
greater name. -/
def insert : Fields α → String → α → Fields α
  | [], name, value => [(name, value)]
  | (k, v) :: rest, name, value =>
    if k = name then (name, value) :: rest
    else if name < k then (name, value) :: (k, v) :: rest
    else (k, v) :: insert rest name value

/-- Remove every value under a name. -/
def erase (fields : Fields α) (name : String) : Fields α :=
  fields.filter fun entry ↦ entry.1 ≠ name

/-- The names strictly increase. -/
def Sorted (fields : Fields α) : Prop :=
  fields.Pairwise fun a b ↦ a.1 < b.1

@[simp]
theorem get?_nil (name : String) : get? ([] : Fields α) name = none :=
  rfl

theorem get?_cons (k : String) (v : α) (rest : Fields α) (name : String) :
    get? ((k, v) :: rest) name = if k = name then some v else get? rest name :=
  rfl

/-- A name that is found is one of the listed ones, with its value. -/
theorem mem_of_get?_eq_some {fields : Fields α} {name : String} {value : α}
    (h : fields.get? name = some value) : (name, value) ∈ fields := by
  induction fields with
  | nil => simp at h
  | cons entry rest ih =>
    obtain ⟨k, v⟩ := entry
    by_cases hk : k = name
    · simp_all [get?_cons]
    · exact List.mem_cons_of_mem _ (ih (by simpa [get?_cons, hk] using h))

/-- A name below all listed names is not found. -/
theorem get?_eq_none_of_lt {fields : Fields α} {name : String}
    (h : ∀ entry ∈ fields, name < entry.1) : fields.get? name = none := by
  induction fields with
  | nil => rfl
  | cons entry rest ih =>
    obtain ⟨k, v⟩ := entry
    have hk : k ≠ name := fun e ↦ String.lt_irrefl _ (e ▸ h (k, v) (by simp))
    rw [get?_cons, if_neg hk, ih fun e he ↦ h e (List.mem_cons_of_mem _ he)]

theorem get?_insert (fields : Fields α) (name other : String) (value : α) :
    (fields.insert name value).get? other =
      if name = other then some value else fields.get? other := by
  induction fields with
  | nil => rfl
  | cons entry rest ih =>
    obtain ⟨k, v⟩ := entry
    rw [insert]
    split
    · next hk => subst hk; grind [get?_cons]
    · split
      · grind [get?_cons]
      · grind [get?_cons]

/-- Insertions under different names commute. -/
theorem insert_comm (fields : Fields α) {first second : String} (h : first ≠ second) (a b : α) :
    (fields.insert first a).insert second b = (fields.insert second b).insert first a := by
  induction fields with
  | nil => grind [insert]
  | cons entry rest ih =>
    obtain ⟨k, v⟩ := entry
    grind [insert]

/-- What an insertion lists was there before or is the new entry. -/
theorem mem_insert {fields : Fields α} {name : String} {value : α} {entry : String × α}
    (h : entry ∈ fields.insert name value) : entry = (name, value) ∨ entry ∈ fields := by
  induction fields with
  | nil => simpa [insert] using h
  | cons head rest ih =>
    obtain ⟨k, v⟩ := head
    rw [insert] at h
    grind

theorem Sorted.insert {fields : Fields α} (h : fields.Sorted) (name : String) (value : α) :
    (fields.insert name value).Sorted := by
  induction fields with
  | nil => exact List.pairwise_singleton _ _
  | cons head rest ih =>
    obtain ⟨k, v⟩ := head
    obtain ⟨hhead, hrest⟩ := List.pairwise_cons.1 h
    rw [Fields.insert]
    split
    · next hk => subst hk; exact List.pairwise_cons.2 ⟨hhead, hrest⟩
    · next hk =>
      split
      · next hlt =>
        refine List.pairwise_cons.2 ⟨fun e he ↦ ?_, h⟩
        rcases List.mem_cons.1 he with rfl | he
        · exact hlt
        · exact String.lt_trans hlt (hhead e he)
      · next hlt =>
        refine List.pairwise_cons.2 ⟨fun e he ↦ ?_, ih hrest⟩
        rcases mem_insert he with rfl | he
        · rcases Decidable.em (k < name) with hkn | hkn
          · exact hkn
          · exact absurd (String.le_antisymm (String.not_lt.1 hlt) (String.not_lt.1 hkn)) hk
        · exact hhead e he

theorem Sorted.erase {fields : Fields α} (h : fields.Sorted) (name : String) :
    (fields.erase name).Sorted :=
  List.Pairwise.filter _ h

theorem get?_erase (fields : Fields α) (name other : String) :
    (fields.erase name).get? other = if name = other then none else fields.get? other := by
  induction fields with
  | nil => simp [erase]
  | cons head rest ih =>
    obtain ⟨k, v⟩ := head
    rw [erase] at ih ⊢
    rw [List.filter_cons]
    grind [get?_cons]

/-- In an ordered list each entry is the one found under its name. -/
theorem Sorted.get?_eq_some_iff {fields : Fields α} (h : fields.Sorted) {name : String}
    {value : α} : fields.get? name = some value ↔ (name, value) ∈ fields := by
  refine ⟨mem_of_get?_eq_some, fun hmem ↦ ?_⟩
  induction fields with
  | nil => simp at hmem
  | cons head rest ih =>
    obtain ⟨k, v⟩ := head
    obtain ⟨hhead, hrest⟩ := List.pairwise_cons.1 h
    rcases List.mem_cons.1 hmem with heq | hmem
    · obtain ⟨rfl, rfl⟩ := Prod.mk.inj heq
      simp [get?_cons]
    · have hk : k ≠ name := fun e ↦ String.lt_irrefl _ (e ▸ hhead _ hmem)
      rw [get?_cons, if_neg hk, ih hrest hmem]

/-- Ordered lists with the same look-ups are the same list. -/
theorem Sorted.ext {a b : Fields α} (ha : a.Sorted) (hb : b.Sorted)
    (h : ∀ name, a.get? name = b.get? name) : a = b := by
  induction a generalizing b with
  | nil =>
    cases b with
    | nil => rfl
    | cons head rest => simpa [Fields.get?] using h head.1
  | cons head rest ih =>
    obtain ⟨k, v⟩ := head
    cases b with
    | nil => simpa [Fields.get?] using h k
    | cons head' rest' =>
      obtain ⟨k', v'⟩ := head'
      obtain ⟨hlow, hrest⟩ := List.pairwise_cons.1 ha
      obtain ⟨hlow', hrest'⟩ := List.pairwise_cons.1 hb
      have hk : k = k' := by
        by_cases hkk : k = k'
        · exact hkk
        have h1 : (k, v) ∈ rest' := mem_of_get?_eq_some (by
          have := h k
          simp only [get?_cons, if_true] at this
          rw [if_neg (Ne.symm hkk)] at this
          exact this.symm)
        have h2 : (k', v') ∈ rest := mem_of_get?_eq_some (by
          have := h k'
          simp only [get?_cons, if_true] at this
          rwa [if_neg hkk] at this)
        exact absurd (hlow _ h2) (String.lt_asymm (hlow' _ h1))
      subst hk
      have hv : v = v' := by simpa [get?_cons] using h k
      subst hv
      rw [ih hrest hrest' fun name ↦ ?_]
      by_cases hn : k = name
      · subst hn
        rw [get?_eq_none_of_lt hlow, get?_eq_none_of_lt hlow']
      · simpa [get?_cons, hn] using h name

/-- A value found in a list is smaller than the list, which is what a walk through nested
fields needs to end. -/
theorem sizeOf_lt_of_get?_eq_some [SizeOf α] {fields : Fields α} {name : String} {value : α}
    (h : fields.get? name = some value) : sizeOf value < sizeOf fields := by
  have hlt := List.sizeOf_lt_of_mem (mem_of_get?_eq_some h)
  simp only [Prod.mk.sizeOf_spec] at hlt
  omega

end Fields

/-! ### Dictionaries -/

/-- Named values in increasing order of their names. -/
structure Dict (α : Type u) where
  /-- The entries, smallest name first. -/
  entries : Fields α
  /-- The names strictly increase. -/
  sorted : entries.Sorted

namespace Dict

variable {α : Type u} {β : Type v}

/-- The dictionary without entries. -/
def empty : Dict α := ⟨[], List.Pairwise.nil⟩

instance : EmptyCollection (Dict α) := ⟨empty⟩

instance : Inhabited (Dict α) := ⟨empty⟩

/-- The value under a name. -/
def get? (dict : Dict α) (name : String) : Option α :=
  dict.entries.get? name

/-- Is there a value under the name? -/
def contains (dict : Dict α) (name : String) : Bool :=
  (dict.get? name).isSome

/-- Put a value under a name, over the one already there. -/
def insert (dict : Dict α) (name : String) (value : α) : Dict α :=
  ⟨dict.entries.insert name value, dict.sorted.insert name value⟩

/-- Remove what is under a name. -/
def erase (dict : Dict α) (name : String) : Dict α :=
  ⟨dict.entries.erase name, dict.sorted.erase name⟩

/-- Replace the value under a name, found or not, by a function of it. -/
def alter (dict : Dict α) (name : String) (change : Option α → α) : Dict α :=
  dict.insert name (change (dict.get? name))

/-- The number of entries. -/
def size (dict : Dict α) : Nat :=
  dict.entries.length

/-- Are there no entries? -/
def isEmpty (dict : Dict α) : Bool :=
  dict.entries.isEmpty

/-- The entry with the smallest name. -/
def first? (dict : Dict α) : Option (String × α) :=
  dict.entries.head?

/-- Write all entries of a second dictionary over the first. -/
def overlay (base top : Dict α) : Dict α :=
  top.entries.foldr (fun entry dict ↦ dict.insert entry.1 entry.2) base

/-- The dictionary of a list of named values; of equal names the first one counts. -/
def ofList (entries : Fields α) : Dict α :=
  entries.foldr (fun entry dict ↦ dict.insert entry.1 entry.2) empty

/-- The dictionary with one entry. -/
def single (name : String) (value : α) : Dict α :=
  empty.insert name value

theorem ext_entries {a b : Dict α} (h : a.entries = b.entries) : a = b := by
  cases a; cases b; simp_all

/-- Dictionaries with the same look-ups are equal. -/
theorem ext_get? {a b : Dict α} (h : ∀ name, a.get? name = b.get? name) : a = b :=
  ext_entries (a.sorted.ext b.sorted h)

instance [DecidableEq α] : DecidableEq (Dict α) := fun a b ↦
  if h : a.entries = b.entries then isTrue (ext_entries h) else isFalse fun e ↦ h (e ▸ rfl)

@[simp]
theorem get?_empty (name : String) : (∅ : Dict α).get? name = none :=
  rfl

theorem get?_insert (dict : Dict α) (name other : String) (value : α) :
    (dict.insert name value).get? other =
      if name = other then some value else dict.get? other :=
  Fields.get?_insert dict.entries name other value

@[simp]
theorem get?_insert_self (dict : Dict α) (name : String) (value : α) :
    (dict.insert name value).get? name = some value := by
  simp [get?_insert]

theorem get?_insert_of_ne (dict : Dict α) {name other : String} (value : α)
    (h : name ≠ other) : (dict.insert name value).get? other = dict.get? other := by
  simp [get?_insert, h]

theorem get?_single (name other : String) (value : α) :
    (single name value).get? other = if name = other then some value else none :=
  get?_insert empty name other value

@[simp]
theorem get?_single_self (name : String) (value : α) :
    (single name value).get? name = some value :=
  get?_insert_self empty name value

/-- Of two values put under a name the second one counts. -/
theorem insert_insert_self (dict : Dict α) (name : String) (first second : α) :
    (dict.insert name first).insert name second = dict.insert name second := by
  refine ext_get? fun other ↦ ?_
  simp only [get?_insert]
  split <;> rfl

theorem insert_single_self (name : String) (first second : α) :
    (single name first).insert name second = single name second :=
  insert_insert_self empty name first second

theorem get?_erase (dict : Dict α) (name other : String) :
    (dict.erase name).get? other = if name = other then none else dict.get? other :=
  Fields.get?_erase dict.entries name other

/-- What is not there need not be removed. -/
theorem erase_of_get?_eq_none {dict : Dict α} {name : String} (h : dict.get? name = none) :
    dict.erase name = dict := by
  refine ext_get? fun other ↦ ?_
  rw [get?_erase]
  split
  · next heq => rw [← heq, h]
  · rfl

/-- What is put under a name and removed again leaves the rest. -/
theorem erase_insert_self (dict : Dict α) (name : String) (value : α) :
    (dict.insert name value).erase name = dict.erase name := by
  refine ext_get? fun other ↦ ?_
  rw [get?_erase, get?_erase, get?_insert]
  split <;> rfl

/-- What is there already need not be put there. -/
theorem insert_of_get?_eq_some {dict : Dict α} {name : String} {value : α}
    (h : dict.get? name = some value) : dict.insert name value = dict := by
  refine ext_get? fun other ↦ ?_
  rw [get?_insert]
  split
  · next heq => rw [← heq, h]
  · rfl

@[simp]
theorem contains_iff {dict : Dict α} {name : String} :
    dict.contains name = true ↔ ∃ value, dict.get? name = some value := by
  simp [contains, Option.isSome_iff_exists]

theorem get?_eq_some_iff_mem {dict : Dict α} {name : String} {value : α} :
    dict.get? name = some value ↔ (name, value) ∈ dict.entries :=
  dict.sorted.get?_eq_some_iff

private theorem get?_foldr_insert (entries : Fields α) (base : Dict α) (name : String) :
    (entries.foldr (fun entry dict ↦ dict.insert entry.1 entry.2) base).get? name =
      (entries.get? name).or (base.get? name) := by
  induction entries with
  | nil => rfl
  | cons head rest ih =>
    rw [List.foldr_cons, get?_insert, ih, Fields.get?_cons]
    split <;> simp

/-- The upper dictionary is asked first. -/
theorem get?_overlay (base top : Dict α) (name : String) :
    (base.overlay top).get? name = (top.get? name).or (base.get? name) :=
  get?_foldr_insert top.entries base name

theorem get?_ofList (entries : Fields α) (name : String) :
    (ofList entries).get? name = entries.get? name := by
  rw [ofList, get?_foldr_insert]
  cases entries.get? name <;> rfl

/-- A dictionary is rebuilt from its own entries. -/
@[simp]
theorem ofList_entries (dict : Dict α) : ofList dict.entries = dict :=
  ext_get? fun name ↦ get?_ofList dict.entries name

/-- A dictionary is empty exactly when it is the empty one. -/
@[simp]
theorem isEmpty_iff {dict : Dict α} : dict.isEmpty = true ↔ dict = ∅ := by
  constructor
  · intro h
    exact ext_entries (List.isEmpty_iff.1 h)
  · rintro rfl
    rfl

@[simp]
theorem single_ne_empty (name : String) (value : α) : single name value ≠ ∅ := by
  intro h
  have := get?_single_self name value
  simp [h] at this

@[simp]
theorem insert_ne_empty (dict : Dict α) (name : String) (value : α) :
    dict.insert name value ≠ ∅ := by
  intro h
  have := get?_insert_self dict name value
  simp [h] at this

end Dict

end RecordSearch
