import Mathlib.Data.List.TakeWhile
import RecordSearch.Config
/-!
# Comma-separated lists have a normal form

An **item** of a comma-separated list is not empty, holds no comma and has no blank at either end.
Pieces **spell** items if each of them is blank or an item between blanks, in the order of the items
(`Text.Spells`). What is read from a text are the items that its pieces spell, and there is no other
such list (`Text.commaList_eq_iff`); so the items are read again from whatever spells them, however
padded, and a text of blank pieces is read as no list at all.
-/

namespace RecordSearch

namespace Text

/-! ### Blank texts -/

/-- All characters of the text are blank. -/
def Blank (text : String) : Prop :=
  ∀ c ∈ text.toList, isBlank c = true

instance : DecidablePred Blank := fun text ↦
  List.decidableBAll (fun c ↦ isBlank c = true) text.toList

/-- What trimming takes away at the ends is blank. -/
theorem exists_trimmed (text : List Char) :
    ∃ front back, (∀ c ∈ front, isBlank c = true) ∧ (∀ c ∈ back, isBlank c = true) ∧
      text = front ++ trimmed text ++ back := by
  let rest := text.dropWhile isBlank
  refine ⟨text.takeWhile isBlank, (rest.reverse.takeWhile isBlank).reverse,
    fun c hc ↦ List.mem_takeWhile_imp hc,
    fun c hc ↦ List.mem_takeWhile_imp (List.mem_reverse.1 hc), ?_⟩
  have hrest : rest = trimmed text ++ (rest.reverse.takeWhile isBlank).reverse := by
    rw [trimmed, trimmedEnd, ← List.reverse_append, List.takeWhile_append_dropWhile,
      List.reverse_reverse]
  rw [List.append_assoc, ← hrest, List.takeWhile_append_dropWhile]

theorem trimmed_eq_nil_iff {text : List Char} :
    trimmed text = [] ↔ ∀ c ∈ text, isBlank c = true := by
  constructor
  · intro h
    obtain ⟨front, back, hfront, hback, htext⟩ := exists_trimmed text
    rw [h, List.append_nil] at htext
    rw [htext]
    exact List.forall_mem_append.2 ⟨hfront, hback⟩
  · intro h
    rw [trimmed, List.dropWhile_eq_nil_iff.2 h]
    rfl

/-- Blanks before a text that does not begin with one are dropped. -/
theorem dropWhile_blanks {front rest : List Char} (hfront : ∀ c ∈ front, isBlank c = true)
    (hrest : ∀ c, rest.head? = some c → isBlank c = false) :
    (front ++ rest).dropWhile isBlank = rest := by
  rw [List.dropWhile_append_of_pos hfront, dropWhile_eq_self_iff.2 hrest]

/-- Blanks around a text that has none at its ends are trimmed away. -/
theorem trimmed_append {front back item : List Char} (hfront : ∀ c ∈ front, isBlank c = true)
    (hback : ∀ c ∈ back, isBlank c = true) (hitem : trimmed item = item) :
    trimmed (front ++ item ++ back) = item := by
  obtain ⟨hhead, hlast⟩ := trimmed_eq_self_iff.1 hitem
  cases item with
  | nil =>
    rw [trimmed_eq_nil_iff, List.append_nil]
    exact List.forall_mem_append.2 ⟨hfront, hback⟩
  | cons first rest =>
    -- The text is not empty, so its head is that of the text with the blanks behind it.
    have hkept : (front ++ (first :: rest ++ back)).dropWhile isBlank = first :: rest ++ back :=
      dropWhile_blanks hfront hhead
    rw [trimmed, List.append_assoc, hkept, trimmedEnd, List.reverse_append,
      dropWhile_blanks (fun c hc ↦ hback c (List.mem_reverse.1 hc)), List.reverse_reverse]
    exact fun c hc ↦ hlast c (by rwa [List.head?_reverse] at hc)

theorem toList_trim (text : String) : (trim text).toList = trimmed text.toList :=
  String.toList_ofList

theorem trim_eq_empty_iff {text : String} : trim text = "" ↔ Blank text := by
  rw [← String.toList_inj, toList_trim]
  exact trimmed_eq_nil_iff

/-- A text is its trimmed form between blanks. -/
theorem exists_trim (text : String) :
    ∃ front back, Blank front ∧ Blank back ∧ text = front ++ trim text ++ back := by
  obtain ⟨front, back, hfront, hback, htext⟩ := exists_trimmed text.toList
  refine ⟨.ofList front, .ofList back, ?_, ?_, ?_⟩
  · rwa [Blank, String.toList_ofList]
  · rwa [Blank, String.toList_ofList]
  · rw [← String.toList_inj, String.toList_append, String.toList_append, toList_trim,
      String.toList_ofList, String.toList_ofList]
    exact htext

/-! ### Items -/

/-- An item of a comma-separated list. -/
structure IsItem (item : String) : Prop where
  /-- It is not empty. -/
  ne_empty : item ≠ ""
  /-- It holds no comma. -/
  not_mem : ',' ∉ item.toList
  /-- It does not begin with a blank. -/
  head_not_blank : ∀ c, item.toList.head? = some c → isBlank c = false
  /-- It does not end in a blank. -/
  last_not_blank : ∀ c, item.toList.getLast? = some c → isBlank c = false

/-- Pieces of a text **spell** items: each piece is blank, or the next item between blanks. -/
inductive Spells : List String → List String → Prop
  | nil : Spells [] []
  | blank {piece : String} {pieces items : List String} (hblank : Blank piece)
      (h : Spells pieces items) : Spells (piece :: pieces) items
  | item {front back : String} (item : String) {pieces items : List String} (hfront : Blank front)
      (hback : Blank back) (h : Spells pieces items) :
      Spells ((front ++ item ++ back) :: pieces) (item :: items)

theorem IsItem.trimmed_eq {item : String} (h : IsItem item) : trimmed item.toList = item.toList :=
  trimmed_eq_self_iff.2 ⟨h.head_not_blank, h.last_not_blank⟩

/-- An item between blanks is found by trimming. -/
theorem IsItem.trim_append {front back item : String} (h : IsItem item) (hfront : Blank front)
    (hback : Blank back) : trim (front ++ item ++ back) = item := by
  rw [← String.toList_inj, toList_trim, String.toList_append, String.toList_append]
  exact trimmed_append hfront hback h.trimmed_eq

theorem not_mem_of_blank {text : String} (h : Blank text) : ',' ∉ text.toList := by
  intro hcomma
  exact absurd (h ',' hcomma) (by decide)

/-- What is left of a piece that is not blank is an item. -/
theorem isItem_trim {piece : String} (hcomma : ',' ∉ piece.toList) (h : ¬Blank piece) :
    IsItem (trim piece) := by
  have hends := trimmed_eq_self_iff.1 (trimmed_trimmed piece.toList)
  rw [← toList_trim] at hends
  refine ⟨fun hempty ↦ h (trim_eq_empty_iff.1 hempty), fun hmem ↦ hcomma ?_, hends.1, hends.2⟩
  obtain ⟨front, back, -, -, hpiece⟩ := exists_trim piece
  rw [hpiece, String.toList_append, String.toList_append]
  exact List.mem_append_left _ (List.mem_append_right _ hmem)

/-! ### Pieces -/

/-- The trimmed forms of the pieces that are not blank, in order. -/
def kept (pieces : List String) : List String :=
  (pieces.filter fun piece ↦ ¬Blank piece).map trim

theorem commaList_eq_kept (text : String) : commaList text = kept (splitAt ',' text) := by
  have htrim : ∀ piece, String.ofList (trimmed piece) = trim (String.ofList piece) := fun piece ↦ by
    rw [trim, String.toList_ofList]
  have hkept : ∀ piece, (!(trimmed piece).isEmpty) = decide ¬Blank (String.ofList piece) := by
    intro piece
    rw [Bool.eq_iff_iff]
    simp [Blank, ← trimmed_eq_nil_iff]
  rw [commaList, commaItems, kept, splitAt, List.filter_map, List.filter_map, List.map_map,
    List.map_map]
  simp only [Function.comp_def, hkept, htrim]

theorem kept_cons_of_blank {piece : String} (h : Blank piece) (pieces : List String) :
    kept (piece :: pieces) = kept pieces := by
  rw [kept, List.filter_cons_of_neg (by simpa using h), kept]

theorem kept_cons_of_not_blank {piece : String} (h : ¬Blank piece) (pieces : List String) :
    kept (piece :: pieces) = trim piece :: kept pieces := by
  rw [kept, List.filter_cons_of_pos (by simpa using h), List.map_cons, kept]

/-- Pieces spell what is kept of them. -/
theorem spells_kept (pieces : List String) : Spells pieces (kept pieces) := by
  induction pieces with
  | nil => exact .nil
  | cons piece rest ih =>
    by_cases h : Blank piece
    · rw [kept_cons_of_blank h]
      exact .blank h ih
    · obtain ⟨front, back, hfront, hback, hpiece⟩ := exists_trim piece
      have hspelled := Spells.item (trim piece) hfront hback ih
      rwa [← hpiece, ← kept_cons_of_not_blank h] at hspelled

/-- Of pieces that spell items, the items are kept. -/
theorem Spells.kept_eq {pieces items : List String} (h : Spells pieces items)
    (hitems : ∀ item ∈ items, IsItem item) : kept pieces = items := by
  induction h with
  | nil => rfl
  | blank hblank _ ih => rw [kept_cons_of_blank hblank, ih hitems]
  | @item front back item _ _ hfront hback _ ih =>
    obtain ⟨hitem, hrest⟩ := List.forall_mem_cons.1 hitems
    have htrim := hitem.trim_append hfront hback
    have hnot : ¬Blank (front ++ item ++ back) := by
      rw [← trim_eq_empty_iff, htrim]
      exact hitem.ne_empty
    rw [kept_cons_of_not_blank hnot, htrim, ih hrest]

/-- What is kept of the pieces of a text are items. -/
theorem isItem_of_mem_commaList {text item : String} (h : item ∈ commaList text) : IsItem item := by
  rw [commaList_eq_kept, kept] at h
  obtain ⟨piece, hmem, rfl⟩ := List.mem_map.1 h
  obtain ⟨hpiece, hnot⟩ := List.mem_filter.1 hmem
  obtain ⟨chars, hsegment, rfl⟩ := List.mem_map.1 hpiece
  refine isItem_trim ?_ (by simpa using hnot)
  rw [String.toList_ofList]
  exact not_mem_of_mem_segments hsegment

/-- **What is read from a text.** A list is read from a text if and only if it consists of items and
the pieces of the text spell it. -/
theorem commaList_eq_iff {text : String} {items : List String} :
    commaList text = items ↔
      (∀ item ∈ items, IsItem item) ∧ Spells (splitAt ',' text) items := by
  constructor
  · rintro rfl
    refine ⟨fun item ↦ isItem_of_mem_commaList, ?_⟩
    rw [commaList_eq_kept]
    exact spells_kept _
  · rintro ⟨hitems, hspells⟩
    rw [commaList_eq_kept, hspells.kept_eq hitems]

/-! ### Texts that spell items -/

/-- Pieces that spell items hold no comma. -/
theorem Spells.not_mem {pieces items : List String} (h : Spells pieces items)
    (hitems : ∀ item ∈ items, IsItem item) : ∀ piece ∈ pieces, ',' ∉ piece.toList := by
  induction h with
  | nil => exact nofun
  | blank hblank _ ih => exact List.forall_mem_cons.2 ⟨not_mem_of_blank hblank, ih hitems⟩
  | item item hfront hback _ ih =>
    obtain ⟨hitem, hrest⟩ := List.forall_mem_cons.1 hitems
    refine List.forall_mem_cons.2 ⟨?_, ih hrest⟩
    simp [not_mem_of_blank hfront, hitem.not_mem, not_mem_of_blank hback]

/-- Items are read again from the text of any pieces that spell them. -/
theorem Spells.commaList_join {pieces items : List String} (h : Spells pieces items)
    (hitems : ∀ item ∈ items, IsItem item) (hne : pieces ≠ []) :
    commaList (join ',' pieces) = items := by
  rw [commaList_eq_iff, splitAt_join hne (h.not_mem hitems)]
  exact ⟨hitems, h⟩

/-- Items spell themselves. -/
theorem Spells.refl (items : List String) : Spells items items := by
  induction items with
  | nil => exact .nil
  | cons item rest ih =>
    have hempty : Blank "" := nofun
    simpa using Spells.item item hempty hempty ih

theorem commaList?_eq_some_iff {text : String} {items : List String} :
    commaList? text = some items ↔ commaList text = items ∧ items ≠ [] := by
  rw [commaList?]
  split <;> grind

theorem commaList_eq_nil_iff {text : String} :
    commaList text = [] ↔ ∀ piece ∈ splitAt ',' text, Blank piece := by
  rw [commaList_eq_kept, kept, List.map_eq_nil_iff, List.filter_eq_nil_iff]
  simp

/-- **Comma-separated lists have a normal form.** No list is read from a text exactly when all its
pieces are blank. A list that is read is not empty and consists of items, namely the trimmed forms
of the pieces that are not blank, and the pieces spell it. It is read again from the items joined by
commas, and from any other pieces that spell them. The hosts of an environment are the list that is
read from their variable, or the default hosts if none is. -/
theorem comma_lists_normal (text : String) :
    (commaList? text = none ↔ ∀ piece ∈ splitAt ',' text, Blank piece) ∧
    (∀ items, commaList? text = some items →
      items ≠ [] ∧ (∀ item ∈ items, IsItem item) ∧
      items = ((splitAt ',' text).filter fun piece ↦ ¬Blank piece).map trim ∧
      Spells (splitAt ',' text) items ∧
      commaList? (join ',' items) = some items ∧
      ∀ pieces, Spells pieces items → commaList? (join ',' pieces) = some items) ∧
    ∀ lookup, lookup "ELASTIC_HOST" = some text →
      (Config.ofEnvironment lookup).hosts = (commaList? text).getD ({} : Config).hosts := by
  refine ⟨commaList?_eq_none_iff.trans commaList_eq_nil_iff, fun items h ↦ ?_, fun lookup h ↦ ?_⟩
  · obtain ⟨hitems, hne⟩ := commaList?_eq_some_iff.1 h
    obtain ⟨hall, hspells⟩ := commaList_eq_iff.1 hitems
    have hagain : ∀ pieces, Spells pieces items → commaList? (join ',' pieces) = some items := by
      intro pieces hpieces
      refine commaList?_eq_some_iff.2 ⟨hpieces.commaList_join hall ?_, hne⟩
      rintro rfl
      cases hpieces
      exact hne rfl
    exact ⟨hne, hall, by rw [← hitems]; exact commaList_eq_kept text, hspells,
      hagain items (.refl items), hagain⟩
  · rw [Config.ofEnvironment, h]
    rfl

/-- Two numbers, one of them behind an em space, are read again from a text that has a tab and a
no-break space around them and a blank piece between them, and they may name hosts. -/
theorem comma_lists_normal_padded :
    let text := " 7, ,\u2003 42"
    let pieces := ["\t" ++ "7" ++ "", " ", "" ++ "42" ++ "\u00a0"]
    let environment : String → Option String := fun key ↦
      if key = "ELASTIC_HOST" then some text else none
    commaList? text = some ["7", "42"] ∧ (∀ item ∈ ["7", "42"], IsItem item) ∧
      Spells pieces ["7", "42"] ∧ commaList? (join ',' pieces) = some ["7", "42"] ∧
      (Config.ofEnvironment environment).hosts = ["7", "42"] := by
  intro text pieces environment
  obtain ⟨-, hlist, hhosts⟩ := comma_lists_normal text
  have hread : commaList? text = some ["7", "42"] := by decide +kernel
  obtain ⟨-, hitems, -, -, -, hagain⟩ := hlist _ hread
  have hspells : Spells pieces ["7", "42"] :=
    .item "7" (by decide +kernel) (by decide +kernel) (.blank (by decide +kernel)
      (.item "42" (by decide +kernel) (by decide +kernel) .nil))
  have henvironment := hhosts environment (by decide +kernel)
  rw [hread] at henvironment
  exact ⟨hread, hitems, hspells, hagain _ hspells, henvironment⟩

end Text

end RecordSearch
