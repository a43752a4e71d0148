/-!
# Splitting at a character

`segments` cuts a text at every occurrence of a separator and `joined` puts the pieces back with
one separator between neighbours. Cutting loses nothing (`joined_segments`), no piece holds the
separator (`not_mem_of_mem_segments`), and pieces without the separator are found again
(`segments_joined`). For texts these are `join_splitAt` and `splitAt_join`.
-/

namespace RecordSearch.Text

/-- The pieces of a text between the occurrences of a separator, at least one. -/
def segments (sep : Char) : List Char → List (List Char)
  | [] => [[]]
  | c :: rest =>
    if c = sep then [] :: segments sep rest
    else
      match segments sep rest with
      | [] => [[c]]
      | piece :: more => (c :: piece) :: more

/-- Pieces with a separator between neighbours. -/
def joined (sep : Char) : List (List Char) → List Char
  | [] => []
  | [piece] => piece
  | piece :: more => piece ++ sep :: joined sep more

/-- The pieces of a text, as texts. -/
def splitAt (sep : Char) (text : String) : List String :=
  (segments sep text.toList).map String.ofList

/-- Texts with a separator between neighbours. -/
def join (sep : Char) (texts : List String) : String :=
  String.ofList (joined sep (texts.map String.toList))

theorem segments_ne_nil (sep : Char) (text : List Char) : segments sep text ≠ [] := by
  induction text with
  | nil => simp [segments]
  | cons c rest ih =>
    rw [segments]
    split
    · simp
    · split <;> simp

theorem joined_cons_of_ne_nil (sep : Char) (piece : List Char) {more : List (List Char)}
    (h : more ≠ []) : joined sep (piece :: more) = piece ++ sep :: joined sep more := by
  cases more with
  | nil => exact absurd rfl h
  | cons _ _ => rfl

/-- Cutting loses nothing. -/
theorem joined_segments (sep : Char) (text : List Char) :
    joined sep (segments sep text) = text := by
  induction text with
  | nil => rfl
  | cons c rest ih =>
    rw [segments]
    split
    · next hc =>
      subst hc
      rw [joined_cons_of_ne_nil _ _ (segments_ne_nil _ _), ih, List.nil_append]
    · cases hs : segments sep rest with
      | nil => exact absurd hs (segments_ne_nil _ _)
      | cons piece more =>
        rw [hs] at ih
        cases more with
        | nil => simpa [joined] using ih
        | cons next others => simpa [joined] using ih

/-- No piece holds the separator. -/
theorem not_mem_of_mem_segments {sep : Char} {text piece : List Char}
    (h : piece ∈ segments sep text) : sep ∉ piece := by
  induction text generalizing piece with
  | nil => simp_all [segments]
  | cons c rest ih =>
    rw [segments] at h
    split at h
    · rcases List.mem_cons.1 h with rfl | h
      · simp
      · exact ih h
    · next hc =>
      cases hs : segments sep rest with
      | nil => exact absurd hs (segments_ne_nil _ _)
      | cons head more =>
        rw [hs] at h ih
        rcases List.mem_cons.1 h with rfl | h
        · simp only [List.mem_cons, not_or]
          exact ⟨Ne.symm hc, ih (List.mem_cons_self ..)⟩
        · exact ih (List.mem_cons_of_mem _ h)

/-- A text without the separator is its own only piece. -/
theorem segments_of_not_mem {sep : Char} {text : List Char} (h : sep ∉ text) :
    segments sep text = [text] := by
  induction text with
  | nil => rfl
  | cons c rest ih =>
    simp only [List.mem_cons, not_or] at h
    rw [segments]
    rw [if_neg (Ne.symm h.1), ih h.2]

/-- The pieces of a text that begins with a piece and a separator. -/
theorem segments_append {sep : Char} {piece : List Char} (h : sep ∉ piece) (rest : List Char) :
    segments sep (piece ++ sep :: rest) = piece :: segments sep rest := by
  induction piece with
  | nil => simp [segments]
  | cons c more ih =>
    simp only [List.mem_cons, not_or] at h
    rw [List.cons_append, segments, if_neg (Ne.symm h.1), ih h.2]

/-- Pieces without the separator are found again in what they are joined to. -/
theorem segments_joined {sep : Char} {pieces : List (List Char)} (hne : pieces ≠ [])
    (h : ∀ piece ∈ pieces, sep ∉ piece) : segments sep (joined sep pieces) = pieces := by
  induction pieces with
  | nil => exact absurd rfl hne
  | cons piece more ih =>
    cases more with
    | nil => exact segments_of_not_mem (h piece (List.mem_cons_self ..))
    | cons next others =>
      rw [joined_cons_of_ne_nil _ _ (List.cons_ne_nil _ _),
        segments_append (h piece (List.mem_cons_self ..)),
        ih (List.cons_ne_nil _ _) fun p hp ↦ h p (List.mem_cons_of_mem _ hp)]

/-- Cutting a text loses nothing. -/
theorem join_splitAt (sep : Char) (text : String) : join sep (splitAt sep text) = text := by
  have hpieces : String.toList ∘ String.ofList = id := funext fun _ ↦ String.toList_ofList
  rw [join, splitAt, List.map_map, hpieces, List.map_id, joined_segments, String.ofList_toList]

/-- Pieces without the separator are found again in the text that they are joined to. -/
theorem splitAt_join {sep : Char} {pieces : List String} (hne : pieces ≠ [])
    (h : ∀ piece ∈ pieces, sep ∉ piece.toList) : splitAt sep (join sep pieces) = pieces := by
  have htexts : String.ofList ∘ String.toList = id := funext fun _ ↦ String.ofList_toList
  rw [splitAt, join, String.toList_ofList, segments_joined (by simpa using hne) (by simpa using h),
    List.map_map, htexts, List.map_id]

end RecordSearch.Text
