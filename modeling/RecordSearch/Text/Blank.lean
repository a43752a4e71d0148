/-!
# Blank characters

The characters of the property White_Space, and texts without blanks at their ends. A trimmed
text begins and ends with a character that is not blank (`trimmed_eq_self_iff`), and trimming
twice is trimming once (`trimmed_trimmed`).
-/

namespace RecordSearch.Text

/-- Does the character have the property White_Space? -/
def isBlank (c : Char) : Bool :=
  let n := c.toNat
  (0x9 ≤ n && n ≤ 0xD) || n == 0x20 || n == 0x85 || n == 0xA0 || n == 0x1680 ||
    (0x2000 ≤ n && n ≤ 0x200A) || n == 0x2028 || n == 0x2029 || n == 0x202F || n == 0x205F ||
    n == 0x3000

/-- A text without the blanks at its end. -/
def trimmedEnd (text : List Char) : List Char :=
  (text.reverse.dropWhile isBlank).reverse

/-- A text without the blanks at both ends. -/
def trimmed (text : List Char) : List Char :=
  trimmedEnd (text.dropWhile isBlank)

/-- A text without the blanks at both ends, as a text. -/
def trim (text : String) : String :=
  String.ofList (trimmed text.toList)

theorem dropWhile_eq_self_iff {α : Type _} {p : α → Bool} {xs : List α} :
    xs.dropWhile p = xs ↔ ∀ x, xs.head? = some x → p x = false := by
  cases xs with
  | nil => simp
  | cons x rest =>
    by_cases hx : p x = true
    · simp only [List.dropWhile_cons, hx, if_true, List.head?_cons, Option.some.injEq,
        forall_eq', Bool.true_eq_false, iff_false]
      intro h
      have := congrArg List.length h
      have hle := (List.dropWhile_sublist (l := rest) p).length_le
      simp only [List.length_cons] at this
      omega
    · simp [hx]

theorem head?_dropWhile {α : Type _} {p : α → Bool} {xs : List α} {x : α}
    (h : (xs.dropWhile p).head? = some x) : p x = false := by
  induction xs with
  | nil => simp at h
  | cons y rest ih =>
    by_cases hy : p y = true
    · rw [List.dropWhile_cons, if_pos hy] at h
      exact ih h
    · rw [List.dropWhile_cons, if_neg hy] at h
      simp_all

/-- A text is its own trimmed form exactly when neither end is blank. -/
theorem trimmed_eq_self_iff {text : List Char} :
    trimmed text = text ↔
      (∀ c, text.head? = some c → isBlank c = false) ∧
        ∀ c, text.getLast? = some c → isBlank c = false := by
  constructor
  · intro h
    have hfront : text.dropWhile isBlank = text := by
      have hle := (List.dropWhile_sublist (l := text) isBlank).length_le
      have hlen : text.length ≤ (text.dropWhile isBlank).length := by
        have h2 : (trimmed text).length ≤ (text.dropWhile isBlank).length := by
          simp only [trimmed, trimmedEnd, List.length_reverse]
          exact Nat.le_trans (List.dropWhile_sublist _).length_le (by simp)
        rwa [h] at h2
      exact (List.dropWhile_sublist isBlank).eq_of_length (Nat.le_antisymm hle hlen)
    refine ⟨dropWhile_eq_self_iff.1 hfront, ?_⟩
    rw [trimmed, hfront, trimmedEnd] at h
    have hback : text.reverse.dropWhile isBlank = text.reverse := by
      rw [← List.reverse_reverse (List.dropWhile _ _), h]
    simpa using dropWhile_eq_self_iff.1 hback
  · rintro ⟨hfront, hback⟩
    rw [trimmed, dropWhile_eq_self_iff.2 hfront, trimmedEnd,
      dropWhile_eq_self_iff.2 (by simpa using hback), List.reverse_reverse]

/-- What is left has no blank at either end. -/
theorem trimmed_trimmed (text : List Char) : trimmed (trimmed text) = trimmed text := by
  refine trimmed_eq_self_iff.2 ⟨fun c hc ↦ ?_, fun c hc ↦ ?_⟩
  · simp only [trimmed, trimmedEnd, List.head?_reverse] at hc
    obtain ⟨skipped, hskip⟩ := List.dropWhile_suffix (l := (text.dropWhile isBlank).reverse) isBlank
    have hfirst : (text.dropWhile isBlank).head? = some c := by
      rw [← List.getLast?_reverse, ← hskip]
      simp [List.getLast?_append, hc]
    exact head?_dropWhile hfirst
  · simp only [trimmed, trimmedEnd, List.getLast?_reverse] at hc
    exact head?_dropWhile hc

end RecordSearch.Text
