import RecordSearch.Json.Numeral
/-!
# Reading JSON

`Json.read?` reads a text as one value with blanks around it. Each reader returns what it read
and what is left of the text; the rest of a value is shorter than the text it was read from, and
that is why the mutual recursion ends. Of two fields with the same name the later one counts.
-/

namespace RecordSearch.Json

/-! ### Pieces of text -/

/-- What is left of a text after something was read from it. -/
abbrev Shorter (input : List Char) : Type :=
  { rest : List Char // rest.length < input.length }

/-- Is the character skipped between the parts of a value? -/
def isSpace (c : Char) : Bool :=
  c == ' ' || c == '\t' || c == '\n' || c == '\r'

/-- The text without the blanks in front. -/
def skipSpace (input : List Char) : List Char :=
  input.dropWhile isSpace

theorem length_skipSpace_le (input : List Char) : (skipSpace input).length ≤ input.length :=
  (List.dropWhile_sublist _).length_le

/-- The value of a digit to the base sixteen. -/
def hexValue? (c : Char) : Option Nat :=
  if c.isDigit then some (c.toNat - '0'.toNat)
  else if 'a' ≤ c ∧ c ≤ 'f' then some (c.toNat - 'a'.toNat + 10)
  else if 'A' ≤ c ∧ c ≤ 'F' then some (c.toNat - 'A'.toNat + 10)
  else none

/-- The value of four digits to the base sixteen. -/
def hexUnit? (a b c d : Char) : Option Nat := do
  return ((← hexValue? a) * 16 + (← hexValue? b)) * 256 + ((← hexValue? c) * 16 + (← hexValue? d))

/-- The character that one or two numbered units stand for. A unit of a pair never stands
alone. -/
def unitChar? (unit : Nat) : Option Char :=
  if unit < 0xD800 ∨ 0xDFFF < unit then some (Char.ofNat unit) else none

/-- The character that a pair of units stands for. -/
def pairChar? (high low : Nat) : Option Char :=
  if 0xD800 ≤ high ∧ high ≤ 0xDBFF ∧ 0xDC00 ≤ low ∧ low ≤ 0xDFFF then
    some (Char.ofNat (0x10000 + (high - 0xD800) * 0x400 + (low - 0xDC00)))
  else none

/-- The character that a letter behind a backslash stands for. -/
def escapedChar? (c : Char) : Option Char :=
  match c with
  | '"' => some '"'
  | '\\' => some '\\'
  | '/' => some '/'
  | 'b' => some '\x08'
  | 'f' => some '\x0c'
  | 'n' => some '\n'
  | 'r' => some '\r'
  | 't' => some '\t'
  | _ => none

/-- The rest of a string behind its opening quote, and what follows the closing one. -/
def readStringTail? : List Char → Option (List Char × List Char)
  | '"' :: rest => some ([], rest)
  | '\\' :: 'u' :: a :: b :: c :: d :: rest =>
    match (hexUnit? a b c d).bind unitChar?, rest with
    | some char, rest => (readStringTail? rest).map fun read ↦ (char :: read.1, read.2)
    | none, '\\' :: 'u' :: e :: f :: g :: h :: more =>
      match hexUnit? a b c d, hexUnit? e f g h with
      | some high, some low =>
        match pairChar? high low with
        | some char => (readStringTail? more).map fun read ↦ (char :: read.1, read.2)
        | none => none
      | _, _ => none
    | none, _ => none
  | '\\' :: c :: rest =>
    match escapedChar? c with
    | some char => (readStringTail? rest).map fun read ↦ (char :: read.1, read.2)
    | none => none
  | c :: rest =>
    if c = '\\' ∨ c.toNat < 0x20 then none
    else (readStringTail? rest).map fun read ↦ (c :: read.1, read.2)
  | [] => none

theorem length_lt_of_readStringTail? {input rest : List Char} {text : List Char}
    (h : readStringTail? input = some (text, rest)) : rest.length < input.length := by
  fun_induction readStringTail? input generalizing text rest <;>
    simp_all only [Option.map_eq_some_iff, Option.some.injEq, Prod.mk.injEq, Prod.exists,
      reduceCtorEq, List.length_cons] <;> grind

/-- The digits in front, and what follows them. -/
def readDigits (input : List Char) : List Char × List Char :=
  (input.takeWhile Char.isDigit, input.dropWhile Char.isDigit)

theorem length_readDigits_le (input : List Char) : (readDigits input).2.length ≤ input.length :=
  (List.dropWhile_sublist _).length_le

/-- The decimals behind a point, if a point comes next. -/
def readDecimals? (input : List Char) : Option (Option (List Char) × List Char) :=
  match input with
  | '.' :: more =>
    match readDigits more with
    | ([], _) => none
    | (digits, rest) => some (some digits, rest)
  | _ => some (none, input)

theorem length_le_of_readDecimals? {input rest : List Char} {decimals : Option (List Char)}
    (h : readDecimals? input = some (decimals, rest)) : rest.length ≤ input.length := by
  unfold readDecimals? at h
  split at h
  · next more =>
    have := length_readDigits_le more
    split at h
    · simp_all
    · simp_all
      omega
  · simp_all

/-- The sign in front of a power of ten. -/
def readPowerSign (input : List Char) : Bool × List Char :=
  match input with
  | '-' :: rest => (true, rest)
  | '+' :: rest => (false, rest)
  | _ => (false, input)

theorem length_readPowerSign_le (input : List Char) :
    (readPowerSign input).2.length ≤ input.length := by
  unfold readPowerSign
  split <;> simp

/-- The number that digits write. -/
def digitsNat (digits : List Char) : Nat :=
  digits.foldl (fun n c ↦ 10 * n + (c.toNat - '0'.toNat)) 0

/-- The power of ten behind its letter, if the letter comes next. -/
def readPower? (input : List Char) : Option (Option Int × List Char) :=
  match input with
  | [] => some (none, [])
  | c :: more =>
    if c = 'e' ∨ c = 'E' then
      let (negative, behind) := readPowerSign more
      match readDigits behind with
      | ([], _) => none
      | (digits, rest) =>
        let power : Int := digitsNat digits
        some (some (if negative then -power else power), rest)
    else some (none, c :: more)

theorem length_le_of_readPower? {input rest : List Char} {power : Option Int}
    (h : readPower? input = some (power, rest)) : rest.length ≤ input.length := by
  unfold readPower? at h
  split at h
  · simp_all
  · next c more =>
    split at h
    · have h1 := length_readPowerSign_le more
      have h2 := length_readDigits_le (readPowerSign more).2
      simp only at h
      split at h
      · simp_all
      · simp_all
        omega
    · simp_all

/-- A number without its sign, and what follows it. A zero in front stands alone. -/
def readMagnitude? (negative : Bool) (input : List Char) : Option (Number × List Char) :=
  match readDigits input with
  | ([], _) => none
  | ('0' :: _ :: _, _) => none
  | (whole, behind) =>
    match readDecimals? behind with
    | none => none
    | some (decimals, behind) =>
      match readPower? behind with
      | none => none
      | some (power, rest) =>
        (Numeral.number? ⟨negative, whole, decimals, power⟩).map fun n ↦ (n, rest)

theorem length_lt_of_readMagnitude? {negative : Bool} {input rest : List Char} {n : Number}
    (h : readMagnitude? negative input = some (n, rest)) : rest.length < input.length := by
  have hsum := congrArg List.length
    (List.takeWhile_append_dropWhile (p := Char.isDigit) (l := input))
  rw [List.length_append] at hsum
  rw [readMagnitude?] at h
  split at h
  · simp at h
  · simp at h
  · next whole behind hne _ hread =>
    have hpos : 0 < whole.length := List.length_pos_iff.2 hne
    simp only [readDigits, Prod.mk.injEq] at hread
    obtain ⟨rfl, rfl⟩ := hread
    split at h
    · simp at h
    · next decimals behind' h1 =>
      have := length_le_of_readDecimals? h1
      split at h
      · simp at h
      · next power rest' h2 =>
        have := length_le_of_readPower? h2
        simp only [Option.map_eq_some_iff, Prod.mk.injEq] at h
        obtain ⟨_, _, _, rfl⟩ := h
        omega

/-- A number, and what follows it. -/
def readNumber? (input : List Char) : Option (Number × List Char) :=
  match input with
  | '-' :: rest => readMagnitude? true rest
  | _ => readMagnitude? false input

theorem length_lt_of_readNumber? {input rest : List Char} {n : Number}
    (h : readNumber? input = some (n, rest)) : rest.length < input.length := by
  unfold readNumber? at h
  split at h
  · have := length_lt_of_readMagnitude? h
    simp only [List.length_cons]
    omega
  · exact length_lt_of_readMagnitude? h

/-! ### Values -/

mutual

/-- A value, and what follows it. -/
def readValue? (input : List Char) : Option (Json × Shorter input) :=
  match h : skipSpace input with
  | 'n' :: 'u' :: 'l' :: 'l' :: rest =>
    some (.null, ⟨rest, by have := length_skipSpace_le input; simp_all; omega⟩)
  | 't' :: 'r' :: 'u' :: 'e' :: rest =>
    some (.bool true, ⟨rest, by have := length_skipSpace_le input; simp_all; omega⟩)
  | 'f' :: 'a' :: 'l' :: 's' :: 'e' :: rest =>
    some (.bool false, ⟨rest, by have := length_skipSpace_le input; simp_all; omega⟩)
  | '"' :: more =>
    match hs : readStringTail? more with
    | some (text, rest) =>
      some (.string (String.ofList text), ⟨rest, by
        have := length_skipSpace_le input
        have := length_lt_of_readStringTail? hs
        simp_all
        omega⟩)
    | none => none
  | '[' :: more =>
    match hs : skipSpace more with
    | ']' :: rest => some (.array [], ⟨rest, by
        have := length_skipSpace_le input
        have := length_skipSpace_le more
        simp_all
        omega⟩)
    | _ =>
      match readItems? more with
      | some (items, ⟨rest, hrest⟩) => some (.array items, ⟨rest, by
          have := length_skipSpace_le input
          simp_all
          omega⟩)
      | none => none
  | '\x7b' :: more =>
    match hs : skipSpace more with
    | '\x7d' :: rest => some (.object [], ⟨rest, by
        have := length_skipSpace_le input
        have := length_skipSpace_le more
        simp_all
        omega⟩)
    | _ =>
      match readFields? more with
      | some (fields, ⟨rest, hrest⟩) => some (ofFields fields.reverse, ⟨rest, by
          have := length_skipSpace_le input
          simp_all
          omega⟩)
      | none => none
  | other =>
    match hs : readNumber? other with
    | some (n, rest) => some (.number n, ⟨rest, by
        have := length_skipSpace_le input
        have := length_lt_of_readNumber? hs
        simp_all
        omega⟩)
    | none => none
termination_by 2 * input.length
decreasing_by
  all_goals
    have := length_skipSpace_le input
    simp_all
    omega

/-- The items of an array up to its end, and what follows it. -/
def readItems? (input : List Char) : Option (List Json × Shorter input) :=
  match readValue? input with
  | none => none
  | some (item, ⟨behind, hbehind⟩) =>
    match h : skipSpace behind with
    | ']' :: rest => some ([item], ⟨rest, by
        have := length_skipSpace_le behind
        simp_all
        omega⟩)
    | ',' :: more =>
      match readItems? more with
      | some (items, ⟨rest, hrest⟩) => some (item :: items, ⟨rest, by
          have := length_skipSpace_le behind
          simp_all
          omega⟩)
      | none => none
    | _ => none
termination_by 2 * input.length + 1
decreasing_by
  · omega
  · have := length_skipSpace_le behind
    simp_all
    omega

/-- The fields of an object up to its end, and what follows it. -/
def readFields? (input : List Char) : Option (List (String × Json) × Shorter input) :=
  match hq : skipSpace input with
  | '"' :: quoted =>
    match hs : readStringTail? quoted with
    | none => none
    | some (name, behindName) =>
      match hc : skipSpace behindName with
      | ':' :: valueText =>
        match readValue? valueText with
        | none => none
        | some (value, ⟨behind, hbehind⟩) =>
          match h : skipSpace behind with
          | '\x7d' :: rest => some ([(String.ofList name, value)], ⟨rest, by
              have := length_skipSpace_le input
              have := length_skipSpace_le behindName
              have := length_skipSpace_le behind
              have := length_lt_of_readStringTail? hs
              simp_all
              omega⟩)
          | ',' :: more =>
            match readFields? more with
            | some (fields, ⟨rest, hrest⟩) => some ((String.ofList name, value) :: fields, ⟨rest, by
                have := length_skipSpace_le input
                have := length_skipSpace_le behindName
                have := length_skipSpace_le behind
                have := length_lt_of_readStringTail? hs
                simp_all
                omega⟩)
            | none => none
          | _ => none
      | _ => none
  | _ => none
termination_by 2 * input.length + 1
decreasing_by
  all_goals
    have := length_skipSpace_le input
    have := length_skipSpace_le behindName
    have := length_lt_of_readStringTail? hs
    try have := length_skipSpace_le behind
    simp_all
    omega

end

/-- The value that a text writes. -/
def read? (text : String) : Option Json :=
  match readValue? text.toList with
  | some (value, ⟨rest, _⟩) => if (skipSpace rest).isEmpty then some value else none
  | none => none

end RecordSearch.Json
