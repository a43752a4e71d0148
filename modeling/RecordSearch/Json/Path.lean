import RecordSearch.Json.Basic
import RecordSearch.Text.Split
/-!
# Paths into JSON values

A path is a list of steps: the name of a field, or the place of an item in decimal digits.
`fieldPath` reads the dotted name of a document field; a name without dots, slashes and tildes
is a path of one step (`fieldPath_of_plain`).
-/

namespace RecordSearch

namespace Json

/-- The number that decimal digits write. -/
def digitsValue (digits : List Char) : Nat :=
  digits.foldl (fun n c ↦ 10 * n + (c.toNat - '0'.toNat)) 0

/-- The place that a step names: decimal digits without a zero in front. -/
def place? (step : String) : Option Nat :=
  match step.toList with
  | [] => none
  | ['0'] => some 0
  | digits =>
    if digits.all Char.isDigit ∧ digits.head? ≠ some '0' then some (digitsValue digits) else none

/-- One step into a value. -/
def step? : Json → String → Option Json
  | .object fields, name => Fields.get? fields name
  | .array items, name => (place? name).bind fun i ↦ items[i]?
  | _, _ => none

/-- The value at the end of a path. -/
def at? (value : Json) : List String → Option Json
  | [] => some value
  | name :: rest => (value.step? name).bind fun part ↦ at? part rest

@[simp]
theorem at?_nil (value : Json) : value.at? [] = some value :=
  rfl

theorem at?_cons (value : Json) (name : String) (rest : List String) :
    value.at? (name :: rest) = (value.step? name).bind fun part ↦ part.at? rest :=
  rfl

/-- A field that is looked up is also reached by a step. -/
theorem step?_eq_of_field?_eq_some {value part : Json} {name : String}
    (h : value.field? name = some part) : value.step? name = some part := by
  cases value <;> simp_all [field?, step?]

end Json

/-! ### Written paths -/

/-- A step with its escapes resolved: a tilde and a one stand for a slash, a tilde and a zero for
a tilde. -/
def unescaped : List Char → List Char
  | '~' :: '1' :: rest => '/' :: unescaped rest
  | '~' :: '0' :: rest => '~' :: unescaped rest
  | c :: rest => c :: unescaped rest
  | [] => []

/-- The steps of a path written with slashes between them. -/
def slashPath (text : List Char) : List String :=
  (Text.segments '/' text).map fun step ↦ String.ofList (unescaped step)

/-- The steps of the name of a document field, in which dots separate too. -/
def fieldPath (field : String) : List String :=
  slashPath (field.toList.map fun c ↦ if c = '.' then '/' else c)

theorem unescaped_of_not_mem {text : List Char} (h : '~' ∉ text) : unescaped text = text := by
  induction text with
  | nil => rfl
  | cons c rest ih =>
    simp only [List.mem_cons, not_or] at h
    unfold unescaped
    split
    · simp_all
    · simp_all
    · simp_all
    · simp_all

/-- A field name without dots, slashes and tildes is a path of one step. -/
theorem fieldPath_of_plain {field : String} (hdot : '.' ∉ field.toList)
    (hslash : '/' ∉ field.toList) (htilde : '~' ∉ field.toList) : fieldPath field = [field] := by
  have hmap : (field.toList.map fun c ↦ if c = '.' then '/' else c) = field.toList := by
    refine (List.map_congr_left fun c hc ↦ ?_).trans (List.map_id _)
    have : c ≠ '.' := fun e ↦ hdot (e ▸ hc)
    simp [this]
  rw [fieldPath, hmap, slashPath, Text.segments_of_not_mem hslash]
  simp [unescaped_of_not_mem htilde]

end RecordSearch
