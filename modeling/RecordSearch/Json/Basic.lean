import RecordSearch.Dict
import RecordSearch.Binary64.Decimal
/-!
# JSON values

Requests, documents, answers and attributes are JSON values. A number is an integer or a float,
and the two are never equal; the fields of an object stand in increasing order of their names.

`Json.same` is the equality that the search itself uses: it differs from `=` only in that both
floating zeros count as one. `Json.object?` and `Json.ofObject` pass between an object value and
the dictionary of its fields (`object?_ofObject`).
-/

namespace RecordSearch

/-- A JSON number. -/
inductive Number where
  /-- A number written without point and exponent. -/
  | int (value : Int)
  /-- Any other number. -/
  | float (value : Binary64)
deriving DecidableEq, Inhabited

namespace Number

/-- The number as a natural number; floats are none. -/
def nat? : Number → Option Nat
  | .int (.ofNat n) => some n
  | _ => none

/-- The number as a float. -/
def toBinary64 : Number → Binary64
  | .int n => .ofInt n
  | .float x => x

/-- Equality of values; an integer is no float. -/
def same : Number → Number → Bool
  | .int a, .int b => a == b
  | .float a, .float b => a.same b
  | _, _ => false

/-- The decimal text of a number. -/
def text : Number → String
  | .int (.ofNat n) => String.ofList (Nat.toDigits 10 n)
  | .int (.negSucc n) => String.ofList ('-' :: Nat.toDigits 10 (n + 1))
  | .float x => String.ofList x.text

@[simp]
theorem same_self (n : Number) : n.same n = true := by
  cases n <;> simp [same]

end Number

/-- A JSON value. -/
inductive Json where
  | null
  | bool (value : Bool)
  | number (value : Number)
  | string (value : String)
  | array (items : List Json)
  | object (fields : List (String × Json))
deriving Inhabited

/-- The fields of an object, or any named values: attributes, parameters, settings. -/
abbrev Object := Dict Json

namespace Json

/-! ### Equality -/

mutual

/-- Are two values the same term? -/
def identical : Json → Json → Bool
  | .null, .null => true
  | .bool a, .bool b => a == b
  | .number a, .number b => a == b
  | .string a, .string b => a == b
  | .array a, .array b => identicalItems a b
  | .object a, .object b => identicalFields a b
  | _, _ => false

/-- Are two lists of values the same term? -/
def identicalItems : List Json → List Json → Bool
  | [], [] => true
  | x :: xs, y :: ys => identical x y && identicalItems xs ys
  | _, _ => false

/-- Are two lists of fields the same term? -/
def identicalFields : List (String × Json) → List (String × Json) → Bool
  | [], [] => true
  | (k, x) :: xs, (l, y) :: ys => k == l && identical x y && identicalFields xs ys
  | _, _ => false

end

mutual

theorem identical_iff : (a b : Json) → (identical a b = true ↔ a = b)
  | .null, b => by cases b <;> simp [identical]
  | .bool _, b => by cases b <;> simp [identical]
  | .number _, b => by cases b <;> simp [identical]
  | .string _, b => by cases b <;> simp [identical]
  | .array items, b => by cases b <;> simp [identical, identicalItems_iff items]
  | .object fields, b => by cases b <;> simp [identical, identicalFields_iff fields]

theorem identicalItems_iff : (a b : List Json) → (identicalItems a b = true ↔ a = b)
  | [], b => by cases b <;> simp [identicalItems]
  | x :: xs, b => by cases b <;> simp [identicalItems, identical_iff x, identicalItems_iff xs]

theorem identicalFields_iff :
    (a b : List (String × Json)) → (identicalFields a b = true ↔ a = b)
  | [], b => by cases b <;> simp [identicalFields]
  | (k, x) :: xs, b => by
    cases b <;> simp [identicalFields, identical_iff x, identicalFields_iff xs, Prod.ext_iff]

end

instance : DecidableEq Json := fun a b ↦ decidable_of_iff _ (identical_iff a b)

mutual

/-- Equality of values: numbers are compared by value, all else part by part. -/
def same : Json → Json → Bool
  | .null, .null => true
  | .bool a, .bool b => a == b
  | .number a, .number b => a.same b
  | .string a, .string b => a == b
  | .array a, .array b => sameItems a b
  | .object a, .object b => sameFields a b
  | _, _ => false

/-- Equality of lists of values. -/
def sameItems : List Json → List Json → Bool
  | [], [] => true
  | x :: xs, y :: ys => same x y && sameItems xs ys
  | _, _ => false

/-- Equality of lists of fields. -/
def sameFields : List (String × Json) → List (String × Json) → Bool
  | [], [] => true
  | (k, x) :: xs, (l, y) :: ys => k == l && same x y && sameFields xs ys
  | _, _ => false

end

mutual

@[simp]
theorem same_self : (v : Json) → v.same v = true
  | .null => rfl
  | .bool b => by simp [same]
  | .number n => by simp [same]
  | .string s => by simp [same]
  | .array items => by simpa [same] using sameItems_self items
  | .object fields => by simpa [same] using sameFields_self fields

theorem sameItems_self : (items : List Json) → sameItems items items = true
  | [] => rfl
  | x :: xs => by simp [sameItems, same_self x, sameItems_self xs]

theorem sameFields_self : (fields : List (String × Json)) → sameFields fields fields = true
  | [] => rfl
  | (k, x) :: xs => by simp [sameFields, same_self x, sameFields_self xs]

end

/-! ### Building -/

/-- The object with the given fields. -/
def ofObject (fields : Object) : Json :=
  .object fields.entries

/-- The object with one field. -/
def single (name : String) (value : Json) : Json :=
  .object [(name, value)]

/-- The object with the listed fields; of equal names the first one counts. -/
def ofFields (fields : List (String × Json)) : Json :=
  ofObject (Dict.ofList fields)

/-- The object without fields. -/
def emptyObject : Json :=
  .object []

/-- A natural number. -/
def ofNat (n : Nat) : Json :=
  .number (.int n)

/-- A float. -/
def ofBinary64 (x : Binary64) : Json :=
  .number (.float x)

/-- A list of texts. -/
def ofStrings (texts : List String) : Json :=
  .array (texts.map .string)

/-! ### Reading -/

/-- The fields of an object. -/
def object? : Json → Option Object
  | .object fields => some (Dict.ofList fields)
  | _ => none

/-- The fields of an object, and no fields for any other value. -/
def fieldsOrNone (value : Json) : Object :=
  value.object?.getD ∅

/-- The items of an array. -/
def array? : Json → Option (List Json)
  | .array items => some items
  | _ => none

/-- The text of a string. -/
def string? : Json → Option String
  | .string text => some text
  | _ => none

/-- The value of a natural number. -/
def nat? : Json → Option Nat
  | .number n => n.nat?
  | _ => none

/-- The value of a number, as a float. -/
def binary64? : Json → Option Binary64
  | .number n => some n.toBinary64
  | _ => none

/-- The truth value of a Boolean. -/
def bool? : Json → Option Bool
  | .bool b => some b
  | _ => none

/-- A field of an object; other values have none. -/
def field? : Json → String → Option Json
  | .object fields, name => Fields.get? fields name
  | _, _ => none

/-- The text of a scalar: of a string, a number or a truth value. Record keys and loosely equal
values are compared by it. -/
def scalarText? : Json → Option String
  | .string text => some text
  | .number n => some n.text
  | .bool b => some (if b then "true" else "false")
  | _ => none

/-- Values that stand for nothing: null, false, zero, and texts, lists and objects without
contents. -/
def isVoid : Json → Bool
  | .null => true
  | .bool b => !b
  | .number n => n.toBinary64.isZero
  | .string text => text.isEmpty
  | .array items => items.isEmpty
  | .object fields => fields.isEmpty

@[simp]
theorem object?_ofObject (fields : Object) : (ofObject fields).object? = some fields := by
  simp [ofObject, object?]

@[simp]
theorem fieldsOrNone_ofObject (fields : Object) : (ofObject fields).fieldsOrNone = fields := by
  simp [fieldsOrNone]

@[simp]
theorem field?_ofObject (fields : Object) (name : String) :
    (ofObject fields).field? name = fields.get? name :=
  rfl

/-- Looking a field up does not depend on how the object was come by. -/
theorem field?_eq_bind_object? (value : Json) (name : String) :
    value.field? name = value.object?.bind (·.get? name) := by
  cases value <;> simp [field?, object?, Dict.get?_ofList]

theorem field?_eq_get?_fieldsOrNone (value : Json) (name : String) :
    value.field? name = value.fieldsOrNone.get? name := by
  rw [field?_eq_bind_object?, fieldsOrNone]
  cases value.object? <;> rfl

@[simp]
theorem field?_single_self (name : String) (value : Json) :
    (single name value).field? name = some value := by
  simp [single, field?, Fields.get?]

/-- Only natural numbers have the value of one. -/
theorem nat?_eq_some_iff {value : Json} {n : Nat} : value.nat? = some n ↔ value = ofNat n := by
  constructor
  · intro h
    cases value with
    | number number =>
      rcases number with (m | m) | x
      · exact congrArg ofNat (Option.some.inj h)
      · exact absurd h nofun
      · exact absurd h nofun
    | _ => exact absurd h nofun
  · rintro rfl
    rfl

/-- A field is smaller than its object. -/
theorem sizeOf_lt_of_field?_eq_some {value part : Json} {name : String}
    (h : value.field? name = some part) : sizeOf part < sizeOf value := by
  cases value with
  | object fields =>
    have : sizeOf part < sizeOf fields := Fields.sizeOf_lt_of_get?_eq_some h
    simp only [Json.object.sizeOf_spec]
    omega
  | _ => simp [field?] at h

end Json

end RecordSearch
