import RecordSearch.Json.Path
import RecordSearch.Text.Case
/-!
# What a document says of a field

The tests that conditions make on the fields of a document. A field name is a path first and a
plain name second. Values are **loosely equal** when they are the same value or scalars with the
same text, because keys often arrive as texts.
-/

namespace RecordSearch

/-- The value of a field of a document. -/
def documentField (source : Json) (field : String) : Option Json :=
  match source.at? (fieldPath field) with
  | some value => some value
  | none => source.field? field

/-- Are two values scalars with the same text? -/
def sameScalarText (a b : Json) : Bool :=
  match a.scalarText?, b.scalarText? with
  | some x, some y => x == y
  | _, _ => false

/-- Is the value there and loosely equal to another? -/
def looselyEqual (actual : Option Json) (wanted : Json) : Bool :=
  match actual with
  | some value => value.same wanted || sameScalarText value wanted
  | none => false

/-- Does the value contain the text, letter case aside? For other values than texts: is it loosely
equal? -/
def containsText (actual : Option Json) (wanted : Json) : Bool :=
  match actual, wanted with
  | some (.string text), .string part => Text.containsLowered text part
  | _, _ => looselyEqual actual wanted

/-- Is there a value that is not null? -/
def isPresent (actual : Option Json) : Bool :=
  match actual with
  | none => false
  | some .null => false
  | some _ => true

/-- The order of two numbers, or of two texts. -/
def orderOf? (a b : Json) : Option Ordering :=
  match a.binary64?, b.binary64? with
  | some x, some y => some (x.order y)
  | _, _ =>
    match a.string?, b.string? with
    | some x, some y => some (compare x y)
    | _, _ => none

/-- Does a value compare to a bound as wanted? An absent bound does not restrict; values without
order do not compare. -/
def meetsBound (actual : Json) (bound : Option Json) (wanted : Ordering → Bool) : Bool :=
  match bound with
  | none => true
  | some value => (orderOf? actual value).any wanted

/-- Is the value there and within the bounds? -/
def isWithin (actual : Option Json) (gt gte lt lte : Option Json) : Bool :=
  match actual with
  | none => false
  | some value =>
    meetsBound value gt Ordering.isGT && meetsBound value gte Ordering.isGE &&
      meetsBound value lt Ordering.isLT && meetsBound value lte Ordering.isLE

/-- Scalars with the same text are loosely equal. -/
theorem looselyEqual_of_scalarText_eq {value wanted : Json} {text : String}
    (hv : value.scalarText? = some text) (hw : wanted.scalarText? = some text) :
    looselyEqual (some value) wanted = true := by
  simp [looselyEqual, sameScalarText, hv, hw]

end RecordSearch
