import RecordSearch.Query.Basic
/-!
# The vocabulary of refinements

The refinements by name. Most are a clause in a bucket: comparisons, membership, ranges, presence,
text, and places on the map, each with its negation in the bucket of conditions that must not
hold.
-/

namespace RecordSearch.Step

/-! ### Conditions -/

/-- The clause of a comparison. -/
def comparison (field : String) (op : Operator) (value : Json) : Clause :=
  match op with
  | .eq => .term field value
  | .notEq => .term field value
  | .gt => .range field { gt := some value }
  | .lt => .range field { lt := some value }
  | .gte => .range field { gte := some value }
  | .lte => .range field { lte := some value }

/-- The field compares to the value. -/
def whereCmp (field : String) (op : Operator) (value : Json) : Step :=
  .condition op.bucket (comparison field op value)

/-- The field has the value. -/
def whereEq (field : String) (value : Json) : Step :=
  whereCmp field .eq value

/-- The field compares to the value, the operator given as text. -/
def whereText (field op : String) (value : Json) : Except Error Step :=
  (Operator.read op).map fun op ↦ whereCmp field op value

/-- The field has one of the values. -/
def whereIn (field : String) (values : List Json) : Step :=
  .condition .must (.terms field values)

/-- The field has none of the values. -/
def whereNotIn (field : String) (values : List Json) : Step :=
  .condition .mustNot (.terms field values)

/-- The field lies in the closed interval. -/
def whereBetween (field : String) (low high : Json) : Step :=
  .condition .must (.range field (.between low high))

/-- The field lies outside the closed interval. -/
def whereNotBetween (field : String) (low high : Json) : Step :=
  .condition .mustNot (.range field (.between low high))

/-- The field lies on the day. -/
def whereDate (field day : String) : Step :=
  whereBetween field (.string day) (.string (day ++ "||/d"))

/-- The field has a value. -/
def wherePresent (field : String) : Step :=
  .condition .must (.present field)

/-- The field has no value. -/
def whereAbsent (field : String) : Step :=
  .condition .mustNot (.present field)

/-- The field contains the text. -/
def whereContains (field : String) (value : Json) : Step :=
  .condition .must (.contains field value)

/-- The field does not contain the text. -/
def whereNotContains (field : String) (value : Json) : Step :=
  .condition .mustNot (.contains field value)

/-- The field matches the regular expression, with the extensions that the flags name. -/
def whereRegexpFlags (field value flags : String) : Step :=
  .condition .must (.regexp field value flags)

/-- The field matches the regular expression, with all extensions. -/
def whereRegexp (field value : String) : Step :=
  whereRegexpFlags field value "ALL"

/-- The field is no further from the point than the distance. -/
def whereGeoDistance (field : String) (point distance : Json) : Step :=
  .condition .must (.geoDistance field point distance)

/-- The field is in the box. -/
def whereGeoBox (field : String) (box : Json) : Step :=
  .condition .must (.geoBox field box)

/-- The field is in the polygon. -/
def whereGeoPolygon (field : String) (points : List Json) : Step :=
  .condition .must (.geoPolygon field points)

/-- The field is a shape in the relation to the shape. -/
def whereGeoShapeRelation (field : String) (shape : Json) (relation : String) : Step :=
  .condition .must (.geoShape field shape relation)

/-- The field is a shape that meets the shape. -/
def whereGeoShape (field : String) (shape : Json) : Step :=
  whereGeoShapeRelation field shape "INTERSECTS"

/-- The field has the value, as one of the alternatives. -/
def orWhere (field : String) (value : Json) : Step :=
  .condition .should (.term field value)

/-! ### Order and grouping -/

/-- Sort by a field. -/
def orderByField (field : String) (direction : Direction) : Step :=
  .orderBy (.single field (.string direction.name))

/-- Group by the distinct values of a specification and count each group. -/
def groupByTerms (spec : Json) : Step :=
  .groupBy spec "terms" "count"

end RecordSearch.Step
