import RecordSearch.Json.Basic
import RecordSearch.Condition.Operator
/-!
# Clauses

A clause is one condition on one field of a document. `Clause.render` is its form in a query: an
object with the clause's kind as its only field.
-/

namespace RecordSearch

/-- The bounds of a range; an absent bound does not restrict. -/
structure Bounds where
  /-- The value is greater. -/
  gt : Option Json := none
  /-- The value is greater or equal. -/
  gte : Option Json := none
  /-- The value is less. -/
  lt : Option Json := none
  /-- The value is less or equal. -/
  lte : Option Json := none
deriving DecidableEq, Inhabited

namespace Bounds

/-- The bounds of a closed interval. -/
def between (low high : Json) : Bounds :=
  { gte := some low, lte := some high }

/-- The bounds that are there, under their names. -/
def render (bounds : Bounds) : Json :=
  .object <|
    [("gt", bounds.gt), ("gte", bounds.gte), ("lt", bounds.lt), ("lte", bounds.lte)].filterMap
      fun bound ↦ bound.2.map (bound.1, ·)

end Bounds

/-- One condition on one field. -/
inductive Clause where
  /-- The field has the value. -/
  | term (field : String) (value : Json)
  /-- The field has one of the values. -/
  | terms (field : String) (values : List Json)
  /-- The field lies within the bounds. -/
  | range (field : String) (bounds : Bounds)
  /-- The field has a value. -/
  | present (field : String)
  /-- The field contains the text, or has the value. -/
  | contains (field : String) (value : Json)
  /-- The field matches the regular expression. -/
  | regexp (field value flags : String)
  /-- The field is a place no further from the point than the distance. -/
  | geoDistance (field : String) (point distance : Json)
  /-- The field is a place in the box. -/
  | geoBox (field : String) (box : Json)
  /-- The field is a place in the polygon. -/
  | geoPolygon (field : String) (points : List Json)
  /-- The field is a shape in the given relation to the shape. -/
  | geoShape (field : String) (shape : Json) (relation : String)
deriving DecidableEq, Inhabited

namespace Clause

/-- The field that a clause is about. -/
def field : Clause → String
  | term field _ => field
  | terms field _ => field
  | range field _ => field
  | present field => field
  | contains field _ => field
  | regexp field _ _ => field
  | geoDistance field _ _ => field
  | geoBox field _ => field
  | geoPolygon field _ => field
  | geoShape field _ _ => field

/-- The name of the clause's kind in a query. -/
def kind : Clause → String
  | term _ _ => "term"
  | terms _ _ => "terms"
  | range _ _ => "range"
  | present _ => "exists"
  | contains _ _ => "match"
  | regexp _ _ _ => "regexp"
  | geoDistance _ _ _ => "geo_distance"
  | geoBox _ _ => "geo_bounding_box"
  | geoPolygon _ _ => "geo_polygon"
  | geoShape _ _ _ => "geo_shape"

/-- What stands under the kind. A field called `distance` takes the place of the distance. -/
def parameters : Clause → Json
  | term field value => .single field value
  | terms field values => .single field (.array values)
  | range field bounds => .single field bounds.render
  | present field => .single "field" (.string field)
  | contains field value => .single field value
  | regexp field value flags =>
    .single field (.ofFields [("value", .string value), ("flags", .string flags)])
  | geoDistance field point distance =>
    .ofObject ((Dict.single "distance" distance).insert field point)
  | geoBox field box => .single field box
  | geoPolygon field points => .single field (.single "points" (.array points))
  | geoShape field shape relation =>
    .single field (.ofFields [("shape", shape), ("relation", .string relation)])

/-- A clause in a query. -/
def render (clause : Clause) : Json :=
  .single clause.kind clause.parameters

end Clause

end RecordSearch
