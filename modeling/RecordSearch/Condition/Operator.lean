import RecordSearch.Error
/-!
# Buckets, operators and directions

The words of the query language: the three buckets of a condition set, the comparison operators
with the bucket each one's clause belongs to, and the directions of sorting.
-/

namespace RecordSearch

/-- The Boolean role of a condition. -/
inductive Bucket where
  /-- The condition has to hold. -/
  | must
  /-- The condition must not hold. -/
  | mustNot
  /-- One of these conditions has to hold. -/
  | should
deriving DecidableEq, Inhabited

namespace Bucket

/-- All buckets, in the order of compilation. -/
def all : List Bucket :=
  [must, mustNot, should]

/-- The name of a bucket in a query. -/
def name : Bucket → String
  | must => "must"
  | mustNot => "must_not"
  | should => "should"

theorem mem_all (bucket : Bucket) : bucket ∈ all := by
  cases bucket <;> simp [all]

theorem name_injective {a b : Bucket} (h : a.name = b.name) : a = b := by
  cases a <;> cases b <;> simp_all [name]

end Bucket

/-- A comparison. -/
inductive Operator where
  | eq
  | gt
  | lt
  | gte
  | lte
  | notEq
deriving DecidableEq, Inhabited

namespace Operator

/-- The bucket in which the clause of a comparison belongs. -/
def bucket : Operator → Bucket
  | notEq => .mustNot
  | _ => .must

/-- The operator that a text writes. -/
def read (text : String) : Except Error Operator :=
  match text with
  | "=" => .ok eq
  | ">" => .ok gt
  | "<" => .ok lt
  | ">=" => .ok gte
  | "<=" => .ok lte
  | "!=" => .ok notEq
  | "<>" => .ok notEq
  | other => .error (.configuration (.unknownOperator other))

end Operator

/-- A direction of sorting. -/
inductive Direction where
  | ascending
  | descending
deriving DecidableEq, Inhabited

namespace Direction

/-- The direction that a text asks for: ascending for `asc` in any letters, else descending. -/
def read (text : String) : Direction :=
  if text.toList.map Char.toLower = "asc".toList then ascending else descending

/-- The name of a direction in a query. -/
def name : Direction → String
  | ascending => "asc"
  | descending => "desc"

end Direction

end RecordSearch
