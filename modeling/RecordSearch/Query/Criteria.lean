import RecordSearch.Condition.Node
/-!
# Criteria and rules

`Criteria` is all that a search says about its result: conditions, order, window, selection,
grouping, the indices besides the base index, and the free text. A `Rule` turns the free text into
a piece of a query; rules read the criteria and nothing else, so they are plain functions of them.
-/

namespace RecordSearch

/-- What a search says about its result. -/
structure Criteria where
  /-- The conditions on documents. -/
  conditions : Conditions := {}
  /-- The sort entries, most significant first. -/
  sort : List Json := []
  /-- The fields to return; none means all. -/
  select : List String := []
  /-- The field by which equal documents are folded into one. -/
  collapse : Option String := none
  /-- The least score of a document. -/
  minScore : Option Binary64 := none
  /-- How many documents are passed over. -/
  offset : Option Nat := none
  /-- How many documents are returned at most. -/
  limit : Option Nat := none
  /-- The aggregations under their names. -/
  groups : Object := ∅
  /-- The indices searched besides the base index. -/
  unions : List String := []
  /-- The text to search for. -/
  freeText : Option String := none
  /-- The name of the alias searched in place of the base index. -/
  aliasName : Option String := none

/-- What is asked for besides the result. -/
structure Options where
  /-- Explain the scores. -/
  explain : Bool := false
  /-- Report the timing. -/
  profile : Bool := false
  /-- Mark what was found, where a rule knows how. -/
  highlight : Bool := true
deriving DecidableEq, Inhabited

namespace Options

/-- An ordinary search that explains its scores. -/
def explaining : Options := { explain := true }

/-- An ordinary search that reports its timing. -/
def profiling : Options := { profile := true }

/-- A search of which only the number of results counts. -/
def counting : Options := { highlight := false }

end Options

/-- How the free text becomes a piece of a query. -/
inductive Rule where
  /-- A function; it always applies and never highlights. -/
  | callable (fragment : Criteria → Object)
  /-- A rule with a condition of its own and perhaps a highlight section. -/
  | conditional (applies : Criteria → Bool) (fragment : Criteria → Object)
      (highlight : Criteria → Option Json)

namespace Rule

/-- The rule for texts in the backend's own query language; it applies to texts that are not
empty. -/
def queryString : Rule :=
  .conditional (fun criteria ↦ criteria.freeText.any fun text ↦ !text.isEmpty)
    (fun criteria ↦ .single "must" <| .single "query_string" <|
      .single "query" (.string (criteria.freeText.getD "")))
    fun _ ↦ none

end Rule

end RecordSearch
