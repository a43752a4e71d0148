import RecordSearch.Condition.Node
import RecordSearch.Document
/-!
# Which documents satisfy a condition

`Conditions.hold` says for a document whether it satisfies a condition set: all of its `must`, none
of its `mustNot`, and one of its `should` unless there are none. The conditions on places and
expressions need an index of their own to be decided; here they hold of every document.
-/

namespace RecordSearch

/-- Does a clause hold of a document? -/
def Clause.holds (clause : Clause) (source : Json) : Bool :=
  let value := documentField source clause.field
  match clause with
  | term _ wanted => looselyEqual value wanted
  | terms _ wanted => wanted.any fun one ↦ looselyEqual value one
  | range _ bounds => isWithin value bounds.gt bounds.gte bounds.lt bounds.lte
  | present _ => isPresent value
  | contains _ wanted => containsText value wanted
  | _ => true

namespace Node

mutual

/-- Does a condition hold of a document? -/
def holds (source : Json) : Node → Bool
  | leaf clause => clause.holds source
  | group .must children => allHold source children
  | group .mustNot children => !someHolds source children
  | group .should children => children.isEmpty || someHolds source children

/-- Do all conditions hold of a document? -/
def allHold (source : Json) : List Node → Bool
  | [] => true
  | node :: rest => holds source node && allHold source rest

/-- Does one of the conditions hold of a document? -/
def someHolds (source : Json) : List Node → Bool
  | [] => false
  | node :: rest => holds source node || someHolds source rest

end

theorem allHold_eq_all (source : Json) (nodes : List Node) :
    allHold source nodes = nodes.all (holds source) := by
  induction nodes with
  | nil => rfl
  | cons node rest ih => rw [allHold, List.all_cons, ih]

theorem someHolds_eq_any (source : Json) (nodes : List Node) :
    someHolds source nodes = nodes.any (holds source) := by
  induction nodes with
  | nil => rfl
  | cons node rest ih => rw [someHolds, List.any_cons, ih]

end Node

/-- Does a condition set hold of a document? -/
def Conditions.hold (conditions : Conditions) (source : Json) : Bool :=
  conditions.must.all (Node.holds source) && !conditions.mustNot.any (Node.holds source) &&
    (conditions.should.isEmpty || conditions.should.any (Node.holds source))

end RecordSearch
