import RecordSearch.Condition.Clause
/-!
# Condition sets

Conditions are clauses and Boolean groups of conditions, kept in three buckets in the order in
which they were added. `Node.clauses` lists the clauses that a condition is made of, and
`Conditions.render` the rendered conditions of one bucket.
-/

namespace RecordSearch

/-- A clause, or a Boolean group of conditions. -/
inductive Node where
  /-- A single clause. -/
  | leaf (clause : Clause)
  /-- Conditions in the role of one bucket. -/
  | group (occur : Bucket) (children : List Node)
deriving Inhabited

namespace Node

mutual

/-- A condition in a query. -/
def render : Node → Json
  | leaf clause => clause.render
  | group occur children => .single "bool" (.single occur.name (.array (renderAll children)))

/-- Conditions in a query, in order. -/
def renderAll : List Node → List Json
  | [] => []
  | node :: rest => render node :: renderAll rest

end

mutual

/-- The clauses of a condition, in order. -/
def clauses : Node → List Clause
  | leaf clause => [clause]
  | group _ children => clausesOfAll children

/-- The clauses of several conditions, in order. -/
def clausesOfAll : List Node → List Clause
  | [] => []
  | node :: rest => clauses node ++ clausesOfAll rest

end

/-- Is the condition exactly this clause? -/
def isLeaf (clause : Clause) : Node → Bool
  | leaf c => c = clause
  | group _ _ => false

theorem renderAll_eq_map (nodes : List Node) : renderAll nodes = nodes.map render := by
  induction nodes with
  | nil => rfl
  | cons node rest ih => rw [renderAll, List.map_cons, ih]

theorem clausesOfAll_eq_flatMap (nodes : List Node) :
    clausesOfAll nodes = nodes.flatMap clauses := by
  induction nodes with
  | nil => rfl
  | cons node rest ih => rw [clausesOfAll, List.flatMap_cons, ih]

theorem isLeaf_iff {clause : Clause} {node : Node} :
    node.isLeaf clause = true ↔ node = leaf clause := by
  cases node <;> simp [isLeaf]

end Node

/-- Conditions by bucket, each bucket in the order of addition. -/
structure Conditions where
  /-- These have to hold. -/
  must : List Node := []
  /-- None of these may hold. -/
  mustNot : List Node := []
  /-- One of these has to hold, if there are any. -/
  should : List Node := []
deriving Inhabited

namespace Conditions

/-- The conditions of one bucket. -/
def bucket (conditions : Conditions) : Bucket → List Node
  | .must => conditions.must
  | .mustNot => conditions.mustNot
  | .should => conditions.should

/-- Replace the conditions of one bucket. -/
def setBucket (conditions : Conditions) (bucket : Bucket) (nodes : List Node) : Conditions :=
  match bucket with
  | .must => { conditions with must := nodes }
  | .mustNot => { conditions with mustNot := nodes }
  | .should => { conditions with should := nodes }

/-- Add a condition to a bucket. -/
def push (conditions : Conditions) (bucket : Bucket) (node : Node) : Conditions :=
  conditions.setBucket bucket (conditions.bucket bucket ++ [node])

/-- Are there no conditions? -/
def isEmpty (conditions : Conditions) : Bool :=
  conditions.must.isEmpty && conditions.mustNot.isEmpty && conditions.should.isEmpty

/-- The rendered conditions of one bucket. -/
def render (conditions : Conditions) (bucket : Bucket) : List Json :=
  Node.renderAll (conditions.bucket bucket)

/-- All clauses, bucket by bucket. -/
def clauses (conditions : Conditions) : List Clause :=
  Bucket.all.flatMap fun bucket ↦ Node.clausesOfAll (conditions.bucket bucket)

theorem render_eq_nil_iff {conditions : Conditions} {bucket : Bucket} :
    conditions.render bucket = [] ↔ conditions.bucket bucket = [] := by
  rw [render, Node.renderAll_eq_map, List.map_eq_nil_iff]

/-- An addition lengthens one bucket at its end. -/
theorem bucket_push (conditions : Conditions) (a b : Bucket) (node : Node) :
    (conditions.push a node).bucket b =
      conditions.bucket b ++ if a = b then [node] else [] := by
  cases a <;> cases b <;> simp [push, setBucket, bucket]

end Conditions

end RecordSearch
