import Mathlib.Data.List.Forall2
import RecordSearch.Proofs.Filter
/-!
# What a rendered condition tells

A rendered condition is told apart from every other one, but for one thing: a distance stands under
the name `distance` beside the point, which stands under the name of its field, so a field of that
name takes the distance's place. A condition without such hidden distances is its **visible** part.

Values are equal in two senses, as terms and as the search itself compares them (`Json.same`). Both
go by parts (`Json.IsPartwise`), and this is all that is needed: in either sense two conditions are
rendered alike exactly if their visible parts are alike (`rel_render_iff`). The case analysis runs
over the kinds of clauses once, and the induction over the groups. `render_eq_iff` states the result
for both senses.
-/

namespace RecordSearch

namespace Json

/-! ### Equalities that go by parts -/

section

variable {rel : Json → Json → Prop}

/-- Do fields have the same names in the same order, and alike values? -/
def FieldsAlike (rel : Json → Json → Prop) : List (String × Json) → List (String × Json) → Prop :=
  List.Forall₂ fun x y ↦ x.1 = y.1 ∧ rel x.2 y.2

/-- Under each name there are alike values, or none. -/
theorem FieldsAlike.get? {xs ys : List (String × Json)} (h : FieldsAlike rel xs ys)
    (name : String) : Option.Rel rel (Fields.get? xs name) (Fields.get? ys name) := by
  induction h with
  | nil => exact .none
  | @cons x y xs ys hxy hrest ih =>
    obtain ⟨k, v⟩ := x
    obtain ⟨l, w⟩ := y
    obtain ⟨rfl, hvalue⟩ := hxy
    rw [Fields.get?_cons, Fields.get?_cons]
    split
    · exact .some hvalue
    · exact ih

/-- Alike values may be put under one name. -/
theorem FieldsAlike.insert {xs ys : List (String × Json)} (h : FieldsAlike rel xs ys)
    (name : String) {v w : Json} (hvalue : rel v w) :
    FieldsAlike rel (Fields.insert xs name v) (Fields.insert ys name w) := by
  induction h with
  | nil => exact .cons ⟨rfl, hvalue⟩ .nil
  | @cons x y xs ys hxy hrest ih =>
    obtain ⟨k, v'⟩ := x
    obtain ⟨l, w'⟩ := y
    obtain ⟨rfl, hhead⟩ := hxy
    rw [Fields.insert, Fields.insert]
    split_ifs
    · exact .cons ⟨rfl, hvalue⟩ hrest
    · exact .cons ⟨rfl, hvalue⟩ (.cons ⟨rfl, hhead⟩ hrest)
    · exact .cons ⟨rfl, hhead⟩ ih

/-- The relation compares texts as they are, and lists and objects part by part. -/
structure IsPartwise (rel : Json → Json → Prop) : Prop where
  /-- Null is like itself. -/
  null : rel .null .null
  /-- Texts are alike if they are equal. -/
  string_iff : ∀ s t, rel (.string s) (.string t) ↔ s = t
  /-- Lists are alike if their items are. -/
  array_iff : ∀ xs ys, rel (.array xs) (.array ys) ↔ List.Forall₂ rel xs ys
  /-- Objects are alike if their fields are. -/
  object_iff : ∀ xs ys, rel (.object xs) (.object ys) ↔ FieldsAlike rel xs ys

theorem isPartwise_eq : IsPartwise Eq where
  null := rfl
  string_iff := by simp
  array_iff := by simp
  object_iff xs ys := by
    have hpair : (fun x y : String × Json ↦ x.1 = y.1 ∧ x.2 = y.2) = Eq :=
      funext₂ fun x y ↦ propext Prod.ext_iff.symm
    rw [FieldsAlike, hpair, List.forall₂_eq_eq_eq, object.injEq]

theorem sameItems_iff {xs ys : List Json} :
    sameItems xs ys = true ↔ List.Forall₂ (fun x y ↦ x.same y = true) xs ys := by
  induction xs generalizing ys with
  | nil => cases ys <;> simp [sameItems]
  | cons x xs ih => cases ys <;> simp [sameItems, ih]

theorem sameFields_iff {xs ys : List (String × Json)} :
    sameFields xs ys = true ↔ FieldsAlike (fun x y ↦ x.same y = true) xs ys := by
  rw [FieldsAlike]
  induction xs generalizing ys with
  | nil => cases ys <;> simp [sameFields]
  | cons x xs ih => cases ys <;> simp [sameFields, ih]

theorem isPartwise_same : IsPartwise fun v w ↦ v.same w = true where
  null := rfl
  string_iff := by simp [same]
  array_iff xs ys := by rw [same, sameItems_iff]
  object_iff xs ys := by rw [same, sameFields_iff]

namespace IsPartwise

variable (h : IsPartwise rel)
include h

theorem single_iff {name other : String} {v w : Json} :
    rel (single name v) (single other w) ↔ name = other ∧ rel v w := by
  rw [single, single, h.object_iff, FieldsAlike, List.forall₂_cons, and_iff_left .nil]

/-- Objects of two fields are alike if the fields are. -/
theorem ofFields_iff {first second : String} (hne : first ≠ second) {v v' w w' : Json} :
    rel (ofFields [(first, v), (second, w)]) (ofFields [(first, v'), (second, w')]) ↔
      rel v v' ∧ rel w w' := by
  rw [ofFields, ofFields, ofObject, ofObject, h.object_iff]
  constructor
  · intro hfields
    have hget (name : String) (a b : Json) :
        Fields.get? (Dict.ofList [(first, a), (second, b)]).entries name =
          Fields.get? [(first, a), (second, b)] name :=
      Dict.get?_ofList _ _
    have hfirst := hfields.get? first
    have hsecond := hfields.get? second
    rw [hget, hget] at hfirst hsecond
    simp only [Fields.get?_cons, if_true, if_neg hne, Option.rel_some_some] at hfirst hsecond
    exact ⟨hfirst, hsecond⟩
  · rintro ⟨hv, hw⟩
    exact (FieldsAlike.insert .nil second hw).insert first hv

end IsPartwise

end

end Json

/-! ### Clauses and nodes that are alike -/

/-- Are the same bounds there, with alike values? -/
def Bounds.Alike (rel : Json → Json → Prop) (a b : Bounds) : Prop :=
  Option.Rel rel a.gt b.gt ∧ Option.Rel rel a.gte b.gte ∧ Option.Rel rel a.lt b.lt ∧
    Option.Rel rel a.lte b.lte

namespace Clause

/-- Are two clauses of one kind, and alike part by part? -/
def Alike (rel : Json → Json → Prop) : Clause → Clause → Prop
  | term field v, term other w => field = other ∧ rel v w
  | terms field vs, terms other ws => field = other ∧ List.Forall₂ rel vs ws
  | range field a, range other b => field = other ∧ a.Alike rel b
  | present field, present other => field = other
  | contains field v, contains other w => field = other ∧ rel v w
  | regexp field v flags, regexp other w others => field = other ∧ v = w ∧ flags = others
  | geoDistance field v d, geoDistance other w e => field = other ∧ rel v w ∧ rel d e
  | geoBox field v, geoBox other w => field = other ∧ rel v w
  | geoPolygon field vs, geoPolygon other ws => field = other ∧ List.Forall₂ rel vs ws
  | geoShape field v r, geoShape other w q => field = other ∧ rel v w ∧ r = q
  | _, _ => False

/-- The clause without a distance whose place its field takes. -/
def visible : Clause → Clause
  | geoDistance field point distance =>
    geoDistance field point (if field = "distance" then .null else distance)
  | other => other

end Clause

namespace Node

mutual

/-- Are two conditions built in one way of alike clauses? -/
def Alike (rel : Json → Json → Prop) : Node → Node → Prop
  | leaf clause, leaf other => clause.Alike rel other
  | group occur children, group other others => occur = other ∧ AllAlike rel children others
  | _, _ => False

/-- Are two lists of conditions alike, one by one? -/
def AllAlike (rel : Json → Json → Prop) : List Node → List Node → Prop
  | [], [] => True
  | node :: rest, other :: others => Alike rel node other ∧ AllAlike rel rest others
  | _, _ => False

end

mutual

/-- The condition without hidden distances. -/
def visible : Node → Node
  | leaf clause => leaf clause.visible
  | group occur children => group occur (visibleAll children)

/-- Conditions without hidden distances. -/
def visibleAll : List Node → List Node
  | [] => []
  | node :: rest => visible node :: visibleAll rest

end

end Node

/-! ### Rendered clauses -/

section Rendered

variable {rel : Json → Json → Prop} (h : Json.IsPartwise rel)
include h

/-- Bounds are rendered alike exactly if they are alike. -/
theorem Bounds.rel_render_iff (a b : Bounds) : rel a.render b.render ↔ a.Alike rel b := by
  constructor
  · intro hrel
    rw [render, render, h.object_iff] at hrel
    obtain ⟨hgt, hgte, hlt, hlte⟩ := a.field?_render
    obtain ⟨hgt', hgte', hlt', hlte'⟩ := b.field?_render
    rw [Alike, ← hgt, ← hgte, ← hlt, ← hlte, ← hgt', ← hgte', ← hlt', ← hlte']
    exact ⟨hrel.get? _, hrel.get? _, hrel.get? _, hrel.get? _⟩
  · obtain ⟨gt, gte, lt, lte⟩ := a
    obtain ⟨gt', gte', lt', lte'⟩ := b
    rintro ⟨hgt, hgte, hlt, hlte⟩
    dsimp only at hgt hgte hlt hlte
    rw [render, render, h.object_iff, Json.FieldsAlike]
    cases hgt <;> cases hgte <;> cases hlt <;> cases hlte <;> simp [*]

/-- Distances are rendered alike exactly if they are alike as far as they are visible. -/
theorem Clause.rel_parameters_geoDistance_iff (field other : String) (v w d e : Json) :
    rel (geoDistance field v d).parameters (geoDistance other w e).parameters ↔
      Alike rel (geoDistance field v d).visible (geoDistance other w e).visible := by
  rw [parameters, parameters, Json.ofObject, Json.ofObject, h.object_iff, visible, visible, Alike]
  constructor
  · intro hfields
    have hget : ∀ name, Option.Rel rel
        (if field = name then some v else if "distance" = name then some d else none)
        (if other = name then some w else if "distance" = name then some e else none) := by
      intro name
      rw [← Dict.get?_single, ← Dict.get?_single, ← Dict.get?_insert, ← Dict.get?_insert]
      exact hfields.get? name
    -- Each of the two names is found on the other side, and only `distance` could be found there.
    have hsame : field = other := by
      by_contra hne
      have hfield := hget field
      have hother := hget other
      rw [if_pos rfl, if_neg (Ne.symm hne)] at hfield
      rw [if_neg hne, if_pos rfl] at hother
      split at hfield
      · next hleft =>
        split at hother
        · next hright => exact hne (hleft.symm.trans hright)
        · exact Option.not_rel_none_some hother
      · exact Option.not_rel_some_none hfield
    subst hsame
    refine ⟨rfl, by simpa using hget field, ?_⟩
    split
    · exact h.null
    · next hne => simpa [hne] using hget "distance"
  · rintro ⟨rfl, hvalue, hdistance⟩
    by_cases hfield : field = "distance"
    · subst hfield
      rw [Dict.insert_single_self, Dict.insert_single_self]
      exact .cons ⟨rfl, hvalue⟩ .nil
    · rw [if_neg hfield, if_neg hfield] at hdistance
      have hsingle : Json.FieldsAlike rel (Dict.single "distance" d).entries
          (Dict.single "distance" e).entries := .cons ⟨rfl, hdistance⟩ .nil
      exact hsingle.insert field hvalue

/-- Clauses are rendered alike exactly if their visible parts are alike. -/
theorem Clause.rel_render_iff (a b : Clause) :
    rel a.render b.render ↔ a.visible.Alike rel b.visible := by
  rw [render, render, h.single_iff]
  -- Clauses of two kinds are rendered under two names; of one kind, the parameters decide.
  cases a with
  | term =>
    cases b with
    | term => exact (and_iff_right rfl).trans h.single_iff
    | _ => simp [kind, visible, Alike]
  | terms =>
    cases b with
    | terms =>
      exact (and_iff_right rfl).trans (h.single_iff.trans (and_congr_right' (h.array_iff _ _)))
    | _ => simp [kind, visible, Alike]
  | range =>
    cases b with
    | range =>
      exact (and_iff_right rfl).trans
        (h.single_iff.trans (and_congr_right' (Bounds.rel_render_iff h _ _)))
    | _ => simp [kind, visible, Alike]
  | present =>
    cases b with
    | present =>
      exact (and_iff_right rfl).trans
        (h.single_iff.trans ((and_iff_right rfl).trans (h.string_iff _ _)))
    | _ => simp [kind, visible, Alike]
  | contains =>
    cases b with
    | contains => exact (and_iff_right rfl).trans h.single_iff
    | _ => simp [kind, visible, Alike]
  | regexp =>
    cases b with
    | regexp =>
      refine (and_iff_right rfl).trans (h.single_iff.trans (and_congr_right' ?_))
      rw [h.ofFields_iff (by decide), h.string_iff, h.string_iff]
    | _ => simp [kind, visible, Alike]
  | geoDistance =>
    cases b with
    | geoDistance =>
      exact (and_iff_right rfl).trans (Clause.rel_parameters_geoDistance_iff h _ _ _ _ _ _)
    | _ => simp [kind, visible, Alike]
  | geoBox =>
    cases b with
    | geoBox => exact (and_iff_right rfl).trans h.single_iff
    | _ => simp [kind, visible, Alike]
  | geoPolygon =>
    cases b with
    | geoPolygon =>
      refine (and_iff_right rfl).trans (h.single_iff.trans (and_congr_right' ?_))
      rw [h.single_iff, and_iff_right rfl, h.array_iff]
    | _ => simp [kind, visible, Alike]
  | geoShape =>
    cases b with
    | geoShape =>
      refine (and_iff_right rfl).trans (h.single_iff.trans (and_congr_right' ?_))
      rw [h.ofFields_iff (by decide), h.string_iff]
    | _ => simp [kind, visible, Alike]

end Rendered

namespace Node

variable {rel : Json → Json → Prop}

mutual

/-- **Conditions are rendered alike exactly if their visible parts are alike.** -/
theorem rel_render_iff (h : Json.IsPartwise rel) : (a b : Node) →
    (rel a.render b.render ↔ a.visible.Alike rel b.visible)
  | .leaf clause, .leaf other => Clause.rel_render_iff h clause other
  | .leaf clause, .group _ _ => by
    rw [render, render, Clause.render, h.single_iff]
    cases clause <;> simp [Clause.kind, visible, Alike]
  | .group _ _, .leaf clause => by
    rw [render, render, Clause.render, h.single_iff]
    cases clause <;> simp [Clause.kind, visible, Alike]
  | .group occur children, .group other others => by
    rw [render, render, h.single_iff, and_iff_right rfl, h.single_iff, h.array_iff,
      forall₂_renderAll_iff h children others, visible, visible, Alike]
    exact and_congr_left' ⟨Bucket.name_injective, congrArg Bucket.name⟩

/-- So are lists of conditions. -/
theorem forall₂_renderAll_iff (h : Json.IsPartwise rel) : (as bs : List Node) →
    (List.Forall₂ rel (renderAll as) (renderAll bs) ↔ AllAlike rel (visibleAll as) (visibleAll bs))
  | [], [] => iff_of_true .nil trivial
  | [], _ :: _ => iff_of_false nofun id
  | _ :: _, [] => iff_of_false nofun id
  | a :: as, b :: bs => by
    rw [renderAll, renderAll, List.forall₂_cons, rel_render_iff h a b,
      forall₂_renderAll_iff h as bs]
    rfl

end

end Node

/-! ### Equal conditions -/

theorem optionRel_eq_iff {α : Type} {a b : Option α} : Option.Rel Eq a b ↔ a = b := by
  cases a <;> cases b <;> simp

theorem Bounds.alike_eq_iff {a b : Bounds} : a.Alike Eq b ↔ a = b := by
  cases a
  cases b
  simp only [Alike, optionRel_eq_iff, mk.injEq]

theorem Clause.alike_eq_iff {a b : Clause} : a.Alike Eq b ↔ a = b := by
  cases a <;> cases b <;> simp [Alike, Bounds.alike_eq_iff]

namespace Node

mutual

/-- Conditions whose values are equal are equal. -/
theorem alike_eq_iff : (a b : Node) → (a.Alike Eq b ↔ a = b)
  | .leaf clause, .leaf other => by rw [Alike, Clause.alike_eq_iff, leaf.injEq]
  | .leaf _, .group _ _ => iff_of_false id nofun
  | .group _ _, .leaf _ => iff_of_false id nofun
  | .group occur children, .group other others => by
    rw [Alike, allAlike_eq_iff children others, group.injEq]

/-- So are lists of conditions. -/
theorem allAlike_eq_iff : (as bs : List Node) → (AllAlike Eq as bs ↔ as = bs)
  | [], [] => iff_of_true trivial rfl
  | [], _ :: _ => iff_of_false id nofun
  | _ :: _, [] => iff_of_false id nofun
  | a :: as, b :: bs => by
    rw [AllAlike, alike_eq_iff a b, allAlike_eq_iff as bs, List.cons.injEq]

end

/-- **Rendering loses hidden distances and nothing else.** Take any two conditions, of clauses of
every kind and groups to any depth. They are rendered to the same value exactly if they are the same
condition up to distances whose place the field takes. The same is true of values as the search
compares them, with conditions that are compared in the same way. -/
theorem render_eq_iff (a b : Node) :
    (a.render = b.render ↔ a.visible = b.visible) ∧
      (a.render.same b.render = true ↔ a.visible.Alike (fun v w ↦ v.same w = true) b.visible) :=
  ⟨(rel_render_iff Json.isPartwise_eq a b).trans (alike_eq_iff _ _),
    rel_render_iff Json.isPartwise_same a b⟩

end Node

end RecordSearch
