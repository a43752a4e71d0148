import RecordSearch.Text.Split
import RecordSearch.Text.Blank
/-!
# Comma-separated lists

The items of a comma-separated text are its trimmed pieces; pieces that are blank throughout are
no items. Lists of record ids and lists of hosts are both written this way.
-/

namespace RecordSearch.Text

/-- The items of a comma-separated text, in order. -/
def commaItems (text : List Char) : List (List Char) :=
  ((segments ',' text).map trimmed).filter fun item ↦ !item.isEmpty

/-- The items of a comma-separated text, as texts. -/
def commaList (text : String) : List String :=
  (commaItems text.toList).map String.ofList

/-- The items of a comma-separated text, if it has any. -/
def commaList? (text : String) : Option (List String) :=
  match commaList text with
  | [] => none
  | items => some items

theorem commaList?_eq_none_iff {text : String} : commaList? text = none ↔ commaList text = [] := by
  rw [commaList?]
  split <;> simp_all

end RecordSearch.Text
