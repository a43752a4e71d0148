import RecordSearch.Query.Related
/-!
# Reading records

The ways to read with a query: one page, the first record, the record of an id, whether there is
any, and the values of one attribute. Pages count from one; the offset of a page has to fit into
sixty-four bits.
-/

namespace RecordSearch

/-- One page of a result. -/
structure Page where
  /-- The results on the page. -/
  items : Mapped
  /-- The number of all results. -/
  total : Nat
  /-- The length of a page. -/
  perPage : Nat
  /-- The number of the page. -/
  current : Nat

namespace Page

/-- The number of the last page; there is always a first one. -/
def last (page : Page) : Nat :=
  if page.perPage = 0 then 1 else max ((page.total + page.perPage - 1) / page.perPage) 1

/-- Is there a page behind this one? -/
def hasMore (page : Page) : Bool :=
  page.current < page.last

end Page

/-- The first offset that does not fit into sixty-four bits, `2 ^ 64`. -/
def offsetLimit : Nat := 0x10000000000000000

/-- A column's own name, behind the last dot or blank of its qualified name. -/
def columnName (column : String) : String :=
  String.ofList (column.toList.reverse.takeWhile fun c ↦ c ≠ '.' && c ≠ ' ').reverse

namespace Query

/-- The query for a window of the results. -/
def window (query : Query) (offset limit : Nat) : Query :=
  query.refine [.offset offset, .limit limit]

/-- A page of the results. Without a length above zero the pages have the schema's length. -/
def paginate (query : Query) (perPage : Option Nat) (page : Nat) : Fetch Page := do
  let perPage := (perPage.filter fun n ↦ n > 0).getD query.schema.perPage
  let page := max page 1
  let offset := (page - 1) * perPage
  if offset < offsetLimit then do
    let query := query.window offset perPage
    let response ← query.search
    let items ← query.complete response
    pure { items := items, total := response.total, perPage := perPage, current := page }
  else throw (.configuration (.pageOutOfRange page perPage))

/-- The first record. -/
def first (query : Query) : Fetch (Option Record) := do
  let mapped ← (query.take 1).get
  pure mapped.toRecords.head?

/-- Is there any result? -/
def exists? (query : Query) : Fetch Bool := do
  let mapped ← query.get
  pure !mapped.isEmpty

/-- The values of an attribute, record by record. -/
def pluck (query : Query) (column : String) : Fetch (List Json) := do
  let column := columnName column
  let mapped ← (query.refine [.select [column]]).get
  pure (mapped.toRecords.map fun record ↦ (record.get? column).getD .null)

/-- The values of an attribute under the texts of another one; records without that text are
left out. -/
def pluckKeyed (query : Query) (column key : String) : Fetch (List (String × Json)) := do
  let column := columnName column
  let key := columnName key
  let mapped ← (query.refine [.select [column, key]]).get
  pure (mapped.toRecords.filterMap fun record ↦
    (record.attributeText? key).map fun text ↦ (text, (record.get? column).getD .null))

end Query

/-- The record of an id. -/
def Schema.find (schema : Schema) (id : Json) : Fetch (Option Record) :=
  (schema.query.refine [.whereContains schema.keyName id]).first

end RecordSearch
