/-!
# Why a request or a read fails

An `Error` says who failed: the caller (`configuration`, with the `Misuse` as its cause), the
backend, the way to it, or an answer or request that lacks something (`malformed`, with the
`Defect` as its cause). The wording of each cause is in `Misuse.text` and `Defect.text`, and
`Error.message` puts the kind in front. A cause that was worded elsewhere is `stated`.
-/

namespace RecordSearch

/-- What a caller asked for that cannot be had. -/
inductive Misuse where
  /-- A comparison operator that does not exist. -/
  | unknownOperator (text : String)
  /-- An indexer that does not exist. -/
  | unknownIndexer (name : String)
  /-- A parameter in the place of a request's identity. -/
  | protectedKey (key : String)
  /-- An alias that the schema does not have. -/
  | unknownAlias (table name : String)
  /-- A relation that the schema does not have. -/
  | unknownRelation (table name : String)
  /-- A document request for a record without a key. -/
  | missingKey (table : String)
  /-- A mapping update of a schema without a mapping. -/
  | missingMapping (table : String)
  /-- A page whose offset exceeds sixty-four bits. -/
  | pageOutOfRange (page perPage : Nat)
  /-- An id that is no scalar. -/
  | unfitId (table : String)
  /-- A client without hosts. -/
  | noHosts
  /-- A cause worded elsewhere. -/
  | stated (text : String)
deriving DecidableEq

/-- What an answer or a request lacks. -/
inductive Defect where
  /-- A count answer without a count. -/
  | noCount
  /-- A request without an index. -/
  | noIndex
  /-- A request with an index list that names none. -/
  | noIndexNames
  /-- A request without one of its texts. -/
  | noField (name : String)
  /-- An answer that is no JSON. -/
  | notJson
  /-- A record that does not have the shape its reader wants. -/
  | unfitRecord (table : String)
  /-- A defect worded elsewhere. -/
  | stated (text : String)
deriving DecidableEq

/-- Why a request or a read failed. -/
inductive Error where
  | configuration (cause : Misuse)
  | backend (text : String)
  | transport (text : String)
  | malformed (cause : Defect)
  | notFound
deriving DecidableEq

/-- The wording of a misuse. -/
def Misuse.text : Misuse → String
  | unknownOperator text =>
    "unsupported comparison operator '" ++ text ++ "' (expected =, >, <, >=, <=, != or <>)"
  | unknownIndexer name => "unknown indexer '" ++ name ++ "'"
  | protectedKey key => "the '" ++ key ++ "' key is protected and cannot be overwritten"
  | unknownAlias table name =>
    "the " ++ table ++ " model doesn't have a getter for the " ++ name ++ " alias"
  | unknownRelation table name => "the " ++ table ++ " model has no '" ++ name ++ "' relation"
  | missingKey table =>
    "the key value must be set to construct a payload for the " ++ table ++ " record"
  | missingMapping table =>
    "nothing to update: the mapping of the " ++ table ++ " model is not specified"
  | pageOutOfRange page perPage =>
    "page " ++ toString page ++ " with " ++ toString perPage ++ " results per page is out of range"
  | unfitId table => "cannot expand " ++ table ++ " by a non-scalar id"
  | noHosts => "at least one search host must be configured"
  | stated text => text

/-- The wording of a defect. -/
def Defect.text : Defect → String
  | noCount => "count response has no count"
  | noIndex => "request has no index"
  | noIndexNames => "empty index list"
  | noField name => "request has no " ++ name
  | notJson => "the answer is no JSON"
  | unfitRecord table => "cannot deserialize " ++ table
  | stated text => text

/-- The wording of an error, its kind in front. -/
def Error.message : Error → String
  | configuration cause => "Configuration error: " ++ cause.text
  | backend text => "Search backend error: " ++ text
  | transport text => "Transport error: " ++ text
  | malformed cause => "Malformed backend response: " ++ cause.text
  | notFound => "Document or index not found"

end RecordSearch
