import RecordSearch.Engine.Basic
import RecordSearch.Text.CommaList
import RecordSearch.Text.Case
/-!
# Configuration

The settings of an engine and of the client it talks through. They are read from environment
variables, where what is missing or says nothing leaves the default, or from a JSON value, which
has to have the right shape: an object with any of the four settings, or a list with the settings
in their order.
-/

namespace RecordSearch

/-- The settings of an engine and its client. -/
structure Config where
  /-- The hosts of the backend. -/
  hosts : List String := ["localhost:9200"]
  /-- Are mappings written before the first document of a table? -/
  updateMapping : Bool := true
  /-- The name of the indexer. -/
  indexer : String := "single"
  /-- When a written document becomes visible. -/
  documentRefresh : Option String := none
deriving DecidableEq, Inhabited

/-- The kinds of indexers. -/
inductive IndexerKind where
  /-- One request per document. -/
  | single
deriving DecidableEq

/-- The indexer of a name, letter case and blanks around it aside. -/
def IndexerKind.read (name : String) : Except Error IndexerKind :=
  let plain := Text.loweredAscii (Text.trim name)
  if plain = "single" then .ok single else .error (.configuration (.unknownIndexer plain))

namespace Config

/-! ### From the environment -/

/-- The words that switch a setting off. -/
def offWords : List String :=
  ["false", "0", "no", "off", ""]

/-- A text that is not empty. -/
def nonempty? (text : Option String) : Option String :=
  text.filter fun t ↦ !t.isEmpty

/-- The settings of an environment. -/
def ofEnvironment (lookup : String → Option String) : Config :=
  let default : Config := {}
  { hosts := ((lookup "ELASTIC_HOST").bind Text.commaList?).getD default.hosts
    updateMapping := match lookup "ELASTIC_UPDATE_MAPPING" with
      | some flag => !offWords.contains (Text.loweredAscii (Text.trim flag))
      | none => default.updateMapping
    indexer := (nonempty? (lookup "ELASTIC_INDEXER")).getD default.indexer
    documentRefresh := nonempty? (lookup "ELASTIC_DOCUMENT_REFRESH") }

/-! ### From JSON -/

/-- The texts of a list of strings. -/
def strings? (value : Json) : Option (List String) :=
  value.array?.bind fun items ↦ items.mapM Json.string?

/-- A text, or null for none. -/
def optionalString? : Json → Option (Option String)
  | .null => some none
  | .string text => some (some text)
  | _ => none

/-- A setting that may be missing. -/
def setting? {α : Type} (value : Option Json) (default : α) (read : Json → Option α) : Option α :=
  match value with
  | none => some default
  | some v => read v

/-- The settings as far as they are given. -/
def ofSettings? (hosts updateMapping indexer documentRefresh : Option Json) : Option Config := do
  let default : Config := {}
  let hosts ← setting? hosts default.hosts strings?
  let updateMapping ← setting? updateMapping default.updateMapping Json.bool?
  let indexer ← setting? indexer default.indexer Json.string?
  let documentRefresh ← setting? documentRefresh default.documentRefresh optionalString?
  return { hosts, updateMapping, indexer, documentRefresh }

/-- The settings of a JSON value, if it has the right shape. -/
def ofJson? : Json → Option Config
  | .object fields =>
    let field := (Json.object fields).field?
    ofSettings? (field "hosts") (field "update_mapping") (field "indexer")
      (field "document_refresh")
  | .array items =>
    if items.length ≤ 4 then ofSettings? items[0]? items[1]? items[2]? items[3]? else none
  | _ => none

/-! ### Engines -/

/-- The kind of indexer that is configured. -/
def indexerKind (config : Config) : Except Error IndexerKind :=
  IndexerKind.read config.indexer

end Config

/-- The engine of a configuration. -/
def Engine.ofConfig (config : Config) : Except Error Engine := do
  match ← config.indexerKind with
  | .single =>
    return { indexer := { refresh := config.documentRefresh }
             updateMapping := config.updateMapping }

end RecordSearch
