import FlowAtlas.Database.Basic
import FlowAtlas.Sql.Value

/-!
# What a database tells of itself

An `AccountTable` has rows about the tables of a database, about their columns and indexes, or about
one of the traits by which it is kept. Here are the names and columns of these tables; their rows are
told in `AccountTable.rows`.
-/

set_option autoImplicit false

namespace FlowAtlas
namespace Sql

open Database (Value Encoding)

/-! ## Traits -/

/-- A number or a word by which a database is kept. -/
structure DatabaseTrait where
  name : String
  column : String := name
  /-- Whether a database can be named. -/
  isOfDatabase : Bool := false
  value : Database → Value

namespace DatabaseTrait

/-- What is the same for all databases. -/
def fixed (name : String) (n : Int) : DatabaseTrait := { name, value := fun _ => .integer n }

/-- A word, in the encoding of the database. -/
def word (d : Database) (s : String) : Value := Texts.ofString d.encoding s

/-- A signed number in the header. -/
def signedHeader (d : Database) (f : Database.HeaderField) : Int :=
  Database.signed 4 (d.header f)

/-- How many pages are kept at hand, or a number of kilobytes below zero. -/
def atHand (d : Database) : Value :=
  let n := signedHeader d .pagesAtHand
  .integer (if n = 0 then -2000 else n.natAbs)

/-- How free pages are kept: not at all, left out, or left out when that is asked for. -/
def freeing (d : Database) : Value :=
  .integer (if d.header .pageMap = 0 then 0 else if d.header .isGradual = 0 then 1 else 2)

/-- The name of the encoding of texts. -/
def encodingName (d : Database) : String :=
  match d.encoding with
  | .utf8 => "UTF-8"
  | .utf16 isLowFirst => if isLowFirst then "UTF-16le" else "UTF-16be"

/-- Traits that can differ. -/
def changing : List DatabaseTrait :=
  [⟨"auto_vacuum", "auto_vacuum", true, freeing⟩,
    ⟨"cache_size", "cache_size", true, atHand⟩,
    ⟨"default_cache_size", "cache_size", true, atHand⟩,
    ⟨"journal_mode", "journal_mode", true, fun d =>
      word d (if (d.page 1).byte 18 = 2 then "wal" else "delete")⟩,
    ⟨"journal_size_limit", "journal_size_limit", true, fun _ => .integer (-1)⟩,
    ⟨"locking_mode", "locking_mode", true, fun d => word d "normal"⟩,
    ⟨"max_page_count", "max_page_count", true, fun _ => .integer (Int.pow 2 32 - 2)⟩,
    ⟨"page_count", "page_count", true, fun d => .integer d.count⟩,
    ⟨"page_size", "page_size", true, fun d => .integer d.pageSize⟩,
    ⟨"synchronous", "synchronous", true, fun _ => .integer 2⟩,
    { name := "application_id", value := fun d => .integer (signedHeader d .application) },
    { name := "encoding", value := fun d => word d (encodingName d) },
    { name := "freelist_count", value := fun d => .integer (signedHeader d .freeCount) },
    { name := "schema_version", value := fun d => .integer (signedHeader d .schemaChanges) },
    { name := "user_version", value := fun d => .integer d.userVersion }]

/-- Traits that are off. -/
def off : List String :=
  ["analysis_limit", "cell_size_check", "checkpoint_fullfsync", "count_changes",
    "defer_foreign_keys", "empty_result_callbacks", "full_column_names", "fullfsync",
    "hard_heap_limit", "ignore_check_constraints", "legacy_alter_table", "query_only",
    "read_uncommitted", "recursive_triggers", "reverse_unordered_selects", "secure_delete",
    "soft_heap_limit", "temp_store", "threads", "writable_schema"]

/-- Traits that are on. -/
def on : List String :=
  ["automatic_index", "foreign_keys", "short_column_names", "trusted_schema"]

/-- All traits. -/
def all : List DatabaseTrait :=
  changing ++ off.map (fixed · 0) ++ on.map (fixed · 1) ++
    [{ fixed "busy_timeout" 5000 with column := "timeout" }]

end DatabaseTrait

/-! ## Tables -/

/-- A table of what a database tells of itself. -/
inductive AccountTable
  /-- The columns of a table. Only a full account has those with formulas. -/
  | columns (isFull : Bool)
  | tables
  /-- The indexes of a table. -/
  | indexes
  /-- The parts of an index. Only a full account has those that tell the row. -/
  | indexParts (isFull : Bool)
  /-- The rules of a table about rows of other tables. -/
  | parents
  | collations
  /-- The value of a trait. -/
  | trait (t : DatabaseTrait)

namespace AccountTable

/-- The table of a name. -/
def ofName? (name : String) : Option AccountTable :=
  match name.toLower with
  | "pragma_table_info" => some (columns false)
  | "pragma_table_xinfo" => some (columns true)
  | "pragma_table_list" => some tables
  | "pragma_index_list" => some indexes
  | "pragma_index_info" => some (indexParts false)
  | "pragma_index_xinfo" => some (indexParts true)
  | "pragma_foreign_key_list" => some parents
  | "pragma_collation_list" => some collations
  | n => (DatabaseTrait.all.find? fun t => "pragma_" ++ t.name = n).map trait

/-- The names of the columns. -/
def columnNames : AccountTable → List String
  | columns isFull =>
    ["cid", "name", "type", "notnull", "dflt_value", "pk"] ++ if isFull then ["hidden"] else []
  | tables => ["schema", "name", "type", "ncol", "wr", "strict"]
  | indexes => ["seq", "name", "unique", "origin", "partial"]
  | indexParts isFull => ["seqno", "cid", "name"] ++ if isFull then ["desc", "coll", "key"] else []
  | parents => ["id", "seq", "table", "from", "to", "on_update", "on_delete", "match"]
  | collations => ["seq", "name"]
  | trait t => [t.column]

/-- The columns that are told only by name. -/
def givenColumns : AccountTable → List String
  | collations => []
  | trait t => if t.isOfDatabase then ["schema"] else []
  | tables => ["arg"]
  | _ => ["arg", "schema"]

end AccountTable

end Sql
end FlowAtlas
