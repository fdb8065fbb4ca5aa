import ParamSql.Checked
import ParamSql.Fields
import ParamSql.Json
import ParamSql.Table
import ParamSql.Value

/-!
# Catalogs

A catalog names the tables of an application. It is read from descriptions, each of which should be
a mapping with a schema and a name, either given as values or written in a JSON file.
-/

namespace ParamSql

/-- The fields that describe a table, each with its text if it is one; `none` is no mapping. -/
abbrev Description := Option (List (String × Option String))

def Value.text? : Value → Option String
  | text s => some s
  | _ => none

def Value.description : Value → Description
  | dict entries => some (entries.map fun entry => (entry.1, entry.2.text?))
  | _ => none

def Json.text? : Json → Option String
  | text s => some s
  | _ => none

def Json.description : Json → Description
  | object members => some (members.map fun entry => (entry.1, entry.2.text?))
  | _ => none

/-! ## Reading descriptions -/

/-- Of a repeated field the last occurrence counts. -/
def readField (key field : String) (fields : List (String × Option String)) : Checked String :=
  match fields.reverse.lookup field with
  | some (some s) => .valid s
  | some none => .refuse .notText [key, field]
  | none => .refuse .missing [key, field]

def readTable (key : String) : Description → Checked Table
  | some fields => Table.mk <$> readField key "schema" fields <*> readField key "name" fields
  | none => .refuse .notTable [key]

abbrev Catalog := Fields String Table

namespace Catalog

/-- Every description is checked; of a repeated key the last table stays. -/
def ofDescriptions (entries : List (String × Description)) : Checked Catalog :=
  Fields.ofList <$> entries.mapA fun entry =>
    (fun table => (entry.1, table)) <$> readTable entry.1 entry.2

def ofValues (descriptions : Row) : Except Error Catalog :=
  (ofDescriptions (descriptions.map Value.description).entries).orError .invalidMetadata

/-- Of a file more than this is not read. -/
def fileLimits : Json.Limits := { depth := 200, whole := 4300 }

def ofJson (text : String) : Except Error Catalog :=
  let catalog : Checked Catalog := match Json.read? fileLimits text with
    | some (.object members) =>
      ofDescriptions (members.map fun entry => (entry.1, entry.2.description))
    | some _ => .refuse .notMapping []
    | none => .refuse .notJson []
  catalog.orError .invalidMetadata

/-! ## Sources -/

inductive Source where
  | values (descriptions : Row)
  | text (content : String)
  | bytes (content : ByteArray)
  | unreadable

def load : Source → Except Error Catalog
  | .values descriptions => ofValues descriptions
  | .text content => ofJson content
  | .bytes content => match String.fromUTF8? content with
    | some text => ofJson text
    | none => .error .undecodable
  | .unreadable => .error .unreadableMetadata

/-! ## Looking up -/

def table (catalog : Catalog) (key : String) : Except Error Table :=
  match catalog.get? key with
  | some table => .ok table
  | none => .error (.tableNotFound key)

/-- A look-up with a default for an absent key. It asks for the table first, which refuses such a
key, so the default is never taken. -/
def find (catalog : Catalog) (key : String) : Except Error (Option Table) := do
  return some (← catalog.table key)

/-- A membership test, answered by asking for the table: an absent key is refused here too. -/
def holds (catalog : Catalog) (key : String) : Except Error Bool := do
  let _ ← catalog.table key
  return true

/-- The same keys with the same tables, in any order. -/
def same (catalog other : Catalog) : Bool :=
  catalog.entries.length == other.entries.length &&
    catalog.entries.all fun entry => other.get? entry.1 == some entry.2

end Catalog

end ParamSql
