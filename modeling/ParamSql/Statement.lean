import ParamSql.Condition
import ParamSql.Table

/-!
# Statements on one table

What a caller may ask of a table, and the query that asks it. Statements that change rows return the
rows that they changed.
-/

namespace ParamSql

/-- Records to insert. -/
inductive GivenRecords where
  /-- A record that is not in a list. -/
  | one (record : Row)
  /-- Any record of a list may be absent. -/
  | list (records : List (Option Row))
  | absent

/-- One record counts as a list of its own. -/
def GivenRecords.items? : GivenRecords → Option (List (Option Row))
  | one record => some [some record]
  | list records => some records
  | absent => none

/-- Conditions and assignments that are absent are empty ones. -/
inductive Statement where
  | select (conditions : Row)
  | count (conditions : Row)
  | insert (records : GivenRecords)
  | update (assignments conditions : Row)
  | delete (conditions : Row)

/-! ## Where clauses -/

/-- Conditions that bind nothing write no clause. -/
def appendWhere (text : String) (conditions : Query) : String :=
  if conditions.values.isEmpty then text else text ++ " WHERE " ++ conditions.text

/-- A text and the filter that follows it; a where clause consults no properties. -/
def filtered (text : String) (conditions : Row) : Rendering Query := do
  let clause ← compileConditions Fields.empty .whereClause conditions
  return ⟨appendWhere text clause, clause.values⟩

/-! ## Insertions -/

/-- Nothing is inserted while a record is absent. -/
def presentRecords (records : GivenRecords) : Except Error (List Row) := do
  (← required records.items?).mapM required

def unifiedColumns (records : List Row) : List String := (records.flatMap Fields.keys).eraseDups

/-- A record binds null for a column that it lacks. -/
def recordValues (columns : List String) (record : Row) : List Value :=
  columns.map fun column => (record.get? column).getD .null

/-- The expressions of one record, numbered from `index`. -/
def recordExpressions (properties : Properties) (record : Row) :
    Nat → List String → Rendering (List String)
  | _, [] => pure []
  | index, column :: columns => do
    let first ← properties.expression column record (placeholder index)
    let others ← recordExpressions properties record (index + 1) columns
    return first :: others

/-- One group for each record, numbered from `index` without a gap. -/
def insertGroups (properties : Properties) (columns : List String) :
    Nat → List Row → Rendering (List String)
  | _, [] => pure []
  | index, record :: records => do
    let expressions ← recordExpressions properties record index columns
    let groups ← insertGroups properties columns (index + columns.length) records
    return ("(" ++ ", ".intercalate expressions ++ ")") :: groups

def insertText (table : Table) (columns groups : List String) : String :=
  "INSERT INTO " ++ table.qualifiedName ++ " (" ++ ", ".intercalate columns ++ ") VALUES "
    ++ ", ".intercalate groups ++ " RETURNING *"

def insertQuery (table : Table) (properties : Properties) (records : List Row) :
    Rendering Query :=
  if records.isEmpty then Logged.ofExcept (.error (.emptyInsert table.qualifiedName))
  else do
    let columns := unifiedColumns records
    let groups ← insertGroups properties columns 1 records
    return ⟨insertText table columns groups, records.flatMap (recordValues columns)⟩

/-! ## Updates -/

/-- The filter's placeholders are numbered on from those of the assignments. -/
def updateQuery (table : Table) (properties : Properties) (assignments conditions : Row) :
    Rendering Query := do
  let set ← compileConditions properties .setList assignments
  let offset : ConditionOptions := { ConditionOptions.whereClause with
    offset := .past set.values.length }
  let clause ← compileConditions properties offset conditions
  let text := appendWhere ("UPDATE " ++ table.qualifiedName ++ " SET " ++ set.text) clause
  return ⟨text ++ " RETURNING *", set.values ++ clause.values⟩

/-! ## All statements -/

namespace Statement

def query (table : Table) (properties : Properties) : Statement → Rendering Query
  | select conditions => filtered ("SELECT * FROM " ++ table.fromClause) conditions
  | count conditions => filtered ("SELECT COUNT(*) as count FROM " ++ table.fromClause) conditions
  | insert records => do
    insertQuery table properties (← Logged.ofExcept (presentRecords records))
  | update assignments conditions => updateQuery table properties assignments conditions
  | delete conditions => do
    let query ← filtered ("DELETE FROM " ++ table.qualifiedName) conditions
    return ⟨query.text ++ " RETURNING *", query.values⟩

end Statement

end ParamSql
