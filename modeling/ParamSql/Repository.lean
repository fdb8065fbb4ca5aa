import ParamSql.Statement
import ParamSql.Text.Integer

/-!
# Repositories

What can be asked of the rows of one table, and what the rows that come back mean.
-/

namespace ParamSql

inductive Method where
  | find (conditions : Row)
  | findOne (conditions : Row)
  | count (conditions : Row)
  | create (records : GivenRecords)
  | update (assignments conditions : Row)
  | delete (conditions : Row)

/-- Whatever executes the queries may leave rows out. -/
inductive Answer where
  | rows (rows : List (Option ResultRow))
  | row (row : Option ResultRow)
  | number (n : Int)

/-- Rows that are all there. -/
def Answer.found (rows : List ResultRow) : Answer := .rows (rows.map some)

/-! ## Integers in cells -/

/-- The integer that a text writes in digits of any script, at most 4300 of them. -/
def integerOfText (s : String) : Except Error Int :=
  match Text.readNumeral? s.toList with
  | none => .error (.notInteger s)
  | some numeral =>
    if 4300 < numeral.digits.length then .error (.tooManyDigits numeral.digits.length)
    else if numeral.rest.isEmpty then .ok numeral.value
    else .error (.notInteger s)

/-- A fraction is cut off at the point. -/
def integerOfCell : Value → Except Error Int
  | .bool b => .ok (if b then 1 else 0)
  | .int n => .ok n
  | .decimal negative digits places => .ok (Value.signed negative (digits / Nat.pow 10 places))
  | .text s => integerOfText s
  | value => .error (.notNumber value.typeName)

/-! ## Answers -/

/-- The only row, if there is one. -/
def onlyRow (table : Table) (rows : List (Option ResultRow)) : Except Error (Option ResultRow) :=
  if 1 < rows.length then .error (.multipleRows table.qualifiedName rows.length)
  else .ok rows.head?.join

/-- The first cell of the first row, whatever its column is called. -/
def countOf (rows : List (Option ResultRow)) : Except Error Int :=
  match rows with
  | [] => .ok 0
  | none :: _ => .error (.absentRow "values")
  | some row :: _ => match row.values.head? with
    | some cell => integerOfCell cell
    | none => .error (.exhausted "")

namespace Method

def statement : Method → Statement
  | find conditions => .select conditions
  | findOne conditions => .select conditions
  | count conditions => .count conditions
  | create records => .insert records
  | update assignments conditions => .update assignments conditions
  | delete conditions => .delete conditions

def answer (table : Table) (rows : List (Option ResultRow)) : Method → Except Error Answer
  | findOne _ => .row <$> onlyRow table rows
  | count _ => .number <$> countOf rows
  | _ => .ok (.rows rows)

end Method

end ParamSql
