import ParamSql.Error
import ParamSql.Text.Camel

/-!
# Key rules

A key rule names the cells of result rows anew, and may refuse a key. Two cells whose new names
agree become one: it stands at the place of the first and holds the value of the last.
-/

namespace ParamSql

abbrev KeyRule := Value → Except Error String

namespace KeyRule

/-! ## Common rules -/

def camel : KeyRule
  | .text name => .ok (String.ofList (Text.camelCase name.toList))
  | key => .error (.textExpected key.typeName)

def marked (mark : String) : KeyRule
  | .text name => .ok (mark ++ name)
  | key => .error (.cannotJoin "str" key.typeName)

def constant (name : String) : KeyRule := fun _ => .ok name

def refuse : KeyRule := fun key => .error (.refused ("bad key " ++ key.shown))

/-! ## Renaming rows -/

def renameEntries (rule : KeyRule) : List (Value × Value) → Except Error (List (Value × Value))
  | [] => .ok []
  | (key, value) :: rest => do
    let name ← rule key
    return (.text name, value) :: (← renameEntries rule rest)

def renameRow (rule : KeyRule) (row : ResultRow) : Except Error ResultRow := do
  return Fields.ofList (← rule.renameEntries row.entries)

/-- A rule asks even an absent row for its cells. -/
def renameGiven (rule : KeyRule) : Option ResultRow → Except Error ResultRow
  | some row => rule.renameRow row
  | none => .error (.absentRow "items")

end KeyRule

/-- Without a rule the rows stay as they are. -/
def renameRows (rule : Option KeyRule) (rows : List ResultRow) :
    Except Error (List ResultRow) :=
  match rule with
  | none => .ok rows
  | some rule => rows.mapM rule.renameRow

/-- Rows of which any one may be absent: the first that is, ends the renaming. -/
def renameGivenRows (rule : Option KeyRule) (rows : List (Option ResultRow)) :
    Except Error (List ResultRow) :=
  match rule with
  | none => rows.mapM required
  | some rule => rows.mapM rule.renameGiven

end ParamSql
