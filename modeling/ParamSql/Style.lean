import ParamSql.Query

/-!
# Binding styles

A driver takes its parameters in one of three ways: numbered after a dollar sign, numbered after a
question mark, or one `%s` for each use of a value. Placeholders inside literals are left alone.
-/

namespace ParamSql

inductive Style where
  /-- Numbers after `$`, as queries are written. -/
  | numeric
  /-- Numbers after `?`, with the values in their own order. -/
  | qmark
  /-- One `%s` and one value for each use; every other percent sign is doubled. -/
  | format
deriving DecidableEq

def Style.name : Style → String
  | numeric => "numeric"
  | qmark => "qmark"
  | format => "format"

def Style.ofValue (name : Value) : Except Error Style :=
  match [numeric, qmark, format].find? fun style => .text style.name == name with
  | some style => .ok style
  | none => .error (.unknownStyle name)

structure Prepared where
  sql : String
  params : List Value

/-! ## Numbered question marks -/

def qmarkPiece : Sql.Piece → List Char
  | .char c => [c]
  | .token digits => '?' :: digits

def qmarkText (text : String) : String :=
  String.ofList ((slotKind.piecesOutside text.toList).flatMap qmarkPiece)

/-! ## Percent directives -/

/-- A percent sign that is not a directive is written twice. -/
def escapePercent (c : Char) : List Char := if c = '%' then ['%', '%'] else [c]

/-- One past the greatest position that a list of values can have. -/
def positionLimit : Nat := 0x8000000000000000

/-- The value that a number names: they count from one, and zero names the last value. -/
def valueAt (values : List Value) : Nat → Except Error Value
  | 0 => match values.getLast? with
    | some value => .ok value
    | none => .error .indexOutOfRange
  | index + 1 => match values[index]? with
    | some value => .ok value
    | none => .error (if positionLimit ≤ index then .indexTooLarge else .indexOutOfRange)

def formatPieces (values : List Value) : List Sql.Piece → Except Error (List Char × List Value)
  | [] => .ok ([], [])
  | .char c :: rest => do
    let (sql, params) ← formatPieces values rest
    return (escapePercent c ++ sql, params)
  | .token digits :: rest => do
    let value ← valueAt values (← slotNumber digits)
    let (sql, params) ← formatPieces values rest
    return ('%' :: 's' :: sql, value :: params)

/-! ## All styles -/

def Query.prepare (query : Query) : Style → Except Error Prepared
  | .numeric => .ok ⟨query.text, query.values⟩
  | .qmark => .ok ⟨qmarkText query.text, query.values⟩
  | .format => do
    let (sql, params) ← formatPieces query.values (slotKind.piecesOutside query.text.toList)
    return ⟨String.ofList sql, params⟩

end ParamSql
