import ParamSql.Error
import ParamSql.Sql.Token
import ParamSql.Text.Digit
import ParamSql.Value

/-!
# Queries

A query is SQL text in which the placeholder `$i` stands for the `i`-th of its values.
-/

namespace ParamSql

structure Query where
  text : String
  values : List Value
deriving Inhabited

/-! ## Placeholders -/

def placeholder (index : Int) : String := "$" ++ toString index

def placeholderOf (index : Value) : String := "$" ++ index.shown

/-- The placeholder of an index that a caller may have chosen freely: an integer of more than 4300
digits is not written. -/
def placeholder? (index : Int) : Except Error String :=
  if index.natAbs < Nat.pow 10 4300 then .ok (placeholder index) else .error .unwritableInteger

/-- Consecutive placeholders, one for each of `count` values. -/
def placeholders (start : Int) (count : Nat) : List String :=
  (List.range count).map fun (offset : Nat) => placeholder (start + offset)

/-- A dollar sign and decimal digits of any script. -/
def slotKind : Sql.TokenKind := ⟨'$', Text.isDigit, fun _ => true⟩

def slotNumber (digits : List Char) : Except Error Nat :=
  if digits.length ≤ 4300 then .ok (Text.decimalValue digits)
  else .error (.tooManyDigits digits.length)

namespace Query

def slots (query : Query) : List (List Char) :=
  (slotKind.pieces query.text.toList).filterMap Sql.Piece.body?

def placeholderCount (query : Query) : Nat := query.slots.length

def placeholderIndices (query : Query) : Except Error (List Nat) := query.slots.mapM slotNumber

/-- The same text, and values that a caller cannot tell apart. -/
def same (query other : Query) : Bool :=
  query.text == other.text && Value.sameAll query.values other.values

end Query

end ParamSql
