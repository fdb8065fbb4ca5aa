import ParamSql.Error

/-!
# Cursors

What a driver returns for a statement with results: column names and rows, which become rows with a
cell for every column.
-/

namespace ParamSql

inductive DriverRow where
  | cells (values : List Value)
  /-- The driver has named the cells itself. -/
  | named (row : ResultRow)
  /-- The driver has left the row out. -/
  | absent

structure Cursor where
  columns : List String
  rows : List DriverRow
  /-- The failure that takes the place of the rows. -/
  failure : Option Failure

/-! ## Rows by position -/

/-- A row that the driver has named yields its keys. -/
def DriverRow.cellValues : DriverRow → Except Error (List Value)
  | cells values => .ok values
  | named row => .ok row.keys
  | absent => .error .absent

/-- One cell for each column; of columns with one name the last cell stays. -/
def nameCells (columns : List String) (row : DriverRow) : Except Error ResultRow := do
  let values ← row.cellValues
  if columns.length < values.length then .error .rowTooLong
  else if values.length < columns.length then .error .rowTooShort
  else return Fields.ofList ((columns.map Value.text).zip values)

/-! ## Rows by key -/

mutual

/-- The type that keeps a value from being a key, if any does. -/
def Value.unhashable? : Value → Option String
  | .list _ => some "list"
  | .dict _ => some "dict"
  | .tuple xs => unhashableIn? xs
  | _ => none

def unhashableIn? : List Value → Option String
  | [] => none
  | x :: xs => match x.unhashable? with
    | some type => some type
    | none => unhashableIn? xs

end

/-- What a cell yields when it is read as a sequence. -/
def Value.sequence? : Value → Option (List Value)
  | .list xs => some xs
  | .tuple xs => some xs
  | .text s => some (s.toList.map fun c => .text (String.singleton c))
  | .dict entries => some (entries.map fun entry => .text entry.1)
  | _ => none

/-- A cell that is a key and a value. -/
def pairOfCell (position : Nat) (cell : Value) : Except Error (Value × Value) :=
  match cell.sequence? with
  | none => .error (.cellNotPair position)
  | some [key, value] => match key.unhashable? with
    | none => .ok (key, value)
    | some type => .error (.unhashableKey type)
  | some items => .error (.cellNotTwo position items.length)

def pairsOfCells : Nat → List Value → Except Error (List (Value × Value))
  | _, [] => .ok []
  | position, cell :: rest => do
    let pair ← pairOfCell position cell
    return pair :: (← pairsOfCells (position + 1) rest)

/-- A row of named cells; cells without names have to be pairs of a key and a value. -/
def DriverRow.toRow : DriverRow → Except Error ResultRow
  | named row => .ok row
  | cells values => do return Fields.ofList (← pairsOfCells 0 values)
  | absent => .error .absent

/-! ## All rows -/

/-- The first row tells how all of them are read. -/
def Cursor.assemble (cursor : Cursor) : Except Error (List ResultRow) :=
  match cursor.rows with
  | [] => .ok []
  | .named _ :: _ => cursor.rows.mapM DriverRow.toRow
  | _ :: _ => cursor.rows.mapM (nameCells cursor.columns)

end ParamSql
