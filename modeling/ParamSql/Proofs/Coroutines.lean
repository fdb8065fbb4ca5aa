import ParamSql.Engine
import ParamSql.Template
import ParamSql.Transaction
import ParamSql.Wire

/-!
# Errors that leave a coroutine

A coroutine changes an error only if it comes from the caller's own functions or from a row without
cells. All that is checked on the way, and all that the driver reports, leaves it as it is.
-/

namespace ParamSql

/-- A coroutine that comes to this outcome leaves it as it is. -/
def Plain {α : Type} (outcome : Except Error α) : Prop :=
  ∀ error, outcome = .error error → error.outside = error

namespace Plain

variable {α β : Type}

theorem ok (value : α) : Plain (.ok value) := fun _ h => nomatch h

theorem error {error : Error} (h : error.outside = error) :
    Plain (.error error : Except Error α) := by
  rintro _ ⟨⟩
  exact h

theorem mapError_eq {outcome : Except Error α} (h : Plain outcome) :
    outcome.mapError Error.outside = outcome := by
  cases outcome with
  | ok value => rfl
  | error error => exact congrArg Except.error (h error rfl)

theorem bind {first : Except Error α} {next : α → Except Error β} (hfirst : Plain first)
    (hnext : ∀ value, Plain (next value)) : Plain (first >>= next) := by
  cases first with
  | ok value => exact hnext value
  | error error => exact .error (hfirst error rfl)

theorem mapM {f : α → Except Error β} (h : ∀ value, Plain (f value)) (values : List α) :
    Plain (values.mapM f) := by
  induction values with
  | nil => exact .ok []
  | cons value values ih =>
    rw [List.mapM_cons]
    exact .bind (h value) fun _ => .bind ih fun _ => .ok _

/-! ### Binding values -/

theorem slotNumber (digits : List Char) : Plain (slotNumber digits) := by
  unfold ParamSql.slotNumber
  split
  · exact .ok _
  · exact .error rfl

theorem valueAt (values : List Value) (index : Nat) : Plain (valueAt values index) := by
  unfold ParamSql.valueAt
  split
  · split
    · exact .ok _
    · exact .error rfl
  · split
    · exact .ok _
    · split <;> exact .error rfl

theorem formatPieces (values : List Value) (pieces : List Sql.Piece) :
    Plain (formatPieces values pieces) := by
  induction pieces with
  | nil => exact .ok _
  | cons piece rest ih =>
    cases piece with
    | char c => exact .bind ih fun _ => .ok _
    | token digits =>
      exact .bind (slotNumber digits) fun index => .bind (valueAt values index) fun _ =>
        .bind ih fun _ => .ok _

theorem prepare (query : Query) (style : Style) : Plain (query.prepare style) := by
  cases style with
  | numeric => exact .ok _
  | qmark => exact .ok _
  | format => exact .bind (formatPieces _ _) fun _ => .ok _

theorem template (template : String) (named : Row) : Plain (Template.bind template named) := by
  unfold Template.bind
  split
  · exact .ok _
  · exact .error rfl

/-! ### Reading rows -/

theorem nameCells (columns : List String) (row : DriverRow) : Plain (nameCells columns row) := by
  have hcells : Plain row.cellValues := by
    cases row with
    | cells values => exact .ok _
    | named row => exact .ok _
    | absent => exact .error rfl
  refine .bind hcells fun values => ?_
  split
  · exact .error rfl
  · split
    · exact .error rfl
    · exact .ok _

theorem pairOfCell (position : Nat) (cell : Value) : Plain (pairOfCell position cell) := by
  unfold ParamSql.pairOfCell
  split
  · exact .error rfl
  · split
    · exact .ok _
    · exact .error rfl
  · exact .error rfl

theorem pairsOfCells (position : Nat) (cells : List Value) : Plain (pairsOfCells position cells) := by
  induction cells generalizing position with
  | nil => exact .ok _
  | cons cell rest ih =>
    exact .bind (pairOfCell position cell) fun _ => .bind (ih (position + 1)) fun _ => .ok _

theorem toRow (row : DriverRow) : Plain row.toRow := by
  cases row with
  | cells values => exact .bind (pairsOfCells 0 values) fun _ => .ok _
  | named row => exact .ok _
  | absent => exact .error rfl

theorem assemble (cursor : Cursor) : Plain cursor.assemble := by
  unfold Cursor.assemble
  split
  · exact .ok _
  · exact .mapM toRow _
  · exact .mapM (nameCells cursor.columns) _

/-! ### Everything else that is checked -/

theorem connectionOf (call : String) (handle : Handle) : Plain (connectionOf call handle) := by
  cases handle with
  | none => exact .error rfl
  | some connection => exact .ok _

theorem driver (answer : Except Failure α) : Plain (answer.mapError Error.driver) := by
  cases answer with
  | ok value => exact .ok _
  | error failure => exact .error rfl

theorem check (transaction : Transaction) (action : TransactionAction) :
    Plain (transaction.check action) := by
  unfold Transaction.check
  split
  · exact .ok _
  · exact .error rfl

theorem resolve (engine : Engine) (table : TableRef) : Plain (engine.resolve table) := by
  cases table with
  | table table => exact .ok _
  | key key =>
    unfold Engine.resolve
    dsimp only
    split
    · unfold Catalog.table
      split
      · exact .ok _
      · exact .error rfl
    · exact .error rfl

end Plain

end ParamSql
