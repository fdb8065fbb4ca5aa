import ParamSql.Error

/-!
# Errors made from arguments

A caller may make an error of any kind from values of his own. A kind with parameters words its
message from them; any other kind shows whatever it was given.
-/

namespace ParamSql

/-- What is seen of an error that was made from arguments. -/
structure Raised where
  message : String
  /-- The arguments that the error keeps. -/
  attributes : List (String × Value)

/-- One value stands for itself, several are shown as a tuple. -/
def argumentsText : List Value → String
  | [] => ""
  | [value] => value.shown
  | values => (Value.tuple values).quoted

namespace ErrorKind

/-- What a kind has to be told; the others take any number of values. -/
def parameters : ErrorKind → List String
  | emptyInsert => ["table"]
  | queryExecution => ["text", "detail"]
  | parameterBinding => ["name", "template"]
  | multipleRows => ["table", "row_count"]
  | tableNotFound => ["table_key"]
  | transactionState => ["current_state", "attempted_action"]
  | _ => []

/-- The error that a maker of errors, known as `function`, makes. The error itself counts among its
arguments. -/
def raise (kind : ErrorKind) (function : String) (arguments : List Value) : Except Error Raised :=
  match kind, arguments with
  | emptyInsert, [table] => .ok ⟨Error.emptyInsertText table.shown, [("table", table)]⟩
  | queryExecution, [text, detail] =>
    .ok ⟨Error.queryFailedText text.shown detail.shown, [("text", text)]⟩
  | parameterBinding, [name, template] =>
    .ok ⟨Error.unboundParameterText name.shown template.shown,
      [("name", name), ("template", template)]⟩
  | multipleRows, [table, count] =>
    .ok ⟨Error.multipleRowsText table.shown count.shown, [("table", table), ("row_count", count)]⟩
  | tableNotFound, [key] => .ok ⟨Error.tableNotFoundText key.shown, [("table_key", key)]⟩
  | transactionState, [state, action] =>
    .ok ⟨Error.wrongStateText state.shown action.shown,
      [("current_state", state), ("attempted_action", action)]⟩
  | kind, arguments =>
    let names := kind.parameters
    if names.isEmpty then .ok ⟨argumentsText arguments, []⟩
    else if arguments.length < names.length then
      .error (.missingArguments function (names.drop arguments.length))
    else .error (.tooManyArguments function (names.length + 1) (arguments.length + 1))

end ErrorKind

end ParamSql
