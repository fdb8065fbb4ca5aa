import ParamSql.Property

/-!
# Conditions

A conditions mapping gives each column a value or a list of values. Compiled, it is a list of
comparisons whose placeholders are numbered from one past an offset. The same routine writes the
assignments of an update, which pass each placeholder through the column's property.
-/

namespace ParamSql

/-! ## One condition -/

inductive Condition where
  | scalar (value : Value)
  | anyOf (values : List Value)

namespace Condition

/-- Lists and tuples are memberships, all other values are equalities. -/
def ofValue : Value → Condition
  | .list xs => anyOf xs
  | .tuple xs => anyOf xs
  | value => scalar value

def values : Condition → List Value
  | scalar value => [value]
  | anyOf values => values

def text (condition : Condition) (column : String) (expressions : List String) : String :=
  match condition with
  | scalar _ => column ++ " = " ++ String.join expressions
  | anyOf _ => column ++ " IN (" ++ ", ".intercalate expressions ++ ")"

end Condition

/-! ## Options -/

inductive ExpressionMode where
  | placeholder
  /-- Placeholders pass through the properties of their columns. -/
  | mapped
deriving DecidableEq

def ExpressionMode.ofValue : Value → Except Error ExpressionMode
  | .text "placeholder" => .ok .placeholder
  | .text "mapped" => .ok .mapped
  | name => .error (.unknownMode name)

inductive Offset where
  /-- So many placeholders come earlier in the same statement. -/
  | past (count : Nat)
  /-- A caller's own value, which may be of any kind and size. -/
  | given (value : Value)

namespace Offset

/-- The number that an offset is when a number is added to it. -/
def start : Offset → Except Error Int
  | past count => .ok count
  | given (.int n) => .ok n
  | given (.bool b) => .ok (if b then 1 else 0)
  | given (.text _) => .error (.cannotJoin "str" "int")
  | given (.list _) => .error (.cannotJoin "list" "int")
  | given (.tuple _) => .error (.cannotJoin "tuple" "int")
  | given value => .error (.cannotAdd value.typeName "int")

def slot : Offset → Int → Except Error String
  | past _, index => .ok (placeholder index)
  | given _, index => placeholder? index

end Offset

structure ConditionOptions where
  separator : String := "AND"
  spaceBefore : Bool := true
  offset : Offset := .past 0
  mode : ExpressionMode := .placeholder

namespace ConditionOptions

def whereClause : ConditionOptions := {}

def setList : ConditionOptions := { separator := ",", spaceBefore := false, mode := .mapped }

def joiner (options : ConditionOptions) : String :=
  (if options.spaceBefore then " " else "") ++ options.separator ++ " "

/-- One option by its name, as in a written list of settings; only the mode is checked at once. The
options that are set cannot be given by name too. -/
def set (options : ConditionOptions) : String × Value → Except Error ConditionOptions
  | ("separator", value) => .ok { options with separator := value.shown }
  | ("separator_space_before", value) => .ok { options with spaceBefore := value.isTrue }
  | ("index_offset", value) => .ok { options with offset := .given value }
  | ("value_expression_mode", value) => do
    let mode ← ExpressionMode.ofValue value
    return { options with mode := mode }
  | ("self", _) => .error (.argumentTwice "ConditionOptions.__init__()" "self")
  | (name, _) => .error (.unknownOption name)

def setAll (options : ConditionOptions) (settings : List (String × Value)) :
    Except Error ConditionOptions :=
  settings.foldlM set options

def isMode (setting : String × Value) : Bool := setting.1 == "value_expression_mode"

/-- A mode that does not exist is noticed before an option that does not. -/
def ofSettings (settings : Row) : Except Error ConditionOptions := do
  let options ← setAll {} (settings.entries.filter isMode)
  options.setAll (settings.entries.filter (!isMode ·))

def isInput (setting : String × Value) : Bool :=
  setting.1 == "conditions" || setting.1 == "properties_mapping"

/-- Options for a compilation that has its input already: a setting that would give it again is
noticed after a mode that does not exist, and before an option that does not. -/
def forCompilation (settings : Row) : Except Error ConditionOptions := do
  let _ ← setAll {} (settings.entries.filter isMode)
  match settings.entries.find? isInput with
  | some (name, _) => .error (.argumentTwice "compile_conditions()" name)
  | none => ofSettings settings

end ConditionOptions

/-! ## Compilation -/

def ExpressionMode.consulted (mode : ExpressionMode) (properties : Properties) : Properties :=
  match mode with
  | placeholder => Fields.empty
  | mapped => properties

/-- The comparisons of some entries of a mapping and the values that they bind. -/
def compileEntries (properties : Properties) (slot : Int → Except Error String) (source : Row) :
    Int → List (String × Value) → Rendering (List String × List Value)
  | _, [] => pure ([], [])
  | index, (column, value) :: rest => do
    let condition := Condition.ofValue value
    let expressions ← properties.expressions slot column source index condition.values.length
    let (texts, values) ←
      compileEntries properties slot source (index + condition.values.length) rest
    return (condition.text column expressions :: texts, condition.values ++ values)

/-- The fragment of a conditions mapping; an absent mapping is an empty one, and needs no offset. -/
def compileConditions (properties : Properties) (options : ConditionOptions) (conditions : Row) :
    Rendering Query :=
  if conditions.isEmpty then pure ⟨"", []⟩
  else do
    let start ← Logged.ofExcept options.offset.start
    let (texts, values) ← compileEntries (options.mode.consulted properties) options.offset.slot
      conditions (start + 1) conditions.entries
    return ⟨options.joiner.intercalate texts, values⟩

end ParamSql
