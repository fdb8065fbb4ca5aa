import ParamSql.Value.Shown

/-!
# Errors

Every error is named by its cause. The errors of the library itself form a tree of kinds; the others
come from the driver, from functions that the caller supplies, or from values that are not what they
should be. `Error.message` holds the wording of them all.
-/

namespace ParamSql

/-! ## Kinds -/

inductive ErrorKind where
  | any
  | queryBuild
  | emptyInsert
  | execution
  | queryExecution
  | parameterBinding
  | multipleRows
  | metadata
  | tableNotFound
  | transaction
  | transactionState
  | adapter
  | connection
  | pool
deriving DecidableEq

/-- The kind itself, then each wider kind up to the widest. -/
def ErrorKind.lineage : ErrorKind → List ErrorKind
  | .any => [.any]
  | .queryBuild => [.queryBuild, .any]
  | .emptyInsert => [.emptyInsert, .queryBuild, .any]
  | .execution => [.execution, .any]
  | .queryExecution => [.queryExecution, .execution, .any]
  | .parameterBinding => [.parameterBinding, .execution, .any]
  | .multipleRows => [.multipleRows, .execution, .any]
  | .metadata => [.metadata, .any]
  | .tableNotFound => [.tableNotFound, .metadata, .any]
  | .transaction => [.transaction, .any]
  | .transactionState => [.transactionState, .transaction, .any]
  | .adapter => [.adapter, .any]
  | .connection => [.connection, .adapter, .any]
  | .pool => [.pool, .adapter, .any]

/-! ## Causes -/

/-- What is wrong with one entry of a configuration or of a table registry. -/
inductive Defect where
  | notJson
  | notMapping
  | notTable
  | missing
  | notText
  | notInteger
  | unreadableInteger
  | oversizedInteger
  | fractionalInteger
  | belowMinimum
deriving DecidableEq

structure Problem where
  defect : Defect
  path : List String
deriving DecidableEq

/-- What a database driver reports when a call fails. -/
structure Failure where
  /-- The driver could not reach or keep its server. -/
  operational : Bool
  message : String
deriving DecidableEq

inductive Error where
  /-- An error of a kind that says no more than its message. -/
  | general (kind : ErrorKind) (message : String)
  | emptyInsert (table : String)
  | queryFailed (text detail : String) (cause : Option Error)
  | unboundParameter (name template : String)
  | multipleRows (table : String) (count : Int)
  | tableNotFound (key : String)
  | unreadableMetadata
  | invalidMetadata (problems : List Problem)
  | noMetadata (table : String)
  | wrongState (state action : String)
  | unsupportedDriver (name : String)
  | cannotConnect (database : String) (failure : Failure)
  | poolExhausted (size : Nat)
  /-- A driver call failed and nothing wrapped it. -/
  | driver (failure : Failure)
  /-- A driver call on no connection at all. -/
  | noConnection (call : String)
  /-- A function that the caller supplied refused its argument. -/
  | refused (message : String)
  | invalidConfig (problems : List Problem)
  | undecodable
  | indexOutOfRange
  | indexTooLarge
  | tooManyDigits (count : Nat)
  | unwritableInteger
  | unknownStyle (style : Value)
  | unknownMode (mode : Value)
  | unknownOption (name : String)
  | rowTooLong
  | rowTooShort
  /-- A cell that should be a pair has no elements. -/
  | cellNotPair (position : Nat)
  | cellNotTwo (position length : Nat)
  | unhashableKey (type : String)
  | notInteger (text : String)
  | notNumber (type : String)
  /-- A value is no text where only a text will do. -/
  | textExpected (type : String)
  /-- A text or a sequence can be joined with its like alone. -/
  | cannotJoin (type other : String)
  | cannotAdd (type other : String)
  | missingArguments (function : String) (names : List String)
  | tooManyArguments (function : String) (taken given : Nat)
  /-- An argument that was given already was given again by its name. -/
  | argumentTwice (function name : String)
  /-- What has to be gone through is absent. -/
  | absent
  | absentRow (part : String)
  /-- There was nothing left to take. -/
  | exhausted (text : String)
  /-- There was nothing left to take inside a coroutine. -/
  | exhaustedInside (text : String)
deriving Inhabited

namespace Error

def kind? : Error → Option ErrorKind
  | general kind _ => some kind
  | emptyInsert _ => some .emptyInsert
  | queryFailed .. => some .queryExecution
  | unboundParameter .. => some .parameterBinding
  | multipleRows .. => some .multipleRows
  | tableNotFound _ => some .tableNotFound
  | unreadableMetadata => some .metadata
  | invalidMetadata _ => some .metadata
  | noMetadata _ => some .metadata
  | wrongState .. => some .transactionState
  | unsupportedDriver _ => some .adapter
  | cannotConnect .. => some .connection
  | poolExhausted _ => some .pool
  | _ => none

def cause? : Error → Option Error
  | queryFailed _ _ cause => cause
  | cannotConnect _ failure => some (driver failure)
  | exhaustedInside text => some (exhausted text)
  | _ => none

def isQueryFailure (error : Error) : Bool := error.kind? == some .queryExecution

/-- An error as it leaves a coroutine. Being exhausted is how a coroutine returns, so an error that
says so becomes the cause of another one. -/
def outside : Error → Error
  | exhausted text => exhaustedInside text
  | error => error

/-! ## Wording -/

def emptyInsertText (table : String) : String :=
  "Trying to insert an empty array into '" ++ table ++ "'"

def queryFailedText (text detail : String) : String :=
  "Query execution failed for '" ++ text ++ "': " ++ detail

def unboundParameterText (name template : String) : String :=
  "No value supplied for parameter ':" ++ name ++ "' in: " ++ template

def multipleRowsText (table count : String) : String :=
  "find_one on '" ++ table ++ "' returned " ++ count ++ " rows (expected 0 or 1)"

def tableNotFoundText (key : String) : String := "Table not found in metadata: '" ++ key ++ "'"

def wrongStateText (state action : String) : String :=
  "Cannot " ++ action ++ " transaction in state '" ++ state ++ "'"

def absentText (part : String) : String := "'NoneType' object has no attribute '" ++ part ++ "'"

/-- Some names, each between quotes, with a word before the last one. -/
def namesText (names : List String) : String :=
  " and ".intercalate (names.map fun name => "'" ++ name ++ "'")

def message : Error → String
  | general _ text => text
  | emptyInsert table => emptyInsertText table
  | queryFailed text detail _ => queryFailedText text detail
  | unboundParameter name template => unboundParameterText name template
  | multipleRows table count => multipleRowsText table (toString count)
  | tableNotFound key => tableNotFoundText key
  | unreadableMetadata => "Cannot read metadata file"
  | invalidMetadata _ => "Invalid database metadata"
  | noMetadata table => "No database metadata loaded to resolve table '" ++ table ++ "'"
  | wrongState state action => wrongStateText state action
  | unsupportedDriver name => "Unsupported database driver: " ++ name
  | cannotConnect database failure => "Cannot connect to " ++ database ++ ": " ++ failure.message
  | poolExhausted size => "All " ++ toString size ++ " connection(s) are in use"
  | driver failure => failure.message
  | noConnection call => absentText call
  | refused text => text
  | invalidConfig _ => "Invalid configuration"
  | undecodable => "Invalid UTF-8"
  | indexOutOfRange => "tuple index out of range"
  | indexTooLarge => "cannot fit 'int' into an index-sized integer"
  | tooManyDigits count =>
    "Exceeds the limit (4300 digits) for integer string conversion: value has " ++ toString count
      ++ " digits; use sys.set_int_max_str_digits() to increase the limit"
  | unwritableInteger =>
    "Exceeds the limit (4300 digits) for integer string conversion; "
      ++ "use sys.set_int_max_str_digits() to increase the limit"
  | unknownStyle style => style.quoted ++ " is not a valid ParamStyle"
  | unknownMode mode => mode.quoted ++ " is not a valid ValueExpressionMode"
  | unknownOption name =>
    "ConditionOptions.__init__() got an unexpected keyword argument '" ++ name ++ "'"
  | rowTooLong => "zip() argument 2 is longer than argument 1"
  | rowTooShort => "zip() argument 2 is shorter than argument 1"
  | cellNotPair position =>
    "cannot convert dictionary update sequence element #" ++ toString position ++ " to a sequence"
  | cellNotTwo position length =>
    "dictionary update sequence element #" ++ toString position ++ " has length "
      ++ toString length ++ "; 2 is required"
  | unhashableKey type => "unhashable type: '" ++ type ++ "'"
  | notInteger text =>
    "invalid literal for int() with base 10: "
      ++ String.ofList ((Text.quoteChars text.toList).take 200)
  | notNumber type =>
    "int() argument must be a string, a bytes-like object or a real number, not '" ++ type ++ "'"
  | textExpected type => "expected string or bytes-like object, got '" ++ type ++ "'"
  | cannotJoin type other =>
    "can only concatenate " ++ type ++ " (not \"" ++ other ++ "\") to " ++ type
  | cannotAdd type other =>
    "unsupported operand type(s) for +: '" ++ type ++ "' and '" ++ other ++ "'"
  | missingArguments function names =>
    function ++ " missing " ++ toString names.length ++ " required positional argument"
      ++ (if names.length = 1 then "" else "s") ++ ": " ++ namesText names
  | tooManyArguments function taken given =>
    function ++ " takes " ++ toString taken ++ " positional arguments but " ++ toString given
      ++ " were given"
  | argumentTwice function name =>
    function ++ " got multiple values for argument '" ++ name ++ "'"
  | absent => "'NoneType' object is not iterable"
  | absentRow part => absentText part
  | exhausted text => text
  | exhaustedInside _ => "coroutine raised StopIteration"

/-! ## Leaving a coroutine -/

theorem outside_outside (error : Error) : error.outside.outside = error.outside := by
  cases error <;> rfl

@[simp] theorem isQueryFailure_outside (error : Error) :
    error.outside.isQueryFailure = error.isQueryFailure := by
  cases error <;> rfl

end Error

/-- What has to be gone through, if it is there. -/
def required {α : Type} : Option α → Except Error α
  | some value => .ok value
  | none => .error .absent

@[simp] theorem required_some {α : Type} (value : α) : required (some value) = .ok value := rfl

end ParamSql
