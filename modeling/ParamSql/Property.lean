import ParamSql.Logged
import ParamSql.Query

/-!
# Column properties

A column may have a function that turns its placeholder into an SQL expression. Each call of such a
function is written to a log.
-/

namespace ParamSql

/-- Takes the mapping that is being written and the placeholder, and may refuse them. -/
abbrev Property := Row → String → Except Error String

/-- A column whose entry is `none` has no property. -/
abbrev Properties := Fields String (Option Property)

/-- A property was called for a column with a placeholder and a source mapping. -/
structure Call where
  column : String
  placeholder : String
  source : Row

abbrev Rendering := Logged Call

namespace Properties

def property? (properties : Properties) (column : String) : Option Property :=
  (properties.get? column).join

/-- The expression that a column writes in place of a placeholder. -/
def expression (properties : Properties) (column : String) (source : Row) (slot : String) :
    Rendering String :=
  match properties.property? column with
  | none => pure slot
  | some property => do
    Logged.write ⟨column, slot, source⟩
    Logged.ofExcept (property source slot)

/-- The expressions that a column writes for `count` values from `index` on, with the placeholders
that `slot` gives. -/
def expressions (properties : Properties) (slot : Int → Except Error String) (column : String)
    (source : Row) : Int → Nat → Rendering (List String)
  | _, 0 => pure []
  | index, count + 1 => do
    let first ← properties.expression column source (← Logged.ofExcept (slot index))
    let others ← properties.expressions slot column source (index + 1) count
    return first :: others

end Properties

/-! ## Properties written as data -/

/-- A property is often a text with holes. -/
inductive Part where
  | text (s : String)
  | placeholder
  | keys
  | column (name : String)

def sourceText : Option Value → String
  | none => "NULL"
  | some .null => "NULL"
  | some (.bool true) => "true"
  | some (.bool false) => "false"
  | some (.int n) => toString n
  | some (.text s) => s
  | some _ => "?"

def Part.render (source : Row) (slot : String) : Part → String
  | text s => s
  | placeholder => slot
  | keys => ",".intercalate source.keys
  | column name => sourceText (source.get? name)

def Property.ofParts (parts : List Part) : Property := fun source slot =>
  .ok (String.join (parts.map (Part.render source slot)))

def Property.refusing (reason : String) : Property := fun _ _ => .error (.refused reason)

end ParamSql
