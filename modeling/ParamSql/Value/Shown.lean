import ParamSql.Text.Quoted
import ParamSql.Value

/-!
# Values in messages

How a value is shown: a text alone stands for itself, but inside a list it is quoted, so that it can
be told from a number.
-/

namespace ParamSql.Value

def typeName : Value → String
  | null => "NoneType"
  | bool _ => "bool"
  | int _ => "int"
  | decimal .. => "float"
  | text _ => "str"
  | list _ => "list"
  | tuple _ => "tuple"
  | dict _ => "dict"

/-- A fraction with its point and all of its digits. -/
def fractionText (negative : Bool) (digits places : Nat) : String :=
  let fraction := toString (digits % Nat.pow 10 places)
  let padding := String.ofList (List.replicate (places - fraction.length) '0')
  (if negative then "-" else "") ++ toString (digits / Nat.pow 10 places) ++ "."
    ++ (if places = 0 then "0" else padding ++ fraction)

/-- A tuple of one element keeps a comma. -/
def tupleText : List String → String
  | [element] => "(" ++ element ++ ",)"
  | elements => "(" ++ ", ".intercalate elements ++ ")"

mutual

/-- A value with quotes around its texts. -/
def quoted : Value → String
  | null => "None"
  | bool true => "True"
  | bool false => "False"
  | int n => toString n
  | decimal negative digits places => fractionText negative digits places
  | text s => Text.quote s
  | list elements => "[" ++ ", ".intercalate (quotedAll elements) ++ "]"
  | tuple elements => tupleText (quotedAll elements)
  | dict entries => "\x7b" ++ ", ".intercalate (quotedEntries entries) ++ "\x7d"

def quotedAll : List Value → List String
  | [] => []
  | first :: others => first.quoted :: quotedAll others

def quotedEntries : List (String × Value) → List String
  | [] => []
  | (name, value) :: others => (Text.quote name ++ ": " ++ value.quoted) :: quotedEntries others

end

def shown : Value → String
  | text s => s
  | value => value.quoted

/-- Null, false, zero and whatever is empty do not count as true. -/
def isTrue : Value → Bool
  | null => false
  | bool b => b
  | int n => n != 0
  | decimal _ digits _ => digits != 0
  | text s => !s.isEmpty
  | list elements => !elements.isEmpty
  | tuple elements => !elements.isEmpty
  | dict entries => !entries.isEmpty

end ParamSql.Value
