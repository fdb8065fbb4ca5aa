import ParamSql.Text.Blank
import ParamSql.Text.Title

/-! # Camel case -/

namespace ParamSql.Text

/-- What stands between the words of a name. -/
def isJoint (c : Char) : Bool := c == '_' || c == '-' || isGap c

def addToFirst (c : Char) : List (List Char) → List (List Char)
  | [] => [[c]]
  | run :: others => (c :: run) :: others

def runs : List Char → List (List Char)
  | [] => [[]]
  | c :: rest => if isJoint c then [] :: runs rest else addToFirst c (runs rest)

def words (name : List Char) : List (List Char) := (runs name).filter (!·.isEmpty)

/-- The first word in lower case and the others capitalized; a name without words stays. -/
def camelCase (name : List Char) : List Char :=
  match words name with
  | [] => name
  | head :: tail => lower head ++ tail.flatMap capitalize

end ParamSql.Text
