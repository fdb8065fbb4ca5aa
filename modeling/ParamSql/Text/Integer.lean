import ParamSql.Text.Blank
import ParamSql.Text.Digit

/-!
# Integers in text

White space around, one sign, digits of any script with single underscores between them. What may
follow the digits is for the reader of the numeral to say.
-/

namespace ParamSql.Text

structure Numeral where
  negative : Bool
  digits : List Nat
  rest : List Char

/-- The digits of a text in which every underscore stands between two of them. -/
def groupedDigits? : List Char → Option (List Nat)
  | [] => none
  | [c] => (digitValue? c).map fun d => [d]
  | c :: '_' :: rest => do
    let d ← digitValue? c
    let ds ← groupedDigits? rest
    return d :: ds
  | c :: rest => do
    let d ← digitValue? c
    let ds ← groupedDigits? rest
    return d :: ds

def splitSign : List Char → Bool × List Char
  | '-' :: rest => (true, rest)
  | '+' :: rest => (false, rest)
  | text => (false, text)

/-- The longest run of digits and underscores has to be well grouped. -/
def readNumeral? (text : List Char) : Option Numeral := do
  let (negative, body) := splitSign (trimBlanks text)
  let inRun := fun c => c == '_' || isDigit c
  let digits ← groupedDigits? (body.takeWhile inRun)
  return ⟨negative, digits, body.dropWhile inRun⟩

def Numeral.value (numeral : Numeral) : Int :=
  let magnitude : Nat := numeral.digits.foldl (fun n d => 10 * n + d) 0
  if numeral.negative then -(magnitude : Int) else magnitude

end ParamSql.Text
