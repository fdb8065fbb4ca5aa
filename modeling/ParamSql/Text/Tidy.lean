import ParamSql.Text.Integer

/-!
# Integers in settings

A plain integer is a minus sign, if it is negative, and its digits. A text that is no plain integer
is tidied and read once more: white space around it, a plus sign, zeros in front of its digits, a
point with zeros behind it, and underscores between digits do not count.
-/

namespace ParamSql.Text

/-! ## Plain integers -/

inductive Reading where
  | number (n : Int)
  /-- More characters than a plain integer may have. -/
  | tooLong
  | unreadable

/-- A plain integer has at most so many characters. -/
def plainLimit : Nat := 4300

/-- The number that digits of ASCII write, most significant digit first. -/
def digitsValue (digits : List Char) : Nat :=
  digits.foldl (fun n c => 10 * n + (c.toNat - '0'.toNat)) 0

def isLeadingDigit (c : Char) : Bool := c.isDigit && c != '0'

/-- Digits without a zero in front. Their number is looked at before what follows them. -/
def readDigits (limit : Nat) (text : List Char) : Reading :=
  match text with
  | [] => .unreadable
  | c :: rest =>
    if c = '0' then if rest.isEmpty then .number 0 else .unreadable
    else if limit < (text.takeWhile Char.isDigit).length then .tooLong
    else if text.all Char.isDigit then .number (digitsValue text)
    else .unreadable

def Reading.negate : Reading → Reading
  | number n => number (-n)
  | reading => reading

def readPlain : List Char → Reading
  | '-' :: digits => (readDigits (plainLimit - 1) digits).negate
  | digits => readDigits plainLimit digits

/-! ## Tidying -/

/-- What follows zeros and underscores of which `last` was the last one. That one stays in front of
a point and where nothing follows; a minus sign may come as late as here. -/
def dropZerosAfter (last : Char) : List Char → Option (List Char)
  | [] => some [last]
  | c :: rest =>
    if c == '0' || c == '_' then dropZerosAfter c rest
    else if c == '.' then some (last :: c :: rest)
    else if c == '-' || isLeadingDigit c then some (c :: rest)
    else none

/-- A text that starts with a digit, without the zeros in front and the underscores among them. -/
def dropZeros : List Char → Option (List Char)
  | [] => none
  | c :: rest =>
    if c == '0' then dropZerosAfter c rest
    else if isLeadingDigit c then some (c :: rest)
    else none

/-- A point goes, with what follows it, if that is one zero or more and nothing else. -/
def dropFraction (text : List Char) : List Char :=
  let zeros := (text.dropWhile (· != '.')).drop 1
  if !zeros.isEmpty && zeros.all (· == '0') then text.takeWhile (· != '.') else text

/-- No underscore is the first or the last character, or stands beside another. -/
def isGrouped (text : List Char) : Bool :=
  text.head? != some '_' && text.getLast? != some '_'
    && !(text.zip text.tail).contains ('_', '_')

def dropUnderscores (text : List Char) : List Char :=
  if isGrouped text then text.filter (· != '_') else text

/-- What is left of a text once it is tidied; a sign has to be followed by a digit. -/
def tidy? (text : List Char) : Option (List Char) := do
  let (negative, body) := splitSign (trimBlanks text)
  let digits := dropUnderscores (dropFraction (← dropZeros body))
  return if negative then '-' :: digits else digits

/-- Only a text that is plain as it stands can be too long. -/
def readInteger (text : List Char) : Reading :=
  match readPlain text with
  | .unreadable => match (tidy? text).map readPlain with
    | some (.number n) => .number n
    | _ => .unreadable
  | reading => reading

end ParamSql.Text
