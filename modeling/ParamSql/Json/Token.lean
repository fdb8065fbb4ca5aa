/-!
# Tokens of JSON

JSON text as a list of tokens. `NaN`, `Infinity` and `-Infinity` count as numbers.
-/

namespace ParamSql.Json

inductive Token where
  /-- One of the brackets, the colon and the comma. -/
  | mark (c : Char)
  | null
  | bool (b : Bool)
  | number (literal : String)
  | text (s : String)
deriving DecidableEq

def isSpace (c : Char) : Bool := c == ' ' || c == '\t' || c == '\n' || c == '\r'

/-! ## Texts -/

def hexValue? (c : Char) : Option Nat :=
  if c.isDigit then some (c.toNat - '0'.toNat)
  else if 'a' ≤ c && c ≤ 'f' then some (c.toNat - 'a'.toNat + 10)
  else if 'A' ≤ c && c ≤ 'F' then some (c.toNat - 'A'.toNat + 10)
  else none

def hexNumber? (digits : List Char) : Option Nat := do
  let values ← digits.mapM hexValue?
  return values.foldl (fun n d => 16 * n + d) 0

/-- What a letter after a backslash stands for. -/
def escapes : List (Char × Char) :=
  [('"', '"'), ('\\', '\\'), ('/', '/'), ('b', '\x08'), ('f', '\x0c'), ('n', '\n'), ('r', '\r'),
   ('t', '\t')]

def surrogatePair? (high low : Nat) : Option Char :=
  if high < 0xdc00 && 0xdc00 ≤ low && low ≤ 0xdfff then
    some (Char.ofNat (0x10000 + (high - 0xd800) * 0x400 + (low - 0xdc00)))
  else
    none

/-- The first character of a text and how many characters write it. -/
def textChar? : List Char → Option (Char × Nat)
  | '\\' :: 'u' :: a :: b :: c :: d :: rest => do
    let unit ← hexNumber? [a, b, c, d]
    if unit < 0xd800 || 0xdfff < unit then some (Char.ofNat unit, 6)
    else match rest with
      | '\\' :: 'u' :: e :: f :: g :: h :: _ => do
        let low ← hexNumber? [e, f, g, h]
        (surrogatePair? unit low).map fun image => (image, 12)
      | _ => none
  | '\\' :: c :: _ => (escapes.lookup c).map fun image => (image, 2)
  | c :: _ => if c.toNat < 0x20 then none else some (c, 1)
  | [] => none

/-- A text up to its closing quote, and how much was read, once `skip` characters have been. -/
def textBody? : Nat → List Char → Option (List Char × Nat)
  | _, [] => none
  | skip + 1, _ :: rest => (textBody? skip rest).map fun (body, length) => (body, length + 1)
  | 0, c :: rest =>
    if c = '"' then some ([], 1)
    else do
      let (image, used) ← textChar? (c :: rest)
      let (body, length) ← textBody? (used - 1) rest
      return (image :: body, length + 1)

/-! ## Numbers -/

def digitCount (text : List Char) : Nat := (text.takeWhile Char.isDigit).length

def fractionLength : List Char → Nat
  | '.' :: rest => if digitCount rest = 0 then 0 else digitCount rest + 1
  | _ => 0

def isExponentMark (c : Char) : Bool := c == 'e' || c == 'E'

def isSign (c : Char) : Bool := c == '+' || c == '-'

def exponentLength : List Char → Nat
  | [] => 0
  | c :: rest =>
    let sign := ((rest.take 1).takeWhile isSign).length
    let digits := digitCount (rest.drop sign)
    if isExponentMark c && digits != 0 then 1 + sign + digits else 0

/-- The length of the number that opens a text. A zero is a whole part of its own, and a whole part
has at most `limit` characters with its sign. -/
def numberLength? (limit : Nat) (text : List Char) : Option Nat :=
  let sign := ((text.take 1).takeWhile (· == '-')).length
  let body := text.drop sign
  let whole := if body.head? = some '0' then 1 else digitCount body
  if whole = 0 || limit < sign + whole then none
  else
    let plain := sign + whole
    let withFraction := plain + fractionLength (text.drop plain)
    some (withFraction + exponentLength (text.drop withFraction))

/-! ## All tokens -/

def wordTokens : List (String × Token) :=
  [("null", .null), ("true", .bool true), ("false", .bool false), ("NaN", .number "NaN"),
   ("Infinity", .number "Infinity"), ("-Infinity", .number "-Infinity")]

def isMark (c : Char) : Bool := ['{', '}', '[', ']', ':', ','].contains c

/-- The token that opens a text and its length. -/
def lexeme? (limit : Nat) : List Char → Option (Token × Nat)
  | [] => none
  | c :: rest =>
    if isMark c then some (.mark c, 1)
    else if c = '"' then
      (textBody? 0 rest).map fun (body, length) => (.text (String.ofList body), length + 1)
    else match wordTokens.find? (·.1.toList.isPrefixOf (c :: rest)) with
      | some (word, token) => some (token, word.length)
      | none => (numberLength? limit (c :: rest)).map fun length =>
          (.number (String.ofList ((c :: rest).take length)), length)

/-- The tokens of a text, once `skip` characters of it have been used. -/
def tokens? (limit : Nat) : Nat → List Char → Option (List Token)
  | _, [] => some []
  | skip + 1, _ :: rest => tokens? limit skip rest
  | 0, c :: rest =>
    if isSpace c then tokens? limit 0 rest
    else do
      let (token, length) ← lexeme? limit (c :: rest)
      return token :: (← tokens? limit (length - 1) rest)

end ParamSql.Json
