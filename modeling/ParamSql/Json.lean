import ParamSql.Json.Token

/-!
# JSON

JSON values and how they are read. The members of an object keep their order, repeated names
included.
-/

namespace ParamSql

inductive Json where
  | null
  | bool (b : Bool)
  | number (literal : String)
  | text (s : String)
  | array (elements : List Json)
  | object (members : List (String × Json))
deriving Inhabited

namespace Json

/-! ## Reading -/

/-- How large a text may be in places. -/
structure Limits where
  depth : Nat
  /-- The characters of the whole part of a number, with its sign. -/
  whole : Nat

/-- A container part way through, with what it holds so far, last first. -/
inductive Frame where
  | array (done : List Json)
  /-- The value of `name` comes next. -/
  | object (done : List (String × Json)) (name : String)

inductive Expectation where
  | value
  /-- A value, or the end of an array without elements. -/
  | element
  /-- A name, in an object with these members, or its end if that may come. -/
  | name (done : List (String × Json)) (mayEnd : Bool)
  | colon (done : List (String × Json)) (name : String)
  | after (value : Json)

structure Reader where
  /-- The containers around, innermost first. -/
  stack : List Frame
  expects : Expectation

namespace Reader

/-- A value begins, inside at most `depth` containers. -/
def startValue (depth : Nat) (stack : List Frame) (token : Token) : Option Reader :=
  if depth < stack.length then none
  else match token with
    | .null => some ⟨stack, .after .null⟩
    | .bool b => some ⟨stack, .after (.bool b)⟩
    | .number literal => some ⟨stack, .after (.number literal)⟩
    | .text s => some ⟨stack, .after (.text s)⟩
    | .mark '[' => some ⟨.array [] :: stack, .element⟩
    | .mark '{' => some ⟨stack, .name [] true⟩
    | .mark _ => none

/-- A comma, or the end of the container that holds the value just read. -/
def afterValue (stack : List Frame) (value : Json) (token : Token) : Option Reader :=
  match stack, token with
  | .array done :: outer, .mark ',' => some ⟨.array (value :: done) :: outer, .value⟩
  | .array done :: outer, .mark ']' => some ⟨outer, .after (.array (value :: done).reverse)⟩
  | .object done name :: outer, .mark ',' => some ⟨outer, .name ((name, value) :: done) false⟩
  | .object done name :: outer, .mark '}' =>
    some ⟨outer, .after (.object ((name, value) :: done).reverse)⟩
  | _, _ => none

def step (depth : Nat) (reader : Reader) (token : Token) : Option Reader :=
  match reader.expects, token with
  | .value, token => startValue depth reader.stack token
  | .element, .mark ']' => some ⟨reader.stack.drop 1, .after (.array [])⟩
  | .element, token => startValue depth reader.stack token
  | .name _ true, .mark '}' => some ⟨reader.stack, .after (.object [])⟩
  | .name done _, .text name => some ⟨reader.stack, .colon done name⟩
  | .name _ _, _ => none
  | .colon done name, .mark ':' => some ⟨.object done name :: reader.stack, .value⟩
  | .colon _ _, _ => none
  | .after value, token => afterValue reader.stack value token

def start : Reader := ⟨[], .value⟩

end Reader

def ofTokens? (depth : Nat) (tokens : List Token) : Option Json := do
  let reader ← tokens.foldlM (Reader.step depth) Reader.start
  match reader with
  | ⟨[], .after value⟩ => some value
  | _ => none

def read? (limits : Limits) (text : String) : Option Json := do
  ofTokens? limits.depth (← tokens? limits.whole 0 text.toList)

end Json

end ParamSql
