import ParamSql.Query
import ParamSql.Text.Word

/-!
# Named templates

A template is SQL text with tokens `:name`. Binding gives each token placeholders of its own,
numbered in order of appearance: one for a scalar, one per element for a list or a tuple.
-/

namespace ParamSql

/-- What a value binds: the elements of a list or a tuple, else the value itself. -/
def Value.elements : Value → List Value
  | list xs => xs
  | tuple xs => xs
  | value => [value]

namespace Template

/-- A colon opens a token unless it follows a colon or a word character, as in a type cast. -/
def opensName : Option Char → Bool
  | none => true
  | some c => c != ':' && !Text.isWord c

def nameKind : Sql.TokenKind := ⟨':', Text.isWord, opensName⟩

/-- The placeholders of one token, which binds `count` values after `bound` others. -/
def tokenText (bound count : Nat) : String := ", ".intercalate (placeholders (bound + 1) count)

/-- The text and values of a template's pieces, or the first name without a value. -/
def bindPieces (named : Row) : Nat → List Sql.Piece → Except String (List Char × List Value)
  | _, [] => .ok ([], [])
  | bound, .char c :: rest => do
    let (text, values) ← bindPieces named bound rest
    return (c :: text, values)
  | bound, .token name :: rest =>
    match named.get? (String.ofList name) with
    | none => .error (String.ofList name)
    | some value => do
      let items := value.elements
      let (text, values) ← bindPieces named (bound + items.length) rest
      return ((tokenText bound items.length).toList ++ text, items ++ values)

def bind (template : String) (named : Row) : Except Error Query :=
  match bindPieces named 0 (nameKind.piecesOutside template.toList) with
  | .ok (text, values) => .ok ⟨String.ofList text, values⟩
  | .error name => .error (.unboundParameter name template)

end Template

end ParamSql
