import ParamSql.Sql.Literal

/-!
# Tokens in SQL text

A token is a mark followed by the longest run of characters that its kind allows, such as a colon
and a name or a dollar sign and digits. Tokens are looked for between the literals only.
-/

namespace ParamSql.Sql

structure TokenKind where
  mark : Char
  /-- The characters of which a token's body is made. -/
  body : Char → Bool
  /-- Whether a mark may open a token after this character, or at the start. -/
  opensAfter : Option Char → Bool

/-- A character that stands for itself, or a token without its mark. -/
inductive Piece where
  | char (c : Char)
  | token (body : List Char)
deriving DecidableEq

def Piece.body? : Piece → Option (List Char)
  | char _ => none
  | token body => some body

/-- The text that a piece was read from. -/
def Piece.source (kind : TokenKind) : Piece → List Char
  | char c => [c]
  | token body => kind.mark :: body

theorem drop_length_takeWhile {α : Type} (p : α → Bool) (l : List α) :
    l.drop (l.takeWhile p).length = l.dropWhile p := by
  induction l with
  | nil => rfl
  | cons a l ih => by_cases h : p a <;> simp [h, ih]

namespace TokenKind

/-- The pieces of a text after `previous`, once `skip` characters of it have been used. -/
def scan (kind : TokenKind) : Option Char → Nat → List Char → List Piece
  | _, _, [] => []
  | _, skip + 1, c :: rest => kind.scan (some c) skip rest
  | previous, 0, c :: rest =>
    let body := rest.takeWhile kind.body
    if c = kind.mark ∧ kind.opensAfter previous = true ∧ body ≠ [] then
      .token body :: kind.scan (some c) body.length rest
    else
      .char c :: kind.scan (some c) 0 rest

/-- The pieces of a text that holds no literals, or whose literals are not looked at. -/
def pieces (kind : TokenKind) (text : List Char) : List Piece := kind.scan none 0 text

/-- The pieces of one segment: a literal has no tokens. -/
def segmentPieces (kind : TokenKind) (segment : Segment) : List Piece :=
  if segment.literal then segment.text.map .char else kind.pieces segment.text

/-- The pieces of a text, tokens between the literals only. -/
def piecesOutside (kind : TokenKind) (text : List Char) : List Piece :=
  (segments text).flatMap kind.segmentPieces

theorem flatMap_source_scan (kind : TokenKind) (previous : Option Char) (skip : Nat)
    (text : List Char) :
    (kind.scan previous skip text).flatMap (Piece.source kind) = text.drop skip := by
  induction text generalizing previous skip with
  | nil => cases skip <;> rfl
  | cons c rest ih =>
    cases skip with
    | succ n => simp [scan, ih]
    | zero =>
      simp only [scan]
      split
      · rename_i h
        rw [List.flatMap_cons, ih, drop_length_takeWhile, Piece.source, ← h.1, List.cons_append,
          List.takeWhile_append_dropWhile, List.drop_zero]
      · simp [ih, Piece.source]

/-- Nothing is lost or added. -/
theorem flatMap_source_pieces (kind : TokenKind) (text : List Char) :
    (kind.pieces text).flatMap (Piece.source kind) = text := by
  rw [pieces, flatMap_source_scan, List.drop_zero]

end TokenKind

end ParamSql.Sql
