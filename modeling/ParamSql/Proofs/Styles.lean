import ParamSql.Proofs.Rewriting
import ParamSql.Style

/-!
# One statement in every style

A prepared statement is read as its driver reads it: the text from left to right, with a value
wherever a parameter stands.
-/

namespace ParamSql

open Sql TokenKind

/-- Numbers after a question mark, as a driver reads them. -/
def questionKind : TokenKind := ⟨'?', Text.isDigit, fun _ => true⟩

theorem lawful_slotKind : slotKind.Lawful :=
  ⟨by decide, by decide, by decide, rfl⟩

theorem lawful_questionKind : questionKind.Lawful :=
  ⟨by decide, by decide, by decide, rfl⟩

/-! ## Reading statements -/

/-- A character of a statement, or the value that stands in its place if there is one. -/
inductive Symbol where
  | char (c : Char)
  | value (value? : Option Value)

/-- The value with a number, where the first one has the number one. -/
def numberedValue (values : List Value) (digits : List Char) : Option Value :=
  values[Text.decimalValue digits - 1]?

/-- A statement whose parameters are numbered after a mark. -/
def readNumbered (kind : TokenKind) (values : List Value) (text : List Char) : List Symbol :=
  kind.substitute (fun c => [.char c])
    (fun p => [.value (numberedValue values (kind.bodyAt text p))]) text

def readPiece (values : List Value) : Piece → List Symbol :=
  writePiece (fun c => [.char c]) fun digits => [.value (numberedValue values digits)]

theorem readNumbered_eq {kind : TokenKind} (hkind : kind.Lawful) (values : List Value)
    (text : List Char) :
    readNumbered kind values text = (kind.piecesOutside text).flatMap (readPiece values) :=
  substitute_of_body _ (fun digits => [Symbol.value (numberedValue values digits)]) hkind text

/-- A statement with directives: `%%` is a percent sign and `%s` the next parameter. There are no
others, and no parameter is left over. -/
def readDirectives : List Char → List Value → Option (List Symbol)
  | [], [] => some []
  | [], _ :: _ => none
  | '%' :: '%' :: rest, params => (readDirectives rest params).map (.char '%' :: ·)
  | '%' :: 's' :: rest, param :: params =>
    (readDirectives rest params).map (.value (some param) :: ·)
  | '%' :: _, _ => none
  | c :: rest, params => (readDirectives rest params).map (.char c :: ·)

/-- A number that can be read and that has a value. -/
def Names (values : List Value) (digits : List Char) : Prop :=
  digits.length ≤ 4300 ∧ 1 ≤ Text.decimalValue digits ∧ Text.decimalValue digits ≤ values.length

instance (values : List Value) (digits : List Char) : Decidable (Names values digits) :=
  inferInstanceAs (Decidable (_ ∧ _ ∧ _))

/-- Every placeholder outside the literals has a value. -/
def Query.Grounded (query : Query) : Prop :=
  ∀ p ∈ slotKind.starts query.text.toList,
    Names query.values (slotKind.bodyAt query.text.toList p)

instance (query : Query) : Decidable query.Grounded :=
  inferInstanceAs (Decidable (∀ p ∈ slotKind.starts query.text.toList, _))

/-- Numbers count from one, and zero names the last value. -/
def valueNamed (values : List Value) : Nat → Option Value
  | 0 => values.getLast?
  | index + 1 => values[index]?

/-- A placeholder whose number can be read, and that is not refused. -/
def Bound (values : List Value) (digits : List Char) : Prop :=
  digits.length ≤ 4300 ∧ ∃ value, valueNamed values (Text.decimalValue digits) = some value

/-- A query's text with the values in it that its placeholders name. -/
def readNamed (values : List Value) : Piece → List Symbol :=
  writePiece (fun c => [.char c]) fun digits =>
    [.value (valueNamed values (Text.decimalValue digits))]

/-! ## Directives -/

theorem readDirectives_escapePercent (c : Char) (rest : List Char) (params : List Value) :
    readDirectives (escapePercent c ++ rest) params =
      (readDirectives rest params).map (.char c :: ·) := by
  by_cases hc : c = '%'
  · subst hc
    rfl
  · rw [escapePercent, if_neg hc, List.singleton_append, readDirectives] <;> simp [hc]

theorem readDirectives_param (rest : List Char) (param : Value) (params : List Value) :
    readDirectives ('%' :: 's' :: rest) (param :: params) =
      (readDirectives rest params).map (.value (some param) :: ·) := rfl

theorem slotNumber_of_length {digits : List Char} (h : digits.length ≤ 4300) :
    slotNumber digits = .ok (Text.decimalValue digits) :=
  if_pos h

theorem valueAt_of_some {values : List Value} {number : Nat} {value : Value}
    (h : valueNamed values number = some value) : valueAt values number = .ok value := by
  cases number with
  | zero =>
    rw [valueNamed] at h
    rw [valueAt, h]
  | succ index =>
    rw [valueNamed] at h
    rw [valueAt, h]

theorem formatPieces_char {values params : List Value} {pieces : List Piece} {sql : List Char}
    (c : Char) (h : formatPieces values pieces = .ok (sql, params)) :
    formatPieces values (.char c :: pieces) = .ok (escapePercent c ++ sql, params) := by
  rw [formatPieces, h]
  rfl

theorem formatPieces_token {values params : List Value} {pieces : List Piece} {sql : List Char}
    {digits : List Char} {number : Nat} {value : Value} (hnumber : slotNumber digits = .ok number)
    (hvalue : valueAt values number = .ok value)
    (h : formatPieces values pieces = .ok (sql, params)) :
    formatPieces values (.token digits :: pieces) = .ok ('%' :: 's' :: sql, value :: params) := by
  simp only [formatPieces, hnumber, hvalue, h, bind, Except.bind]
  rfl

theorem formatPieces_of_bound {values : List Value} {pieces : List Piece}
    (h : ∀ digits ∈ pieces.filterMap Piece.body?, Bound values digits) :
    ∃ sql params, formatPieces values pieces = .ok (sql, params) ∧
      readDirectives sql params = some (pieces.flatMap (readNamed values)) := by
  induction pieces with
  | nil => exact ⟨[], [], rfl, rfl⟩
  | cons piece rest ih =>
    cases piece with
    | char c =>
      obtain ⟨sql, params, hformat, hread⟩ := ih h
      refine ⟨escapePercent c ++ sql, params, formatPieces_char c hformat, ?_⟩
      rw [readDirectives_escapePercent, hread]
      rfl
    | token digits =>
      obtain ⟨sql, params, hformat, hread⟩ :=
        ih fun other hother => h other (List.mem_cons_of_mem _ hother)
      obtain ⟨hlength, value, hvalue⟩ := h digits List.mem_cons_self
      refine ⟨'%' :: 's' :: sql, value :: params,
        formatPieces_token (slotNumber_of_length hlength) (valueAt_of_some hvalue) hformat, ?_⟩
      rw [readDirectives_param, hread, List.flatMap_cons, readNamed, writePiece, hvalue]
      rfl

theorem Names.bound {values : List Value} {digits : List Char} (h : Names values digits) :
    Bound values digits ∧
      valueNamed values (Text.decimalValue digits) = numberedValue values digits := by
  obtain ⟨hlength, hpos, hle⟩ := h
  obtain ⟨index, hindex⟩ : ∃ index, Text.decimalValue digits = index + 1 :=
    ⟨Text.decimalValue digits - 1, by omega⟩
  have hnamed : valueNamed values (Text.decimalValue digits) = numberedValue values digits := by
    rw [numberedValue, hindex, valueNamed, Nat.add_sub_cancel]
  have hget : values[index]? = some values[index] := List.getElem?_eq_getElem (by omega)
  exact ⟨⟨hlength, values[index], by rw [hindex, valueNamed, hget]⟩, hnamed⟩

theorem formatPieces_of_names {values : List Value} {pieces : List Piece}
    (h : ∀ digits ∈ pieces.filterMap Piece.body?, Names values digits) :
    ∃ sql params, formatPieces values pieces = .ok (sql, params) ∧
      readDirectives sql params = some (pieces.flatMap (readPiece values)) := by
  have hread : pieces.flatMap (readPiece values) = pieces.flatMap (readNamed values) := by
    refine List.flatMap_congr fun piece hpiece => ?_
    cases piece with
    | char c => rfl
    | token digits =>
      have hnames := h digits (List.mem_filterMap.2 ⟨_, hpiece, rfl⟩)
      rw [readPiece, readNamed, writePiece, writePiece, hnames.bound.2]
  rw [hread]
  exact formatPieces_of_bound fun digits hdigits => (h digits hdigits).bound.1

/-! ## Question marks -/

theorem block_question {digits : List Char} (hne : digits ≠ [])
    (hdigits : ∀ c ∈ digits, Text.isDigit c = true) : questionKind.Block [.token digits] where
  quote_not_mem := by
    intro h
    rcases List.mem_cons.1 h with h | h
    · exact absurd h (by decide)
    · change '\'' ∈ digits ++ [] at h
      rw [List.append_nil] at h
      exact absurd (hdigits _ h) (by decide)
  stops := questionKind.stops_cons.2 (by decide)
  reads := fun _ hrest hstop => ⟨rfl, rfl, hne, hdigits, hstop, hrest⟩

theorem replaces_question {free inside : Bool} {pieces : List Piece}
    (h : slotKind.Reads free inside pieces) : questionKind.Replaces pieces pieces := by
  induction pieces generalizing free inside with
  | nil => exact .nil
  | cons piece rest ih =>
    cases piece with
    | char c => exact .char (ih h.2)
    | token digits =>
      obtain ⟨-, -, hne, hdigits, -, hrest⟩ := h
      exact .token (block_question hne hdigits) (ih hrest)

theorem flatMap_qmarkPiece (pieces : List Piece) :
    pieces.flatMap qmarkPiece = questionKind.written pieces := rfl

def questionText (text : List Char) : List Char :=
  slotKind.substitute (fun c => [c]) (fun p => '?' :: slotKind.bodyAt text p) text

theorem questionText_eq (text : List Char) :
    questionText text = (slotKind.piecesOutside text).flatMap qmarkPiece := by
  rw [questionText, substitute_of_body (fun c => [c]) (fun digits => '?' :: digits) lawful_slotKind]
  rfl

theorem piecesOutside_questionText {text : List Char} (h : questionKind.starts text = []) :
    questionKind.piecesOutside (questionText text) = slotKind.piecesOutside text := by
  rw [questionText_eq, flatMap_qmarkPiece]
  exact (replaces_question (reads_piecesOutside lawful_slotKind text)).piecesOutside_eq
    lawful_slotKind lawful_questionKind (fun _ => rfl) (fun _ hc => hc) h

theorem readNumbered_questionText (values : List Value) {text : List Char}
    (h : questionKind.starts text = []) :
    readNumbered questionKind values (questionText text) = readNumbered slotKind values text := by
  rw [readNumbered_eq lawful_questionKind, readNumbered_eq lawful_slotKind,
    piecesOutside_questionText h]

/-! ## All styles -/

/-- If every placeholder has a value, all styles are read as the same statement. -/
theorem styles_agree (query : Query) (h : query.Grounded) :
    query.prepare .numeric = .ok ⟨query.text, query.values⟩ ∧
    (∃ sql params, query.prepare .format = .ok ⟨sql, params⟩ ∧
      readDirectives sql.toList params =
        some (readNumbered slotKind query.values query.text.toList)) ∧
    query.prepare .qmark =
      .ok ⟨String.ofList (questionText query.text.toList), query.values⟩ ∧
    (questionKind.starts query.text.toList = [] →
      readNumbered questionKind query.values (questionText query.text.toList) =
        readNumbered slotKind query.values query.text.toList) := by
  have hnames : ∀ digits ∈ (slotKind.piecesOutside query.text.toList).filterMap Piece.body?,
      Names query.values digits := by
    intro digits hdigits
    rw [bodies_piecesOutside lawful_slotKind] at hdigits
    obtain ⟨p, hp, rfl⟩ := List.mem_map.1 hdigits
    exact h p hp
  refine ⟨rfl, ?_, ?_, readNumbered_questionText query.values⟩
  · obtain ⟨sql, params, hformat, hread⟩ := formatPieces_of_names hnames
    refine ⟨String.ofList sql, params, ?_, ?_⟩
    · rw [Query.prepare, hformat]
      rfl
    · rw [String.toList_ofList, hread, readNumbered_eq lawful_slotKind]
  · rw [Query.prepare, qmarkText, questionText_eq]

theorem styles_agree_percent :
    let query : Query := ⟨"a LIKE '%$1' AND b %$2 = $2 OR $1", [.int 7, .int 8]⟩
    query.Grounded ∧ questionKind.starts query.text.toList = [] ∧
      (∃ sql params, query.prepare .format = .ok ⟨sql, params⟩ ∧
        readDirectives sql.toList params =
          some (readNumbered questionKind query.values (questionText query.text.toList))) := by
  intro query
  have hgrounded : query.Grounded := by decide
  have hnone : questionKind.starts query.text.toList = [] := by decide
  obtain ⟨-, hformat, -, hquestion⟩ := styles_agree query hgrounded
  rw [hquestion hnone]
  exact ⟨hgrounded, hnone, hformat⟩

end ParamSql
