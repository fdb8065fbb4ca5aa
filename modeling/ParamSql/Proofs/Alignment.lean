import ParamSql.Proofs.Numerals
import ParamSql.Proofs.Styles
import ParamSql.Proofs.Templates

/-!
# From a template to its driver

A bound template is cut into literals a second time when it is prepared. Its placeholders are then
the ones that binding put there, however the tokens stood among the literals.
-/

namespace ParamSql.Template

open Sql TokenKind

/-! ## The placeholders of one token -/

/-- The pieces that are written as consecutive placeholders. -/
def slotPieces : Nat → Nat → List Piece
  | _, 0 => []
  | start, 1 => [.token (Nat.toDigits 10 start)]
  | start, count + 2 =>
    .token (Nat.toDigits 10 start) :: .char ',' :: .char ' ' :: slotPieces (start + 1) (count + 1)

theorem written_slotPieces {kind : TokenKind} {mark : String} (hmark : mark.toList = [kind.mark])
    (start count : Nat) :
    kind.written (slotPieces start count) = (numbered mark start count).toList := by
  induction start, count using slotPieces.induct with
  | case1 start => rw [numbered_zero]; rfl
  | case2 start =>
    rw [numbered_one, slotPieces, written_token, written_nil, String.toList_append, hmark]
    simp
  | case3 start count ih =>
    rw [numbered_add_two, slotPieces, written_token, written_char, written_char, ih]
    simp [String.toList_append, hmark]

theorem quote_not_mem_toDigits (n : Nat) : '\'' ∉ Nat.toDigits 10 n :=
  fun h => absurd (Text.isDigit_of_mem_toDigits h) (by decide)

theorem reads_slot (n : Nat) {rest : List Piece} (hrest : slotKind.Reads true false rest)
    (hstop : slotKind.Stops (slotKind.written rest)) :
    slotKind.Reads true false (.token (Nat.toDigits 10 n) :: rest) :=
  ⟨rfl, rfl, Nat.toDigits_ne_nil, fun _ hc => Text.isDigit_of_mem_toDigits hc, hstop, hrest⟩

theorem block_slotPieces (start count : Nat) : slotKind.Block (slotPieces start count) where
  quote_not_mem := by
    have hmark : '\'' ≠ slotKind.mark := by decide
    induction start, count using slotPieces.induct with
    | case1 start => simp [slotPieces]
    | case2 start => simp [slotPieces, hmark, quote_not_mem_toDigits]
    | case3 start count ih => simp [slotPieces, hmark, quote_not_mem_toDigits, ih]
  stops := by
    have hmark : slotKind.body '$' = false := by decide
    rcases count with _ | _ | count
    · exact slotKind.stops_nil
    · exact slotKind.stops_cons.2 hmark
    · exact slotKind.stops_cons.2 hmark
  reads := by
    induction start, count using slotPieces.induct with
    | case1 start => exact fun _ hrest _ => hrest
    | case2 start => exact fun _ hrest hstop => reads_slot start hrest hstop
    | case3 start count ih =>
      intro rest hrest hstop
      have hcomma : slotKind.Reads true false
          (.char ',' :: .char ' ' :: (slotPieces (start + 1) (count + 1) ++ rest)) :=
        ⟨fun _ h => absurd h (by decide), fun _ h => absurd h (by decide), ih rest hrest hstop⟩
      exact reads_slot start hcomma (slotKind.stops_cons.2 (by decide))

theorem bodies_slotPieces (start count : Nat) :
    (slotPieces start count).filterMap Piece.body? =
      (List.range' start count).map (Nat.toDigits 10) := by
  induction start, count using slotPieces.induct with
  | case1 start => rfl
  | case2 start => rfl
  | case3 start count ih =>
    rw [List.range'_succ, List.map_cons, ← ih]
    rfl

/-! ## The pieces of a bound text -/

section Pieces

variable {α β : Type} {named : Row}

theorem flatMap_renderFrom (char : Char → List α) (token : Nat → List Value → List α)
    (write : α → List β) (bound : Nat) (pieces : List Piece) :
    (renderFrom named char token bound pieces).flatMap write =
      renderFrom named (fun c => (char c).flatMap write)
        (fun bound items => (token bound items).flatMap write) bound pieces := by
  induction pieces generalizing bound with
  | nil => rfl
  | cons piece rest ih =>
    cases piece with
    | char c => rw [renderFrom, renderFrom, List.flatMap_append, ih]
    | token name => rw [renderFrom, renderFrom, List.flatMap_append, ih]

variable (named)

def slotsFrom (bound : Nat) (pieces : List Piece) : List Piece :=
  renderFrom named (fun c => [.char c]) (fun bound items => slotPieces (bound + 1) items.length)
    bound pieces

/-- What the tokens of some pieces bind. -/
def valuesOf (pieces : List Piece) : List Value :=
  pieces.flatMap (writePiece (fun _ => []) fun name => itemsOf named (String.ofList name))

theorem written_slotsFrom (kind : TokenKind) {mark : String} (hmark : mark.toList = [kind.mark])
    (bound : Nat) (pieces : List Piece) :
    kind.written (slotsFrom named bound pieces) =
      renderFrom named (fun c => [c])
        (fun bound items => (numbered mark (bound + 1) items.length).toList) bound pieces := by
  rw [slotsFrom, written, flatMap_renderFrom]
  congr 1
  funext bound items
  exact written_slotPieces hmark (bound + 1) items.length

theorem replaces_slotsFrom (bound : Nat) (pieces : List Piece) :
    slotKind.Replaces pieces (slotsFrom named bound pieces) := by
  induction pieces generalizing bound with
  | nil => exact .nil
  | cons piece rest ih =>
    cases piece with
    | char c => exact .char (ih bound)
    | token name => exact .token (block_slotPieces _ _) (ih _)

theorem renderFrom_values (bound : Nat) (pieces : List Piece) :
    renderFrom named (fun _ => []) (fun _ items => items) bound pieces = valuesOf named pieces := by
  induction pieces generalizing bound with
  | nil => rfl
  | cons piece rest ih =>
    cases piece with
    | char c => exact ih bound
    | token name => rw [renderFrom, ih, valuesOf, valuesOf, List.flatMap_cons, writePiece]

theorem valuesOf_token (name : List Char) (rest : List Piece) :
    valuesOf named (.token name :: rest) =
      itemsOf named (String.ofList name) ++ valuesOf named rest := rfl

theorem bodies_slotsFrom (bound : Nat) (pieces : List Piece) :
    (slotsFrom named bound pieces).filterMap Piece.body? =
      (List.range' (bound + 1) (valuesOf named pieces).length).map (Nat.toDigits 10) := by
  induction pieces generalizing bound with
  | nil => rfl
  | cons piece rest ih =>
    cases piece with
    | char c => exact ih bound
    | token name =>
      rw [slotsFrom, renderFrom, List.filterMap_append, bodies_slotPieces, ← slotsFrom, ih,
        valuesOf_token, List.length_append, ← List.range'_append_1, List.map_append,
        Nat.add_right_comm]

theorem piecesOutside_boundText {text : List Char} (hnone : slotKind.starts text = []) :
    slotKind.piecesOutside (boundText named text) =
      slotsFrom named 0 (nameKind.piecesOutside text) := by
  rw [boundText, render_eq, ← written_slotsFrom named slotKind rfl]
  exact (replaces_slotsFrom named 0 _).piecesOutside_eq lawful_nameKind lawful_slotKind
    (fun _ => rfl) (fun _ => Text.isWord_of_isDigit) hnone

end Pieces

/-! ## Directives -/

/-- As many directives as values, as in `%s, %s`. -/
def percents (count : Nat) : String := ", ".intercalate (List.replicate count "%s")

theorem percents_one : (percents 1).toList = ['%', 's'] := by decide

theorem percents_add_two (count : Nat) :
    (percents (count + 2)).toList = '%' :: 's' :: ',' :: ' ' :: (percents (count + 1)).toList := by
  rw [percents, percents, List.replicate_succ, List.replicate_succ, String.intercalate_cons_cons]
  simp

theorem formatPieces_slot {values rest : List Value} {value : Value} {bound : Nat}
    (hdrop : values.drop bound = value :: rest)
    (hlength : (Nat.toDigits 10 values.length).length ≤ 4300)
    {pieces : List Piece} {sql : List Char} {params : List Value}
    (hpieces : formatPieces values pieces = .ok (sql, params)) :
    formatPieces values (.token (Nat.toDigits 10 (bound + 1)) :: pieces) =
      .ok ('%' :: 's' :: sql, value :: params) := by
  have hget : values[bound]? = some value := by
    rw [← List.head?_drop, hdrop, List.head?_cons]
  have hlt : bound < values.length := (List.getElem?_eq_some_iff.1 hget).1
  have hdigits : (Nat.toDigits 10 (bound + 1)).length ≤ 4300 :=
    Nat.le_trans (length_toDigits_mono hlt) hlength
  have hnumber : slotNumber (Nat.toDigits 10 (bound + 1)) = .ok (bound + 1) := by
    rw [slotNumber, if_pos hdigits, Text.decimalValue_toDigits]
  have hvalue : valueAt values (bound + 1) = .ok value := by rw [valueAt, hget]
  exact formatPieces_token hnumber hvalue hpieces

theorem formatPieces_slotPieces {values items rest : List Value} {bound : Nat}
    (hdrop : values.drop bound = items ++ rest)
    (hlength : (Nat.toDigits 10 values.length).length ≤ 4300)
    {pieces : List Piece} {sql : List Char} {params : List Value}
    (hpieces : formatPieces values pieces = .ok (sql, params)) :
    formatPieces values (slotPieces (bound + 1) items.length ++ pieces) =
      .ok ((percents items.length).toList ++ sql, items ++ params) := by
  induction items generalizing bound with
  | nil => exact hpieces
  | cons value items ih =>
    have hnext : values.drop (bound + 1) = items ++ rest := by
      rw [← List.drop_drop, hdrop]
      rfl
    cases items with
    | nil =>
      rw [List.length_singleton, percents_one]
      exact formatPieces_slot hdrop hlength hpieces
    | cons other items =>
      rw [List.length_cons, List.length_cons, slotPieces, percents_add_two]
      exact formatPieces_slot hdrop hlength (formatPieces_char ',' (formatPieces_char ' ' (ih hnext)))

theorem formatPieces_slotsFrom {named : Row} {values : List Value} {bound : Nat}
    {pieces : List Piece} (hdrop : values.drop bound = valuesOf named pieces)
    (hlength : (Nat.toDigits 10 values.length).length ≤ 4300) :
    formatPieces values (slotsFrom named bound pieces) =
      .ok (renderFrom named escapePercent (fun _ items => (percents items.length).toList)
        bound pieces, valuesOf named pieces) := by
  induction pieces generalizing bound with
  | nil => rfl
  | cons piece rest ih =>
    cases piece with
    | char c => exact formatPieces_char c (ih hdrop)
    | token name =>
      have hnext : values.drop (bound + (itemsOf named (String.ofList name)).length) =
          valuesOf named rest := by
        rw [← List.drop_drop, hdrop, valuesOf_token, List.drop_left]
      exact formatPieces_slotPieces hdrop hlength (ih hnext)

/-! ## Bound templates in every style -/

theorem qmarkText_boundText (named : Row) {text : List Char} (hnone : slotKind.starts text = []) :
    qmarkText (String.ofList (boundText named text)) =
      String.ofList (render named (fun c => [c])
        (fun bound items => (numbered "?" (bound + 1) items.length).toList) text) := by
  have hmark : "?".toList = [questionKind.mark] := rfl
  rw [qmarkText, String.toList_ofList, piecesOutside_boundText named hnone, flatMap_qmarkPiece,
    written_slotsFrom named questionKind hmark, render_eq]

theorem prepare_format_boundText (named : Row) {text : List Char}
    (hnone : slotKind.starts text = [])
    (hlength : (Nat.toDigits 10 (boundValues named text).length).length ≤ 4300) :
    Query.prepare ⟨String.ofList (boundText named text), boundValues named text⟩ .format =
      .ok ⟨String.ofList (render named escapePercent
        (fun _ items => (percents items.length).toList) text), boundValues named text⟩ := by
  have hvalues : boundValues named text = valuesOf named (nameKind.piecesOutside text) := by
    rw [boundValues_eq, renderFrom_values]
  have hformat := formatPieces_slotsFrom ((List.drop_zero).trans hvalues) hlength
  rw [Query.prepare, String.toList_ofList, piecesOutside_boundText named hnone]
  dsimp only
  rw [hformat, render_eq, ← hvalues]
  rfl

/-- A bound template that had no placeholders of its own can be prepared in every style, with the
values in their order and a parameter for each: its placeholders are those that binding wrote, from
the first number to the last. Numbers of more than 4300 digits are not read, and no list is so long
that its length is one. -/
theorem prepare_of_bind {template : String} {named : Row} {query : Query}
    (hnone : slotKind.starts template.toList = []) (hbind : bind template named = .ok query) :
    ((Nat.toDigits 10 query.values.length).length ≤ 4300 →
      query.prepare .format =
        .ok ⟨String.ofList (render named escapePercent
          (fun _ items => (percents items.length).toList) template.toList), query.values⟩) ∧
    query.prepare .qmark =
      .ok ⟨String.ofList (render named (fun c => [c])
        (fun bound items => (numbered "?" (bound + 1) items.length).toList) template.toList),
        query.values⟩ ∧
    query.prepare .numeric = .ok ⟨query.text, query.values⟩ ∧
    (slotKind.starts query.text.toList).map (slotKind.bodyAt query.text.toList) =
      (List.range' 1 query.values.length).map (Nat.toDigits 10) := by
  obtain rfl := eq_of_bind hbind
  refine ⟨prepare_format_boundText named hnone, ?_, rfl, ?_⟩
  · rw [Query.prepare, qmarkText_boundText named hnone]
  · rw [← bodies_piecesOutside lawful_slotKind, String.toList_ofList,
      piecesOutside_boundText named hnone, bodies_slotsFrom, boundValues_eq, renderFrom_values]

theorem prepare_of_bind_fused :
    let named : Row := (Fields.empty.insert "a" (.list [])).insert "ids" (.tuple [.int 4, .int 5])
    ∃ query, bind "'x':a'y' LIKE '%$1' AND t IN (:ids)" named = .ok query ∧
      query.prepare .format =
        .ok ⟨"'x''y' LIKE '%%$1' AND t IN (%s, %s)", [.int 4, .int 5]⟩ ∧
      query.prepare .qmark =
        .ok ⟨"'x''y' LIKE '%$1' AND t IN (?1, ?2)", [.int 4, .int 5]⟩ := by
  intro named
  have hnone : slotKind.starts "'x':a'y' LIKE '%$1' AND t IN (:ids)".toList = [] := by decide
  have hbind : bind "'x':a'y' LIKE '%$1' AND t IN (:ids)" named =
      .ok ⟨"'x''y' LIKE '%$1' AND t IN ($1, $2)", [.int 4, .int 5]⟩ := rfl
  have hdirectives : render named escapePercent (fun _ items => (percents items.length).toList)
      "'x':a'y' LIKE '%$1' AND t IN (:ids)".toList =
        "'x''y' LIKE '%%$1' AND t IN (%s, %s)".toList := by decide
  have hmarks : render named (fun c => [c])
      (fun bound items => (numbered "?" (bound + 1) items.length).toList)
      "'x':a'y' LIKE '%$1' AND t IN (:ids)".toList =
        "'x''y' LIKE '%$1' AND t IN (?1, ?2)".toList := by decide
  obtain ⟨hformat, hqmark, -, -⟩ := prepare_of_bind hnone hbind
  rw [hdirectives, String.ofList_toList] at hformat
  rw [hmarks, String.ofList_toList] at hqmark
  exact ⟨_, hbind, hformat (by decide), hqmark⟩

end ParamSql.Template
