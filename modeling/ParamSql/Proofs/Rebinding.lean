import ParamSql.Proofs.Alignment
import ParamSql.Proofs.Statements

/-!
# Binding a bound template

A token that binds a value leaves placeholders behind, which end in a digit: a colon after them opens a
token no more than one after the name did. So a bound template holds no token, and its literals are
those of the template.
-/

namespace ParamSql.Sql

namespace TokenKind

/-! ## Literals among marked characters -/

def literalsOfMarks (marks : List (Bool × Char)) : List Segment :=
  (segmentsOfMarks marks).filter Segment.literal

/-- Whether the first character belongs to a literal. -/
def startsInside (marks : List (Bool × Char)) : Bool := marks.head?.any Prod.fst

theorem segmentsOfMarks_cons (mark : Bool × Char) (marks : List (Bool × Char)) :
    segmentsOfMarks (mark :: marks) = addMarked mark (segmentsOfMarks marks) := rfl

theorem literal_head_segmentsOfMarks (marks : List (Bool × Char)) :
    (segmentsOfMarks marks).head?.any Segment.literal = startsInside marks := by
  cases marks with
  | nil => rfl
  | cons mark marks =>
    rw [segmentsOfMarks_cons]
    cases segmentsOfMarks marks with
    | nil => rfl
    | cons segment segments =>
      rw [addMarked]
      split <;> rfl

theorem literalsOfMarks_outside (c : Char) (marks : List (Bool × Char)) :
    literalsOfMarks ((false, c) :: marks) = literalsOfMarks marks := by
  unfold literalsOfMarks
  rw [segmentsOfMarks_cons]
  cases segmentsOfMarks marks with
  | nil => rfl
  | cons segment segments =>
    rw [addMarked]
    split
    · next h => rw [List.filter_cons_of_neg (by simp), List.filter_cons_of_neg (by simp [h])]
    · rw [List.filter_cons_of_neg (by simp)]

theorem literalsOfMarks_run (run : List Char) (marks : List (Bool × Char)) :
    literalsOfMarks (run.map (Prod.mk false) ++ marks) = literalsOfMarks marks := by
  induction run with
  | nil => rfl
  | cons c run ih => rw [List.map_cons, List.cons_append, literalsOfMarks_outside, ih]

theorem literalsOfMarks_inside (c : Char) (marks : List (Bool × Char)) :
    literalsOfMarks ((true, c) :: marks) =
      if startsInside marks then addMarked (true, c) (literalsOfMarks marks)
      else ⟨true, [c]⟩ :: literalsOfMarks marks := by
  rw [← literal_head_segmentsOfMarks]
  unfold literalsOfMarks
  rw [segmentsOfMarks_cons]
  cases segmentsOfMarks marks with
  | nil => rfl
  | cons segment segments =>
    rw [List.head?_cons, Option.any_some]
    cases hliteral : segment.literal with
    | true =>
      rw [if_pos rfl, List.filter_cons_of_pos hliteral, addMarked, if_pos hliteral, addMarked,
        if_pos hliteral, List.filter_cons_of_pos rfl]
    | false =>
      have hne : segment.literal ≠ true := by simp [hliteral]
      rw [if_neg Bool.false_ne_true, addMarked, if_neg hne, List.filter_cons_of_pos rfl]

theorem literalsOfMarks_quoteMarks (text : List Char) :
    literalsOfMarks (quoteMarks false text) = (segments text).filter Segment.literal := by
  rw [literalsOfMarks, segmentsOfMarks_quoteMarks]

/-! ## Runs in the place of tokens -/

variable {kind : TokenKind}

/-- Characters that take the place of a token: no more than after a token can one open after them. -/
structure Filler (kind : TokenKind) (run : List Char) : Prop where
  ne_nil : run ≠ []
  quote_not_mem : '\'' ∉ run
  mark_not_mem : kind.mark ∉ run
  stops : kind.Stops run
  closed : kind.opensAfter run.getLast? = false

/-- The text has a filler for each token of the pieces. -/
inductive Fills (kind : TokenKind) : List Piece → List Char → Prop
  | nil : Fills kind [] []
  | char {c : Char} {pieces : List Piece} {text : List Char} :
    Fills kind pieces text → Fills kind (.char c :: pieces) (c :: text)
  | token {body run : List Char} {pieces : List Piece} {text : List Char} :
    kind.Filler run → Fills kind pieces text → Fills kind (.token body :: pieces) (run ++ text)

theorem reads_run {run : List Char} (hne : run ≠ []) (hquote : '\'' ∉ run)
    (hmark : kind.mark ∉ run) {rest : List Piece}
    (hrest : kind.Reads (kind.opensAfter run.getLast?) false rest) (free : Bool) :
    kind.Reads free false (run.map .char ++ rest) := by
  induction run generalizing free with
  | nil => exact absurd rfl hne
  | cons c run ih =>
    rw [List.map_cons, List.cons_append, reads_char, openAfter_of_mem hquote List.mem_cons_self]
    refine ⟨fun _ hc => absurd List.mem_cons_self (hc ▸ hmark), ?_⟩
    cases run with
    | nil => exact hrest
    | cons d run =>
      rw [List.getLast?_cons_cons] at hrest
      exact ih (List.cons_ne_nil d run) (List.not_mem_of_not_mem_cons hquote)
        (List.not_mem_of_not_mem_cons hmark) hrest _

theorem startsInside_run {run : List Char} (hne : run ≠ []) (marks : List (Bool × Char)) :
    startsInside (run.map (Prod.mk false) ++ marks) = false := by
  cases run with
  | nil => exact absurd rfl hne
  | cons c run => rfl

/-! ## Filled texts -/

namespace Fills

variable {pieces : List Piece} {text : List Char} {free inside : Bool}

theorem quote_mem_iff (hkind : kind.Lawful) (h : kind.Fills pieces text)
    (hreads : kind.Reads free inside pieces) : '\'' ∈ text ↔ '\'' ∈ kind.written pieces := by
  induction h generalizing free inside with
  | nil => rfl
  | char _ ih => rw [written_char, List.mem_cons, List.mem_cons, ih hreads.2]
  | token hrun _ ih =>
    obtain ⟨-, -, -, hbody, -, hreads⟩ := hreads
    rw [written_token, ← List.cons_append, List.mem_append, List.mem_append, ih hreads]
    exact or_congr_left (iff_of_false hrun.quote_not_mem (hkind.quote_not_mem hbody))

theorem stops (h : kind.Fills pieces text) (hstop : kind.Stops (kind.written pieces)) :
    kind.Stops text := by
  cases h with
  | nil => exact hstop
  | char _ => exact kind.stops_cons.2 (kind.stops_cons.1 hstop)
  | @token body run _ _ hrun _ =>
    obtain ⟨c, run, rfl⟩ := List.exists_cons_of_ne_nil hrun.ne_nil
    exact kind.stops_cons.2 (kind.stops_cons.1 hrun.stops)

theorem reads (hkind : kind.Lawful)
    (hclosed : ∀ c, kind.body c = true → kind.opensAfter (some c) = false)
    (h : kind.Fills pieces text) (hreads : kind.Reads free inside pieces) :
    kind.Reads free inside (text.map .char) := by
  induction h generalizing free inside with
  | nil => trivial
  | char htail ih =>
    rw [reads_char] at hreads
    rw [List.map_cons, reads_char, written_map_char,
      openAfter_congr (htail.quote_mem_iff hkind hreads.2)]
    exact ⟨fun hinside hc hfree => htail.stops (hreads.1 hinside hc hfree), ih hreads.2⟩
  | @token body run _ _ hrun _ ih =>
    obtain ⟨rfl, -, hne, hbody, -, hreads⟩ := hreads
    have hafter : kind.opensAfter body.getLast? = kind.opensAfter run.getLast? := by
      rw [hrun.closed, List.getLast?_eq_some_getLast hne]
      exact hclosed _ (hbody _ (List.getLast_mem hne))
    rw [hafter] at hreads
    rw [List.map_append]
    exact reads_run hrun.ne_nil hrun.quote_not_mem hrun.mark_not_mem (ih hreads) free

theorem literals (hkind : kind.Lawful) (h : kind.Fills pieces text)
    (hreads : kind.Reads free inside pieces) :
    literalsOfMarks (quoteMarks inside text) =
        literalsOfMarks (quoteMarks inside (kind.written pieces)) ∧
      startsInside (quoteMarks inside text) =
        startsInside (quoteMarks inside (kind.written pieces)) := by
  induction h generalizing free inside with
  | nil => exact ⟨rfl, rfl⟩
  | @char c pieces text htail ih =>
    obtain ⟨hliterals, hstarts⟩ := ih hreads.2
    rw [written_char, quoteMarks, quoteMarks, openAfter_congr (htail.quote_mem_iff hkind hreads.2)]
    refine ⟨?_, rfl⟩
    cases inside || openAfter inside c (kind.written pieces) with
    | false => rw [literalsOfMarks_outside, literalsOfMarks_outside, hliterals]
    | true => rw [literalsOfMarks_inside, literalsOfMarks_inside, hliterals, hstarts]
  | @token body run pieces text hrun _ ih =>
    obtain ⟨rfl, -, -, hbody, -, hreads⟩ := hreads
    rw [written_token, ← List.cons_append, quoteMarks_append hrun.quote_not_mem,
      quoteMarks_append (hkind.quote_not_mem hbody)]
    refine ⟨?_, ?_⟩
    · rw [literalsOfMarks_run, literalsOfMarks_run, (ih hreads).1]
    · rw [startsInside_run hrun.ne_nil, startsInside_run (List.cons_ne_nil _ _)]

end Fills

theorem Fills.piecesOutside_eq (hkind : kind.Lawful)
    (hclosed : ∀ c, kind.body c = true → kind.opensAfter (some c) = false) {text filled : List Char}
    (h : kind.Fills (kind.piecesOutside text) filled) :
    kind.piecesOutside filled = filled.map .char := by
  rw [piecesOutside_eq_iff hkind]
  exact ⟨h.reads hkind hclosed (reads_piecesOutside hkind text), kind.written_map_char filled⟩

theorem Fills.literals_eq (hkind : kind.Lawful) {text filled : List Char}
    (h : kind.Fills (kind.piecesOutside text) filled) :
    (segments filled).filter Segment.literal = (segments text).filter Segment.literal := by
  have hliterals := (h.literals hkind (reads_piecesOutside hkind text)).1
  rw [written_piecesOutside] at hliterals
  rw [← literalsOfMarks_quoteMarks, hliterals, literalsOfMarks_quoteMarks]

end TokenKind

end ParamSql.Sql

namespace ParamSql.Template

open Sql TokenKind

/-! ## Placeholders in the place of names -/

theorem opensName_of_word {c : Char} (hc : Text.isWord c = true) : opensName (some c) = false := by
  simp [opensName, hc]

theorem exists_numbered_eq (start count : Nat) :
    ∃ rest, (numbered "$" start (count + 1)).toList = '$' :: rest := by
  cases count with
  | zero =>
    rw [numbered_one, String.toList_append]
    exact ⟨_, rfl⟩
  | succ count =>
    rw [numbered_add_two, String.append_assoc, String.append_assoc, String.toList_append]
    exact ⟨_, rfl⟩

theorem opensName_numbered (start count : Nat) :
    opensName (numbered "$" start (count + 1)).toList.getLast? = false := by
  induction count generalizing start with
  | zero =>
    have hdigits : (toString start).toList = Nat.toDigits 10 start := by simp
    rw [numbered_one, String.toList_append, hdigits,
      List.getLast?_append_of_ne_nil _ Nat.toDigits_ne_nil,
      List.getLast?_eq_some_getLast Nat.toDigits_ne_nil]
    exact opensName_of_word (Text.isWord_of_isDigit
      (Text.isDigit_of_mem_toDigits (List.getLast_mem Nat.toDigits_ne_nil)))
  | succ count ih =>
    have hlast := ih (start + 1)
    obtain ⟨rest, hrest⟩ := exists_numbered_eq (start + 1) count
    rw [hrest] at hlast
    rw [numbered_add_two, String.toList_append, hrest,
      List.getLast?_append_of_ne_nil _ (List.cons_ne_nil _ _)]
    exact hlast

theorem filler_numbered (start count : Nat) :
    nameKind.Filler (numbered "$" start (count + 1)).toList where
  ne_nil := by
    obtain ⟨rest, hrest⟩ := exists_numbered_eq start count
    rw [hrest]
    exact List.cons_ne_nil _ _
  quote_not_mem := not_mem_numbered (by decide) (by decide) _ _
  mark_not_mem := not_mem_numbered (by decide) (by decide) _ _
  stops := by
    obtain ⟨rest, hrest⟩ := exists_numbered_eq start count
    rw [hrest]
    exact nameKind.stops_cons.2 (by decide)
  closed := opensName_numbered start count

theorem fills_renderFrom {named : Row} (bound : Nat) {pieces : List Piece}
    (h : ∀ name ∈ pieces.filterMap Piece.body?, itemsOf named (String.ofList name) ≠ []) :
    nameKind.Fills pieces (renderFrom named (fun c => [c])
      (fun bound items => (numbered "$" (bound + 1) items.length).toList) bound pieces) := by
  induction pieces generalizing bound with
  | nil => exact .nil
  | cons piece rest ih =>
    cases piece with
    | char c => exact .char (ih bound h)
    | token name =>
      obtain ⟨value, items, hitems⟩ :=
        List.exists_cons_of_ne_nil (h name List.mem_cons_self)
      have hrun : nameKind.Filler
          (numbered "$" (bound + 1) (itemsOf named (String.ofList name)).length).toList := by
        rw [hitems]
        exact filler_numbered _ _
      exact .token hrun (ih _ fun other hother => h other (List.mem_cons_of_mem _ hother))

theorem fills_boundText {named : Row} {text : List Char}
    (h : ∀ p ∈ nameKind.starts text, itemsOf named (nameAt text p) ≠ []) :
    nameKind.Fills (nameKind.piecesOutside text) (boundText named text) := by
  rw [boundText, render_eq]
  apply fills_renderFrom
  rw [bodies_piecesOutside lawful_nameKind]
  exact List.forall_mem_map.2 h

/-! ## Bound templates as templates -/

theorem bind_of_plain {text : String} (h : nameKind.piecesOutside text.toList = text.toList.map .char)
    (named : Row) : bind text named = .ok ⟨text, []⟩ := by
  have hpieces : ∀ (bound : Nat) (chars : List Char),
      bindPieces named bound (chars.map .char) = .ok (chars, []) := by
    intro bound chars
    induction chars with
    | nil => rfl
    | cons c chars ih => rw [List.map_cons, bindPieces, ih]; rfl
  rw [bind, h, hpieces]
  dsimp only
  rw [String.ofList_toList]

/-- Where each token binds a value, a bound template is bound already, whatever names have values, and
has the literals of the template, in their order. -/
theorem bind_of_bound {template : String} {named : Row} {query : Query}
    (hbind : bind template named = .ok query)
    (hitems : ∀ p ∈ nameKind.starts template.toList,
      itemsOf named (nameAt template.toList p) ≠ []) :
    (∀ other, bind query.text other = .ok ⟨query.text, []⟩) ∧
      (segments query.text.toList).filter Segment.literal =
        (segments template.toList).filter Segment.literal := by
  have hfills := fills_boundText hitems
  obtain rfl := eq_of_bind hbind
  rw [String.toList_ofList]
  refine ⟨fun other => bind_of_plain ?_ other, hfills.literals_eq lawful_nameKind⟩
  rw [String.toList_ofList]
  exact hfills.piecesOutside_eq lawful_nameKind fun _ => opensName_of_word

theorem bind_of_bound_beside :
    let named : Row := (Fields.empty.insert "a" (.tuple [.int 1, .text ":b"])).insert "b" .null
    ∃ query, bind "':a':a':b', :b::int, x:a, :a:b -- it's" named = .ok query ∧
      query.text = "':a'$1, $2':b', $3::int, x:a, $4, $5:b -- it's" ∧
      bind query.text Fields.empty = .ok ⟨query.text, []⟩ ∧
      bind query.text named = .ok ⟨query.text, []⟩ ∧
      (segments query.text.toList).filter Segment.literal =
        [⟨true, "':a'".toList⟩, ⟨true, "':b'".toList⟩] := by
  intro named
  have hbind : bind "':a':a':b', :b::int, x:a, :a:b -- it's" named =
      .ok ⟨"':a'$1, $2':b', $3::int, x:a, $4, $5:b -- it's",
        [.int 1, .text ":b", .null, .int 1, .text ":b"]⟩ := rfl
  have hitems : ∀ p ∈ nameKind.starts "':a':a':b', :b::int, x:a, :a:b -- it's".toList,
      itemsOf named (nameAt "':a':a':b', :b::int, x:a, :a:b -- it's".toList p) ≠ [] := by
    decide +kernel
  obtain ⟨hagain, hliterals⟩ := bind_of_bound hbind hitems
  refine ⟨_, hbind, rfl, hagain _, hagain _, ?_⟩
  rw [hliterals]
  rfl

-- A token that binds nothing may leave a new token behind.
example : bind ":a:b" (Fields.empty.insert "a" (.list [])) = .ok ⟨":b", []⟩ := rfl

end ParamSql.Template
