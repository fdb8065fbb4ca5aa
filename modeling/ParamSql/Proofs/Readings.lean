import Mathlib.Data.List.TakeWhile
import ParamSql.Proofs.Tokens

/-!
# Readings of a text

Pieces are a reading of a text if each of them is what has to be read at its place. A text has one
reading, and cutting it into segments first finds that one.
-/

namespace ParamSql.Sql

namespace TokenKind

variable (kind : TokenKind)

/-! ## Pieces and their text -/

/-- The text that some pieces were read from. -/
def written (pieces : List Piece) : List Char := pieces.flatMap (Piece.source kind)

@[simp] theorem written_nil : kind.written [] = [] := rfl

@[simp] theorem written_char (c : Char) (rest : List Piece) :
    kind.written (.char c :: rest) = c :: kind.written rest := rfl

@[simp] theorem written_token (body : List Char) (rest : List Piece) :
    kind.written (.token body :: rest) = kind.mark :: (body ++ kind.written rest) := rfl

@[simp] theorem written_append (pieces others : List Piece) :
    kind.written (pieces ++ others) = kind.written pieces ++ kind.written others :=
  List.flatMap_append

@[simp] theorem written_map_char (text : List Char) : kind.written (text.map .char) = text := by
  induction text with
  | nil => rfl
  | cons c rest ih => rw [List.map_cons, written_char, ih]

theorem written_segmentPieces (segment : Segment) :
    kind.written (kind.segmentPieces segment) = segment.text := by
  rw [segmentPieces]
  split
  · exact kind.written_map_char segment.text
  · exact kind.flatMap_source_pieces segment.text

theorem written_flatMap_segmentPieces (segments : List Segment) :
    kind.written (segments.flatMap kind.segmentPieces) = segments.flatMap Segment.text := by
  induction segments with
  | nil => rfl
  | cons segment segments ih =>
    rw [List.flatMap_cons, written_append, written_segmentPieces, ih, List.flatMap_cons]

theorem written_piecesOutside (text : List Char) :
    kind.written (kind.piecesOutside text) = text := by
  rw [piecesOutside, written_flatMap_segmentPieces, flatMap_text_segments]

/-- No character of a body comes next. -/
def Stops (text : List Char) : Prop := text.takeWhile kind.body = []

theorem stops_nil : kind.Stops [] := rfl

theorem stops_cons {c : Char} {rest : List Char} :
    kind.Stops (c :: rest) ↔ kind.body c = false := by
  rw [Stops, List.takeWhile_cons]
  split <;> simp_all

theorem stops_dropWhile (text : List Char) : kind.Stops (text.dropWhile kind.body) := by
  induction text with
  | nil => rfl
  | cons c rest ih =>
    rw [List.dropWhile_cons]
    split
    · exact ih
    · next h => exact kind.stops_cons.2 (by simpa using h)

variable {kind}

theorem stops_append {text rest : List Char} (htext : kind.Stops text) (hrest : kind.Stops rest) :
    kind.Stops (text ++ rest) := by
  cases text with
  | nil => exact hrest
  | cons c text => exact kind.stops_cons.2 (kind.stops_cons.1 htext)

theorem takeWhile_of_stops {body rest : List Char} (hbody : ∀ c ∈ body, kind.body c = true)
    (hstop : kind.Stops rest) : (body ++ rest).takeWhile kind.body = body := by
  rw [List.takeWhile_append_of_pos hbody, hstop, List.append_nil]

/-! ## Readings -/

variable (kind)

/-- The pieces are a reading of their text, where `free` tells whether a token may open right away
and `inside` whether a literal is open. -/
def Reads : Bool → Bool → List Piece → Prop
  | _, _, [] => True
  | free, inside, .char c :: rest =>
    (inside = false → c = kind.mark → free = true → kind.Stops (kind.written rest)) ∧
      Reads (kind.opensAfter (some c)) (openAfter inside c (kind.written rest)) rest
  | free, inside, .token body :: rest =>
    inside = false ∧ free = true ∧ body ≠ [] ∧ (∀ c ∈ body, kind.body c = true) ∧
      kind.Stops (kind.written rest) ∧ Reads (kind.opensAfter body.getLast?) false rest

variable {kind}

theorem reads_char {free inside : Bool} {c : Char} {rest : List Piece} :
    kind.Reads free inside (.char c :: rest) ↔
      (inside = false → c = kind.mark → free = true → kind.Stops (kind.written rest)) ∧
        kind.Reads (kind.opensAfter (some c)) (openAfter inside c (kind.written rest)) rest := Iff.rfl

theorem reads_token {free inside : Bool} {body : List Char} {rest : List Piece} :
    kind.Reads free inside (.token body :: rest) ↔
      inside = false ∧ free = true ∧ body ≠ [] ∧ (∀ c ∈ body, kind.body c = true) ∧
        kind.Stops (kind.written rest) ∧ kind.Reads (kind.opensAfter body.getLast?) false rest :=
  Iff.rfl

theorem Reads.unique {free inside : Bool} {pieces others : List Piece}
    (h : kind.Reads free inside pieces) (hother : kind.Reads free inside others)
    (htext : kind.written pieces = kind.written others) : pieces = others := by
  induction pieces generalizing free inside others with
  | nil =>
    rcases others with _ | ⟨_ | _, others⟩
    · rfl
    all_goals simp at htext
  | cons piece pieces ih =>
    rcases piece with c | body <;> rcases others with _ | ⟨d | other, others⟩
    all_goals simp at htext
    · obtain ⟨rfl, htext⟩ := htext
      rw [ih h.2 (htext ▸ hother.2) htext]
    · -- A mark that opens a token is no character of its own.
      obtain ⟨rfl, htext⟩ := htext
      obtain ⟨hinside, hfree, hne, hbody, hstop, -⟩ := hother
      have hnone := h.1 hinside rfl hfree
      rw [Stops, htext, takeWhile_of_stops hbody hstop] at hnone
      exact absurd hnone hne
    · obtain ⟨rfl, htext⟩ := htext
      obtain ⟨hinside, hfree, hne, hbody, hstop, -⟩ := h
      have hnone := hother.1 hinside rfl hfree
      rw [Stops, ← htext, takeWhile_of_stops hbody hstop] at hnone
      exact absurd hnone hne
    · obtain ⟨-, -, -, hbody, hstop, hrest⟩ := h
      obtain ⟨-, -, -, hbody', hstop', hrest'⟩ := hother
      obtain rfl : body = other := by
        rw [← takeWhile_of_stops hbody hstop, htext, takeWhile_of_stops hbody' hstop']
      rw [ih hrest hrest' (List.append_cancel_left htext)]

/-! ## The reading that segments give -/

theorem scan_eq_scan_drop (previous : Option Char) (skip : Nat) (text : List Char) :
    kind.scan previous skip text =
      kind.scan ((text.take skip).getLast?.or previous) 0 (text.drop skip) := by
  induction text generalizing previous skip with
  | nil => cases skip <;> rfl
  | cons c rest ih =>
    cases skip with
    | zero => rfl
    | succ skip =>
      rw [scan, ih, List.take_succ_cons, List.drop_succ_cons, List.getLast?_cons]
      cases (rest.take skip).getLast? <;> rfl

theorem quoteMarks_of_append (run : List Char) {rest : List Char} {marks : List (Bool × Char)}
    (h : quoteMarks false (run ++ rest) = run.map (Prod.mk false) ++ marks) :
    quoteMarks false rest = marks := by
  induction run with
  | nil => exact h
  | cons c run ih =>
    rw [List.cons_append, quoteMarks, List.map_cons, List.cons_append, List.cons.injEq,
      Prod.mk.injEq, Bool.false_or] at h
    obtain ⟨⟨hopen, -⟩, hrest⟩ := h
    rw [hopen] at hrest
    exact ih hrest

theorem written_scan_append (previous : Option Char) (text : List Char) (after : List Piece) :
    kind.written (kind.scan previous 0 text ++ after) = text ++ kind.written after := by
  rw [written_append, written, flatMap_source_scan, List.drop_zero]

/-- Scanning a run of characters outside literals reads it, up to where a literal opens or the text
ends. -/
theorem reads_scan {run : List Char} {after : List Piece} {marks : List (Bool × Char)}
    (previous : Option Char)
    (hmarks : quoteMarks false (run ++ kind.written after) = run.map (Prod.mk false) ++ marks)
    (hstop : kind.Stops (kind.written after)) (hafter : ∀ free, kind.Reads free false after) :
    kind.Reads (kind.opensAfter previous) false (kind.scan previous 0 run ++ after) := by
  -- A token is stepped over at once, so the induction is on the length.
  induction hlen : run.length using Nat.strongRecOn generalizing run previous with
  | _ len ih =>
    cases run with
    | nil => exact hafter _
    | cons c rest =>
      simp only [scan]
      split
      · next htoken =>
        obtain ⟨-, hopens, hne⟩ := htoken
        have hsplit := List.takeWhile_append_dropWhile (p := kind.body) (l := rest)
        have hbody : ∀ d ∈ rest.takeWhile kind.body, kind.body d = true :=
          fun d hd => List.mem_takeWhile_imp hd
        have htail := kind.stops_dropWhile rest
        rw [scan_eq_scan_drop, drop_length_takeWhile]
        generalize rest.takeWhile kind.body = body at hsplit hbody hne ⊢
        generalize rest.dropWhile kind.body = tail at hsplit htail ⊢
        subst hsplit
        rw [List.take_left, List.getLast?_eq_some_getLast hne, Option.some_or,
          ← List.getLast?_eq_some_getLast hne, List.cons_append, reads_token, written_scan_append]
        refine ⟨rfl, hopens, hne, hbody, stops_append htail hstop, ?_⟩
        have hlt : tail.length < len := by
          rw [← hlen, List.length_cons, List.length_append]
          omega
        refine ih tail.length hlt _ ?_ rfl
        exact quoteMarks_of_append (c :: body) (by simpa using hmarks)
      · next htoken =>
        have hopen : openAfter false c (rest ++ kind.written after) = false := by
          have := congrArg List.head? hmarks
          simpa [quoteMarks] using this
        have hrest : quoteMarks false (rest ++ kind.written after) =
            rest.map (Prod.mk false) ++ marks :=
          quoteMarks_of_append [c] (by simpa using hmarks)
        rw [List.cons_append, reads_char, written_scan_append, hopen]
        refine ⟨fun _ hc hfree => ?_, ?_⟩
        · refine stops_append ?_ hstop
          by_contra hne
          exact htoken ⟨hc, hfree, hne⟩
        · exact ih rest.length (by simp [← hlen]) (some c) hrest rfl

theorem exists_outside_run (text : List Char) :
    ∃ run tail, text = run ++ tail ∧
      quoteMarks false text = run.map (Prod.mk false) ++ quoteMarks false tail ∧
      (tail = [] ∨ ∃ rest, tail = '\'' :: rest ∧ openAfter false '\'' rest = true) := by
  induction text with
  | nil => exact ⟨[], [], rfl, rfl, Or.inl rfl⟩
  | cons c rest ih =>
    cases hopen : openAfter false c rest with
    | true =>
      have hc : c = '\'' := by
        by_contra hc
        rw [openAfter_of_ne hc] at hopen
        cases hopen
      subst hc
      exact ⟨[], '\'' :: rest, rfl, rfl, Or.inr ⟨rest, rfl, hopen⟩⟩
    | false =>
      obtain ⟨run, tail, rfl, hmarks, htail⟩ := ih
      refine ⟨c :: run, tail, rfl, ?_, htail⟩
      rw [quoteMarks, hopen, hmarks]
      rfl

theorem literal_of_head? {marks : List (Bool × Char)} (h : ∀ mark ∈ marks.head?, mark.1 = true) :
    ∀ segment ∈ (segmentsOfMarks marks).head?, segment.literal = true := by
  cases marks with
  | nil => simp [segmentsOfMarks]
  | cons mark marks =>
    have hmark : mark.1 = true := h mark rfl
    rw [segmentsOfMarks, List.foldr_cons]
    rcases marks.foldr addMarked [] with _ | ⟨segment, segments⟩
    · simp [addMarked, hmark]
    · rw [addMarked]
      split <;> simp [hmark]

theorem segmentsOfMarks_run {run : List Char} (hrun : run ≠ []) {marks : List (Bool × Char)}
    (h : ∀ mark ∈ marks.head?, mark.1 = true) :
    segmentsOfMarks (run.map (Prod.mk false) ++ marks) = ⟨false, run⟩ :: segmentsOfMarks marks := by
  have hhead : ∀ next ∈ (segmentsOfMarks marks).head?, false ≠ next.literal := by
    intro next hnext
    rw [literal_of_head? h next hnext]
    exact Bool.false_ne_true
  rw [segmentsOfMarks, List.foldr_append]
  exact @foldr_marks ⟨false, run⟩ hrun _ hhead

variable (kind) in
def piecesOfMarks (marks : List (Bool × Char)) : List Piece :=
  (segmentsOfMarks marks).flatMap kind.segmentPieces

theorem piecesOfMarks_literal (c : Char) (marks : List (Bool × Char)) :
    kind.piecesOfMarks ((true, c) :: marks) = .char c :: kind.piecesOfMarks marks := by
  rw [piecesOfMarks, segmentsOfMarks, List.foldr_cons, ← segmentsOfMarks, piecesOfMarks]
  rcases segmentsOfMarks marks with _ | ⟨segment, segments⟩
  · rfl
  · rw [addMarked]
    split
    · next h => simp [segmentPieces, h]
    · rfl

theorem piecesOfMarks_run {run : List Char} (hrun : run ≠ []) {marks : List (Bool × Char)}
    (h : ∀ mark ∈ marks.head?, mark.1 = true) :
    kind.piecesOfMarks (run.map (Prod.mk false) ++ marks) =
      kind.scan none 0 run ++ kind.piecesOfMarks marks := by
  rw [piecesOfMarks, segmentsOfMarks_run hrun h, List.flatMap_cons]
  rfl

theorem piecesOfMarks_quoteMarks (text : List Char) :
    kind.piecesOfMarks (quoteMarks false text) = kind.piecesOutside text := by
  rw [piecesOfMarks, segmentsOfMarks_quoteMarks]
  rfl

theorem written_piecesOfMarks (inside : Bool) (text : List Char) :
    kind.written (kind.piecesOfMarks (quoteMarks inside text)) = text := by
  rw [piecesOfMarks, written_flatMap_segmentPieces, flatMap_text_segmentsOfMarks]
  induction text generalizing inside with
  | nil => rfl
  | cons c rest ih => rw [quoteMarks, List.map_cons, ih]

theorem reads_piecesOfMarks (hkind : kind.Lawful) (text : List Char) :
    kind.Reads (kind.opensAfter none) false (kind.piecesOfMarks (quoteMarks false text)) ∧
      ∀ free, kind.Reads free true (kind.piecesOfMarks (quoteMarks true text)) := by
  induction hlen : text.length using Nat.strongRecOn generalizing text with
  | _ len ih =>
    constructor
    · obtain ⟨run, tail, rfl, hmarks, htail⟩ := exists_outside_run text
      have hstop : kind.Stops tail := by
        rcases htail with rfl | ⟨rest, rfl, -⟩
        · exact kind.stops_nil
        · exact kind.stops_cons.2 hkind.body_quote
      have hhead : ∀ mark ∈ (quoteMarks false tail).head?, mark.1 = true := by
        rcases htail with rfl | ⟨rest, rfl, hopen⟩ <;> simp_all [quoteMarks]
      -- Where a literal opens or the text ends, it does not matter what came before.
      have hafter : ∀ free, kind.Reads free false (kind.piecesOfMarks (quoteMarks false tail)) := by
        intro free
        rcases htail with rfl | ⟨rest, rfl, hopen⟩
        · trivial
        · rw [quoteMarks, hopen, Bool.or_true, piecesOfMarks_literal, reads_char,
            written_piecesOfMarks, hopen]
          exact ⟨fun _ h => absurd h.symm hkind.mark_ne_quote,
            (ih rest.length (by simp [← hlen]; omega) rest rfl).2 _⟩
      rw [hmarks]
      by_cases hrun : run = []
      · subst hrun
        exact hafter _
      · rw [piecesOfMarks_run hrun hhead]
        exact reads_scan none (by rw [written_piecesOfMarks, hmarks])
          (by rwa [written_piecesOfMarks]) hafter
    · intro free
      cases text with
      | nil => trivial
      | cons c rest =>
        have ih := ih rest.length (by simp [← hlen]) rest rfl
        rw [quoteMarks, Bool.true_or, piecesOfMarks_literal, reads_char, written_piecesOfMarks]
        refine ⟨fun h => absurd h (by decide), ?_⟩
        cases hopen : openAfter true c rest with
        | false =>
          rw [eq_quote_of_openAfter_true hopen, hkind.opens_quote]
          exact ih.1
        | true => exact ih.2 _

/-- Cutting a text into segments first finds its reading. -/
theorem reads_piecesOutside (hkind : kind.Lawful) (text : List Char) :
    kind.Reads (kind.opensAfter none) false (kind.piecesOutside text) := by
  rw [← piecesOfMarks_quoteMarks]
  exact (reads_piecesOfMarks hkind text).1

theorem piecesOutside_eq_iff (hkind : kind.Lawful) {text : List Char} {pieces : List Piece} :
    kind.piecesOutside text = pieces ↔
      kind.Reads (kind.opensAfter none) false pieces ∧ kind.written pieces = text := by
  constructor
  · rintro rfl
    exact ⟨reads_piecesOutside hkind text, kind.written_piecesOutside text⟩
  · rintro ⟨hreads, rfl⟩
    exact (reads_piecesOutside hkind _).unique hreads (kind.written_piecesOutside _)

end TokenKind

end ParamSql.Sql
