import Mathlib.Data.List.Chain
import ParamSql.Proofs.Literals

/-!
# Segments as runs

The literals of a text never touch one another, so its segments are the longest runs of characters
that belong to literals and of those that do not.
-/

namespace ParamSql.Sql

namespace Segment

/-- For each character, the sort of the segment. -/
def flags (segment : Segment) : List Bool := segment.text.map fun _ => segment.literal

/-- Each character with the sort of the segment. -/
def marks (segment : Segment) : List (Bool × Char) := segment.text.map (Prod.mk segment.literal)

end Segment

section Parts

variable (parts : List Segment)

theorem map_fst_marks : (parts.flatMap Segment.marks).map Prod.fst = parts.flatMap Segment.flags := by
  rw [List.map_flatMap]
  congr 1
  funext part
  simp [Segment.marks, Segment.flags, Function.comp_def]

theorem map_snd_marks : (parts.flatMap Segment.marks).map Prod.snd = parts.flatMap Segment.text := by
  rw [List.map_flatMap]
  congr 1
  funext part
  simp [Segment.marks, Function.comp_def]

theorem length_flatMap_flags :
    (parts.flatMap Segment.flags).length = (parts.flatMap Segment.text).length := by
  rw [← map_fst_marks, ← map_snd_marks, List.length_map, List.length_map]

end Parts

/-! ## Cutting a text -/

theorem opened?_of_ne {c : Char} (hc : c ≠ '\'') (rest : List Char) : opened? c rest = none :=
  if_neg hc

theorem opened?_quote (rest : List Char) : opened? '\'' rest = closing? rest := if_pos rfl

theorem eq_quote_of_opened? {c : Char} {rest : List Char} {n : Nat} (h : opened? c rest = some n) :
    c = '\'' ∧ closing? rest = some n := by
  by_cases hc : c = '\''
  · subst hc
    exact ⟨rfl, h⟩
  · rw [opened?_of_ne hc] at h
    cases h

theorem cut_eq_segments_drop (skip : Nat) (text : List Char) :
    cut skip text = segments (text.drop skip) := by
  induction text generalizing skip with
  | nil => cases skip <;> rfl
  | cons c rest ih =>
    cases skip with
    | zero => rfl
    | succ skip => exact ih skip

theorem segments_of_opened {c : Char} {rest : List Char} {n : Nat} (h : opened? c rest = some n) :
    segments (c :: rest) = ⟨true, c :: rest.take n⟩ :: cut n rest := by
  rw [segments, cut, h]

theorem segments_of_plain {c : Char} {rest : List Char} (h : opened? c rest = none) :
    segments (c :: rest) = addPlain c (segments rest) := by
  rw [segments, cut, h, segments]

theorem marks_addPlain (c : Char) (rest : List Segment) :
    (addPlain c rest).flatMap Segment.marks = (false, c) :: rest.flatMap Segment.marks := by
  unfold addPlain
  split <;> rfl

theorem literal_head_addPlain (c : Char) (rest : List Segment) :
    ∀ segment ∈ (addPlain c rest).head?, segment.literal = false := by
  unfold addPlain
  split <;> simp

/-- Outside a literal the marks are those of the one-pass count, and so are they inside one that a
quote closes. -/
theorem marks_cut (text : List Char) :
    (segments text).flatMap Segment.marks = quoteMarks false text ∧
      ∀ n, closing? text = some n →
        (text.take n).map (Prod.mk true) ++ (cut n text).flatMap Segment.marks =
          quoteMarks true text := by
  induction text with
  | nil => exact ⟨rfl, fun n hn => by simp [closing?] at hn⟩
  | cons c rest ih =>
    obtain ⟨outside, within⟩ := ih
    by_cases hc : c = '\''
    · subst hc
      constructor
      · have hopen : openAfter false '\'' rest = (opened? '\'' rest).isSome := by
          rw [openAfter_quote, opened?_quote, isSome_closing?]
          rfl
        cases hclose : opened? '\'' rest with
        | none =>
          rw [segments_of_plain hclose, marks_addPlain, outside, quoteMarks, hopen, hclose]
          rfl
        | some n =>
          rw [quoteMarks, hopen, hclose, Option.isSome_some, ← within n hclose,
            segments_of_opened hclose]
          rfl
      · intro n hn
        have hopen : openAfter true '\'' rest = false := by rw [openAfter_quote]; rfl
        rw [quoteMarks, hopen, ← outside]
        rcases closing?_quote_cases hn with rfl | ⟨tail, m, rfl, hclose, rfl⟩
        · rfl
        · -- The second quote of the pair would open a literal that ends where this one does.
          rw [segments_of_opened (opened?_quote tail ▸ hclose)]
          rfl
    · constructor
      · rw [segments_of_plain (opened?_of_ne hc rest), marks_addPlain, outside, quoteMarks,
          openAfter_of_ne hc]
        rfl
      · intro n hn
        rw [closing?_of_ne hc] at hn
        obtain ⟨m, hm, rfl⟩ := Option.map_eq_some_iff.1 hn
        rw [quoteMarks, openAfter_of_ne hc, ← within m hm]
        rfl

theorem ne_nil_cut (skip : Nat) (text : List Char) : ∀ part ∈ cut skip text, part.text ≠ [] := by
  induction text generalizing skip with
  | nil => cases skip <;> simp [cut]
  | cons c rest ih =>
    cases skip with
    | succ skip => exact ih skip
    | zero =>
      rw [cut]
      split
      · exact List.forall_mem_cons.2 ⟨List.cons_ne_nil _ _, ih _⟩
      · have ih := ih 0
        unfold addPlain
        split
        · next heq =>
          rw [heq] at ih
          exact List.forall_mem_cons.2 ⟨List.cons_ne_nil _ _, (List.forall_mem_cons.1 ih).2⟩
        · exact List.forall_mem_cons.2 ⟨List.cons_ne_nil _ _, ih⟩

theorem exists_closing_of_head {text : List Char} {segment : Segment}
    (h : segment ∈ (segments text).head?) (hliteral : segment.literal = true) :
    ∃ tail n, text = '\'' :: tail ∧ closing? tail = some n := by
  cases text with
  | nil => cases h
  | cons c rest =>
    cases hopen : opened? c rest with
    | none =>
      rw [segments_of_plain hopen] at h
      rw [literal_head_addPlain c _ segment h] at hliteral
      cases hliteral
    | some n =>
      obtain ⟨rfl, hclose⟩ := eq_quote_of_opened? hopen
      exact ⟨rest, n, rfl, hclose⟩

theorem alternate_addPlain (c : Char) {rest : List Segment}
    (h : rest.IsChain fun part next => part.literal ≠ next.literal) :
    (addPlain c rest).IsChain fun part next => part.literal ≠ next.literal := by
  rcases rest with _ | ⟨⟨_ | _, text⟩, rest⟩
  · exact .singleton _
  · rw [List.isChain_cons] at h
    exact List.isChain_cons.2 h
  · exact .cons_cons Bool.false_ne_true h

theorem alternate_cut (skip : Nat) (text : List Char) :
    (cut skip text).IsChain fun part next => part.literal ≠ next.literal := by
  induction text generalizing skip with
  | nil => cases skip <;> exact .nil
  | cons c rest ih =>
    cases skip with
    | succ skip => exact ih skip
    | zero =>
      rw [cut]
      split
      · next n hopen =>
        obtain ⟨rfl, hclose⟩ := eq_quote_of_opened? hopen
        rw [List.isChain_cons]
        refine ⟨fun next hnext heq => ?_, ih n⟩
        -- Two literals in a row would need a literal that opens right after a closing quote.
        rw [cut_eq_segments_drop] at hnext
        obtain ⟨tail, m, htail, hm⟩ := exists_closing_of_head hnext heq.symm
        rw [closing?_after hclose htail] at hm
        cases hm
      · exact alternate_addPlain c (ih 0)

/-! ## Segments of marks -/

/-- Puts a character in front, into the first segment if it is of the same sort. -/
def addMarked (entry : Bool × Char) : List Segment → List Segment
  | [] => [⟨entry.1, [entry.2]⟩]
  | segment :: rest =>
    if segment.literal = entry.1 then ⟨entry.1, entry.2 :: segment.text⟩ :: rest
    else ⟨entry.1, [entry.2]⟩ :: segment :: rest

def segmentsOfMarks (marks : List (Bool × Char)) : List Segment := marks.foldr addMarked []

theorem flatMap_text_segmentsOfMarks (marks : List (Bool × Char)) :
    (segmentsOfMarks marks).flatMap Segment.text = marks.map Prod.snd := by
  induction marks with
  | nil => rfl
  | cons mark marks ih =>
    rw [segmentsOfMarks, List.foldr_cons, ← segmentsOfMarks, List.map_cons, ← ih]
    cases segmentsOfMarks marks with
    | nil => rfl
    | cons segment segments =>
      rw [addMarked]
      split <;> rfl

theorem foldr_marks {part : Segment} (hne : part.text ≠ []) {rest : List Segment}
    (h : ∀ next ∈ rest.head?, part.literal ≠ next.literal) :
    part.marks.foldr addMarked rest = part :: rest := by
  obtain ⟨literal, text⟩ := part
  rw [Segment.marks]
  dsimp only at hne h ⊢
  induction text with
  | nil => exact absurd rfl hne
  | cons c text ih =>
    rw [List.map_cons, List.foldr_cons]
    cases text with
    | nil =>
      cases rest with
      | nil => rfl
      | cons next rest =>
        rw [List.map_nil, List.foldr_nil, addMarked, if_neg (Ne.symm (h next rfl))]
    | cons d text => rw [ih (List.cons_ne_nil _ _), addMarked, if_pos rfl]

theorem segmentsOfMarks_marks {parts : List Segment} (hne : ∀ part ∈ parts, part.text ≠ [])
    (h : parts.IsChain fun part next => part.literal ≠ next.literal) :
    segmentsOfMarks (parts.flatMap Segment.marks) = parts := by
  induction parts with
  | nil => rfl
  | cons part parts ih =>
    rw [List.forall_mem_cons] at hne
    rw [segmentsOfMarks, List.flatMap_cons, List.foldr_append, ← segmentsOfMarks, ih hne.2 h.of_cons]
    exact foldr_marks hne.1 (List.isChain_cons.1 h).1

/-- Merging the characters of the one-pass count gives the segments that the literals cut. -/
theorem segmentsOfMarks_quoteMarks (text : List Char) :
    segmentsOfMarks (quoteMarks false text) = segments text := by
  rw [← (marks_cut text).1]
  exact segmentsOfMarks_marks (ne_nil_cut 0 text) (alternate_cut 0 text)

/-! ## Flags -/

/-- For each character, whether the segment that it stands in is a literal. -/
def literalFlags (text : List Char) : List Bool :=
  (segments text).flatMap fun segment => segment.text.map fun _ => segment.literal

theorem literalFlags_eq (text : List Char) :
    literalFlags text = (quoteMarks false text).map Prod.fst := by
  rw [← (marks_cut text).1, map_fst_marks]
  rfl

theorem length_literalFlags (text : List Char) : (literalFlags text).length = text.length := by
  have hlength := length_flatMap_flags (segments text)
  rw [flatMap_text_segments] at hlength
  exact hlength

end ParamSql.Sql
